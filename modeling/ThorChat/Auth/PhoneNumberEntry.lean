import ThorChat.Auth.PhoneNumberVerificationVC
import ThorChat.Library.Transition

/-!
# Entering the Phone Number

The phone number screen between its opening and Submit: the country is selected and the field is
edited, any number of times and in any order.

## The limiter and the validator

The delegate of the field looks at where an edit begins, the validator at how many characters
the field holds. The field keeps its discipline exactly as long as every edit that begins below
ten leaves at most ten code units (`field_disciplined_iff`).
-/

namespace ThorChat.Auth.PhoneNumberVerificationVC

open ThorChat.Library
open ThorChat.Library.Utf16
open ThorChat.Runtime

/-- What the user does on the screen before Submit. -/
inductive Input where
  | didSelectCountry (country : Country)
  | edit (range : NSRange) (string : String)

/-- Handle an input. -/
def handle (vc : PhoneNumberVerificationVC) : Input → Option PhoneNumberVerificationVC
  | .didSelectCountry country => some (vc.didSelectCountry country)
  | .edit range string => vc.edit range string

/-- The country selected last, that of `viewDidLoad` as long as none is picked. -/
def lastSelected (selectedCountry : Country) : List Input → Country
  | [] => selectedCountry
  | .didSelectCountry country :: inputs => lastSelected country inputs
  | .edit _ _ :: inputs => lastSelected selectedCountry inputs

/-- The number of UTF-16 code units in the field. -/
def units (vc : PhoneNumberVerificationVC) : Nat := (encode vc.mobileNumberTFref).length

/-- Every decimal digit is a character of its own. -/
def CountsDigits (P : Platform) : Prop :=
  ∀ s : String, (∀ c ∈ s.toList, c.isDigit) → P.count s = s.length

variable {P : Platform} {vc vc' : PhoneNumberVerificationVC}

/-! ## What an input does -/

theorem edit_countryCodeLblref {range : NSRange} {string : String}
    (h : vc.edit range string = some vc') : vc'.countryCodeLblref = vc.countryCodeLblref := by
  unfold edit at h
  split at h
  · obtain ⟨text, -, rfl⟩ := Option.map_eq_some_iff.mp h
    rfl
  · rw [Option.some.injEq] at h
    exact h ▸ rfl

/-- The label shows the code of the country selected last, whatever else is done on the screen. -/
theorem run_countryCodeLblref {selectedCountry : Country} {inputs : List Input}
    (hcode : vc.countryCodeLblref = selectedCountry.phoneCode)
    (hrun : run handle vc inputs = some vc') :
    vc'.countryCodeLblref = (lastSelected selectedCountry inputs).phoneCode := by
  induction inputs generalizing vc selectedCountry with
  | nil =>
    rw [run_nil, Option.some.injEq] at hrun
    exact hrun ▸ hcode
  | cons input inputs ih =>
    obtain ⟨next, hnext, hrest⟩ := run_cons_eq_some.mp hrun
    cases input with
    | didSelectCountry country =>
      have hselected : vc.didSelectCountry country = next := Option.some.inj hnext
      exact ih (hselected ▸ rfl) hrest
    | edit range string =>
      exact ih ((edit_countryCodeLblref hnext).trans hcode) hrest

/-- The delegate allows an edit that begins below ten, and leaves the field alone otherwise. -/
theorem edit_cases {range : NSRange} {string : String} (h : vc.edit range string = some vc') :
    (range.location < 10 ∧ vc'.units + range.length = vc.units + (encode string).length) ∨
    (10 ≤ range.location ∧ vc' = vc) := by
  unfold edit at h
  split at h
  · rename_i hallowed
    obtain ⟨text, htext, rfl⟩ := Option.map_eq_some_iff.mp h
    exact Or.inl ⟨by simpa [shouldChangeCharactersIn] using hallowed,
      length_replacingCharacters htext⟩
  · rename_i hrefused
    rw [Option.some.injEq] at h
    exact Or.inr ⟨by simpa [shouldChangeCharactersIn] using hrefused, h.symm⟩

/-- An edit at the end that takes one code unit off the text or adds one to it. -/
def AtEnd (vc : PhoneNumberVerificationVC) : Input → Prop
  | .didSelectCountry _ => False
  | .edit range string =>
    range.location + range.length = vc.units ∧ range.length + (encode string).length = 1

/-- The user gets to a text that passes the validator by inputs at the end of the field. -/
def Correctable (P : Platform) (vc : PhoneNumberVerificationVC) : Prop :=
  ∃ inputs vc', EachStep handle AtEnd vc inputs ∧ run handle vc inputs = some vc' ∧
    vc'.validateSignupCredentials P = .valid

/-- The discipline of the field: its text is no longer than a number, a backspace at its end is
allowed however many code units the last character takes, and it can be corrected. -/
structure Disciplined (P : Platform) (vc : PhoneNumberVerificationVC) : Prop where
  bounded : vc.units ≤ 10
  backspace : ∀ size, 1 ≤ size → size ≤ vc.units →
    shouldChangeCharactersIn ⟨vc.units - size, size⟩ "" = true
  correctable : Correctable P vc

/-- The edit, if it begins below ten, leaves no more than ten code units. -/
def Fits (vc : PhoneNumberVerificationVC) : Input → Prop
  | .didSelectCountry _ => True
  | .edit range string => range.location < 10 →
    vc.units + (encode string).length ≤ 10 + range.length

instance (vc : PhoneNumberVerificationVC) : ∀ input, Decidable (vc.Fits input)
  | .didSelectCountry _ => inferInstanceAs (Decidable True)
  | .edit _ _ => inferInstanceAs (Decidable (_ → _))

/-! ## Correcting the number -/

/-- The validator counts characters, whatever they are. -/
theorem validateSignupCredentials_iff :
    vc.validateSignupCredentials P = .valid ↔ P.count vc.mobileNumberTFref = 10 := by
  unfold validateSignupCredentials
  split
  · rename_i hempty
    have hzero := (P.count_eq_zero vc.mobileNumberTFref).mpr (String.isEmpty_iff.mp hempty)
    simp [hzero]
  · split
    · rename_i hcount
      simp only [Bool.or_eq_true, decide_eq_true_eq] at hcount
      simp only [reduceCtorEq, false_iff]
      omega
    · rename_i hcount
      simp only [Bool.or_eq_true, decide_eq_true_eq, not_or, Nat.not_lt] at hcount
      simp only [true_iff]
      omega

theorem validateSignupCredentials_digits (hcount : CountsDigits P)
    (hdigits : ∀ c ∈ vc.mobileNumberTFref.toList, c.isDigit)
    (hlength : vc.mobileNumberTFref.length = 10) : vc.validateSignupCredentials P = .valid :=
  validateSignupCredentials_iff.mpr ((hcount _ hdigits).trans hlength)

/-- One input of a correction, and the rest of it. -/
theorem Correctable.cons {input : Input} (hend : vc.AtEnd input)
    (hstep : vc.handle input = some vc') (h : Correctable P vc') : Correctable P vc := by
  obtain ⟨inputs, last, heach, hrun, hvalid⟩ := h
  refine ⟨input :: inputs, last, ?_, (run_cons hstep inputs).trans hrun, hvalid⟩
  intro next hnext
  rw [hstep, Option.some.injEq] at hnext
  exact ⟨hend, hnext ▸ heach⟩

/-- Digits are typed one by one until there are ten. -/
theorem correctable_of_digits (hcount : CountsDigits P) {text : String}
    (hdigits : ∀ c ∈ text.toList, c.isDigit) (hunits : (encode text).length = text.length)
    (hle : text.length ≤ 10) : Correctable P { vc with mobileNumberTFref := text } := by
  induction hmissing : 10 - text.length generalizing text with
  | zero =>
    -- Nothing is missing: the text is a number
    have hten : text.length = 10 := by omega
    exact ⟨[], _, trivial, rfl, validateSignupCredentials_digits hcount hdigits hten⟩
  | succ missing ih =>
    have hlength : (text ++ "0").length = text.length + 1 := by
      rw [String.length_append]
      rfl
    have hencode : (encode (text ++ "0")).length = text.length + 1 := by
      rw [encode_append, List.length_append, hunits]
      rfl
    have hnext : Correctable P { vc with mobileNumberTFref := text ++ "0" } := by
      apply ih
      · intro c hc
        rw [String.toList_append, List.mem_append] at hc
        rcases hc with hc | hc
        · exact hdigits c hc
        · obtain rfl : c = '0' := by simpa using hc
          decide
      · rw [hencode, hlength]
      · omega
      · omega
    -- There is room for a digit at the end
    have hallowed : (encode text).length < 10 := by omega
    have hstep : PhoneNumberVerificationVC.handle { vc with mobileNumberTFref := text }
        (.edit ⟨(encode text).length, 0⟩ "0") =
          some { vc with mobileNumberTFref := text ++ "0" } := by
      simp [handle, edit, shouldChangeCharactersIn, hallowed, replacingCharacters_end]
    have hend : AtEnd { vc with mobileNumberTFref := text }
        (.edit ⟨(encode text).length, 0⟩ "0") := ⟨Nat.add_zero _, rfl⟩
    exact hnext.cons hend hstep

/-- Backspaces lead to the empty field, and typing leads from there to a number. -/
theorem correctable_of_bounded (hcount : CountsDigits P) (h : vc.units ≤ 10) :
    Correctable P vc := by
  induction hunits : vc.units generalizing vc with
  | zero =>
    -- The field is empty: the digits can be typed
    have hempty : vc.mobileNumberTFref = "" :=
      encode_eq_nil.mp (List.eq_nil_of_length_eq_zero hunits)
    have hdigits : ∀ c ∈ vc.mobileNumberTFref.toList, c.isDigit := by
      rw [hempty]
      exact fun c hc => absurd hc List.not_mem_nil
    have hdone : Correctable P { vc with mobileNumberTFref := vc.mobileNumberTFref } := by
      apply correctable_of_digits hcount hdigits
      · rw [hempty]
        rfl
      · rw [hempty]
        exact Nat.zero_le 10
    exact hdone
  | succ units ih =>
    have hbounds : NSRange.InBounds ⟨units, 1⟩ vc.mobileNumberTFref := Nat.le_of_eq hunits.symm
    -- A backspace takes the last code unit, whatever it is a part of
    obtain ⟨text, htext⟩ := replacingCharacters_of_inBounds hbounds ""
    have hallowed : units < 10 := by omega
    have hstep : vc.handle (.edit ⟨units, 1⟩ "") = some { vc with mobileNumberTFref := text } := by
      simp [handle, edit, shouldChangeCharactersIn, hallowed, htext]
    have hshorter : PhoneNumberVerificationVC.units { vc with mobileNumberTFref := text } =
        units := by
      have := length_replacingCharacters htext
      simp only [encode_empty, List.length_nil] at this
      simp only [PhoneNumberVerificationVC.units] at hunits ⊢
      omega
    have hend : vc.AtEnd (.edit ⟨units, 1⟩ "") := ⟨hunits.symm, rfl⟩
    exact (ih (by omega) hshorter).cons hend hstep

/-! ## The discipline of the field -/

theorem disciplined_of_bounded (hcount : CountsDigits P) (h : vc.units ≤ 10) :
    Disciplined P vc := by
  apply Disciplined.mk
  case bounded => exact h
  case backspace =>
    intro size hsize hle
    simp only [shouldChangeCharactersIn, decide_eq_true_eq]
    omega
  case correctable => exact correctable_of_bounded hcount h

theorem bounded_step {input : Input} (h : vc.units ≤ 10) (hfits : vc.Fits input)
    (hstep : vc.handle input = some vc') : vc'.units ≤ 10 := by
  cases input with
  | didSelectCountry country =>
    simp only [handle, Option.some.injEq] at hstep
    exact hstep ▸ h
  | edit range string =>
    -- An edit that is allowed fits; one that is refused changes nothing
    rcases edit_cases hstep with ⟨hbelow, hunits⟩ | ⟨-, rfl⟩
    · have hleft := hfits hbelow
      omega
    · exact h

theorem overflow_step {input : Input} (hfits : ¬ vc.Fits input)
    (hstep : vc.handle input = some vc') : 10 < vc'.units := by
  cases input with
  | didSelectCountry country => exact absurd trivial hfits
  | edit range string =>
    simp only [Fits, Classical.not_imp, Nat.not_le] at hfits
    obtain ⟨hbelow, hover⟩ := hfits
    rcases edit_cases hstep with ⟨-, hunits⟩ | ⟨hbeyond, -⟩
    · omega
    · exact absurd hbelow (Nat.not_lt.mpr hbeyond)

/-- **When the field keeps its discipline**: throughout every run of selections and edits, exactly
if no edit that begins below ten leaves more than ten code units. -/
theorem field_disciplined_iff (hcount : CountsDigits P) (selectedCountry : Country)
    (inputs : List Input) :
    Always handle (Disciplined P) (viewDidLoad selectedCountry) inputs ↔
      EachStep handle Fits (viewDidLoad selectedCountry) inputs := by
  apply always_iff_eachStep (I := fun vc => vc.units ≤ 10)
  · intro vc h
    exact disciplined_of_bounded hcount h
  · intro vc input vc' h hfits hstep
    exact bounded_step h hfits hstep
  · intro vc input vc' _ hfits hstep hdisciplined
    have := overflow_step hfits hstep
    have := hdisciplined.bounded
    omega
  · exact Nat.zero_le 10

theorem countsDigits_sample : CountsDigits (Platform.sample []) := fun _ _ => rfl

/-- A number that is typed, with its first digit put right, keeps the discipline. -/
theorem field_disciplined_typed :
    Always handle (Disciplined (.sample [])) (viewDidLoad ⟨"India", "+91"⟩)
      [.edit ⟨0, 0⟩ "8", .edit ⟨1, 0⟩ "876543210", .edit ⟨0, 1⟩ "9", .edit ⟨10, 0⟩ "5"] :=
  (field_disciplined_iff countsDigits_sample ⟨"India", "+91"⟩
    [.edit ⟨0, 0⟩ "8", .edit ⟨1, 0⟩ "876543210", .edit ⟨0, 1⟩ "9", .edit ⟨10, 0⟩ "5"]).mpr
    (by decide)

/-- Eleven digits are pasted, and the backspace after them is refused. -/
theorem field_locked :
    (∃ vc, run handle (viewDidLoad ⟨"India", "+91"⟩) [.edit ⟨0, 0⟩ "09876543210"] = some vc ∧
      vc.units = 11 ∧ shouldChangeCharactersIn ⟨10, 1⟩ "" = false) ∧
    ¬ Always handle (Disciplined (.sample [])) (viewDidLoad ⟨"India", "+91"⟩)
      [.edit ⟨0, 0⟩ "09876543210"] := by
  have hpaste : ∃ vc, run handle (viewDidLoad ⟨"India", "+91"⟩)
      [.edit ⟨0, 0⟩ "09876543210"] = some vc ∧ vc.units = 11 := ⟨_, rfl, rfl⟩
  obtain ⟨vc, hrun, hunits⟩ := hpaste
  refine ⟨⟨vc, hrun, hunits, rfl⟩, fun h => ?_⟩
  have := (h.last hrun).bounded
  omega

end ThorChat.Auth.PhoneNumberVerificationVC
