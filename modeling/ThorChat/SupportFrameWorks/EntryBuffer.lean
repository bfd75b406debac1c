import ThorChat.SupportFrameWorks.VPMOTPView

/-!
# The Entry Buffer of the Code Fields

In the configuration of the one-time-code screen the hidden entry buffer holds the displayed
texts. One lemma says what an edit does to a view in that state (`Synced.textField_cases`).
-/

namespace ThorChat.SupportFrameWorks

open ThorChat.Library.Utf16
open ThorChat.Runtime

namespace VPMOTPView

variable {P : Platform} {view view' : VPMOTPView} {tag : Nat} {range : NSRange}
  {string : String} {otpString : Option String}

/-! ## What the keyboard functions leave alone -/

/-- Asking for the keyboard changes the first responder at most. -/
theorem becomeFirstResponder_eq (view : VPMOTPView) (tag : Nat) :
    ∃ responder, view.becomeFirstResponder tag = { view with firstResponder := responder } := by
  unfold becomeFirstResponder
  split
  · exact ⟨some tag, rfl⟩
  · exact ⟨view.firstResponder, rfl⟩

/-- Giving the keyboard back changes the first responder at most. -/
theorem resignFirstResponder_eq (view : VPMOTPView) (tag : Nat) :
    ∃ responder, view.resignFirstResponder tag = { view with firstResponder := responder } := by
  unfold resignFirstResponder
  split
  · exact ⟨none, rfl⟩
  · exact ⟨view.firstResponder, rfl⟩

/-- Who has the keyboard does not show in the fields. -/
@[simp] theorem viewWithTag_becomeFirstResponder (tag' : Nat) :
    (view.becomeFirstResponder tag').viewWithTag tag = view.viewWithTag tag := by
  obtain ⟨responder, heq⟩ := becomeFirstResponder_eq view tag'
  rw [heq]
  rfl

@[simp] theorem viewWithTag_resignFirstResponder (tag' : Nat) :
    (view.resignFirstResponder tag').viewWithTag tag = view.viewWithTag tag := by
  obtain ⟨responder, heq⟩ := resignFirstResponder_eq view tag'
  rw [heq]
  rfl

/-- Storing a text changes what one field displays. -/
theorem viewWithTag_setEntry {tag' : Nat} {entry text shown : String} (h₁ : 1 ≤ tag')
    (hset : view.setEntry tag' entry text = some view') (ht : view.viewWithTag tag = some shown) :
    view'.viewWithTag tag = if tag' = tag then some text else some shown := by
  unfold VPMOTPView.setEntry at hset
  split at hset
  · rw [Option.some.injEq] at hset
    subst hset
    simp only [viewWithTag] at ht ⊢
    split at ht
    · exact absurd ht (by simp)
    · rename_i hne
      obtain ⟨hlt, -⟩ := List.getElem?_eq_some_iff.mp ht
      have hindex : tag' - 1 = tag - 1 ↔ tag' = tag := by omega
      simp only [hne, if_false, List.getElem?_set, hindex, ht]
      -- The tag is the one that was set, or another; a third case is out of range
      split_ifs with heq hlen
      · rfl
      · exact absurd (hindex.mpr heq ▸ hlt) hlen
      · rfl
  · exact absurd hset (by simp)

/-! ## Views whose buffer holds what they display -/

/-- Four unmasked numeric fields whose entry buffer holds the displayed texts. -/
structure Synced (view : VPMOTPView) : Prop where
  otpFieldsCount : view.otpFieldsCount = 4
  otpFieldInputType : view.otpFieldInputType = .numeric
  otpFieldEntrySecureType : view.otpFieldEntrySecureType = false
  otpFilledEntryDisplay : view.otpFilledEntryDisplay = false
  length : view.fields.length = 4
  entries : view.secureEntryData = view.fields

theorem Synced.withFirstResponder (h : Synced view) (responder : Option Nat) :
    Synced { view with firstResponder := responder } :=
  ⟨h.otpFieldsCount, h.otpFieldInputType, h.otpFieldEntrySecureType, h.otpFilledEntryDisplay,
    h.length, h.entries⟩

theorem Synced.becomeFirstResponder (h : Synced view) (tag : Nat) :
    Synced (view.becomeFirstResponder tag) := by
  obtain ⟨responder, heq⟩ := becomeFirstResponder_eq view tag
  exact heq ▸ h.withFirstResponder responder

theorem Synced.resignFirstResponder (h : Synced view) (tag : Nat) :
    Synced (view.resignFirstResponder tag) := by
  obtain ⟨responder, heq⟩ := resignFirstResponder_eq view tag
  exact heq ▸ h.withFirstResponder responder

/-- Setting up the fields of a view in this configuration empties both sides. -/
theorem Synced.initializeUI (hc : view.otpFieldsCount = 4)
    (hi : view.otpFieldInputType = .numeric) (hs : view.otpFieldEntrySecureType = false)
    (hf : view.otpFilledEntryDisplay = false) (hl : view.fields.length ≤ 4) :
    Synced view.initializeUI := by
  have hinit : Synced view.initializeOTPFields := by
    apply Synced.mk
    case otpFieldsCount =>
      exact hc
    case otpFieldInputType =>
      exact hi
    case otpFieldEntrySecureType =>
      exact hs
    case otpFilledEntryDisplay =>
      exact hf
    case length =>
      simp [initializeOTPFields, hc, hl]
    case entries =>
      simp [initializeOTPFields, hc, hl]
  exact hinit.becomeFirstResponder 1

theorem Synced.initializeUI_again (h : Synced view) : Synced view.initializeUI :=
  Synced.initializeUI h.otpFieldsCount h.otpFieldInputType h.otpFieldEntrySecureType
    h.otpFilledEntryDisplay (Nat.le_of_eq h.length)

/-- Storing a text on both sides keeps them in step. -/
theorem Synced.setEntry (h : Synced view) (hr : view.setEntry tag string string = some view') :
    Synced view' ∧ view'.fields = view.fields.set (tag - 1) string := by
  unfold VPMOTPView.setEntry at hr
  split at hr
  · rw [Option.some.injEq] at hr
    subst hr
    refine ⟨⟨h.otpFieldsCount, h.otpFieldInputType, h.otpFieldEntrySecureType,
      h.otpFilledEntryDisplay, ?_, ?_⟩, rfl⟩
    · simpa using h.length
    · simp only [h.entries]
  · exact absurd hr (by simp)

/-- Emptying a field empties its entry. -/
theorem Synced.deleteText (h : Synced view) (hr : view.deleteText tag = some view') :
    Synced view' := by
  obtain ⟨view₁, hset, rfl⟩ := Option.map_eq_some_iff.mp hr
  exact (h.setEntry hset).1.becomeFirstResponder tag

/-- A deletion keeps buffer and display in step, whichever field it empties. -/
theorem Synced.deleteEntry {text : String} (h : Synced view)
    (hr : view.deleteEntry tag text = some view') : Synced view' := by
  unfold VPMOTPView.deleteEntry at hr
  split at hr
  · split at hr
    · exact h.deleteText hr
    · rw [Option.some.injEq] at hr
      exact hr ▸ h
  · obtain ⟨view₁, hdelete, rfl⟩ := Option.map_eq_some_iff.mp hr
    have h₁ : Synced view₁ := h.deleteText hdelete
    split
    · exact h₁.becomeFirstResponder (tag - 1)
    · exact h₁

/-- Skipping the empty entries does not change the concatenation. -/
theorem foldl_append_nonempty (entries : List String) (start : String) :
    entries.foldl (fun enteredOTPString entry =>
      if entry.isEmpty then enteredOTPString else enteredOTPString ++ entry) start =
      start ++ String.join entries := by
  -- On the entries, from any start
  induction entries generalizing start with
  | nil => simp
  | cons entry rest ih =>
    rw [List.foldl_cons, ih, String.join_cons]
    by_cases he : entry.isEmpty = true
    · rw [String.isEmpty_iff.mp he]
      simp
    · simp [he, String.append_assoc]

/-- So the code of the buffer is what the fields display. -/
theorem Synced.enteredOTPString (h : Synced view) :
    view.enteredOTPString = String.join view.fields := by
  unfold VPMOTPView.enteredOTPString
  rw [foldl_append_nonempty, h.entries, String.empty_append]

/-! ## Edits -/

/-- The edit is handled as an entry: the edited text is not empty. -/
def Entry (view : VPMOTPView) (tag : Nat) (range : NSRange) (string : String) : Prop :=
  ∃ text replacedText, view.viewWithTag tag = some text ∧
    replacingCharacters text range string = some replacedText ∧ replacedText ≠ ""

instance : Decidable (view.Entry tag range string) :=
  decidable_of_iff
    ((view.viewWithTag tag).bind fun text =>
      (replacingCharacters text range string).filter fun replacedText => replacedText ≠ "").isSome
    (by
      simp only [Option.isSome_iff_exists, Option.bind_eq_some_iff, Option.filter_eq_some_iff,
        decide_eq_true_eq, Entry]
      constructor
      · rintro ⟨replacedText, text, ht, hr, hne⟩
        exact ⟨text, replacedText, ht, hr, hne⟩
      · rintro ⟨text, replacedText, ht, hr, hne⟩
        exact ⟨replacedText, text, ht, hr, hne⟩)

/-- The edit is handled as an entry and leaves four characters in the fields. -/
def Completes (P : Platform) (view : VPMOTPView) (tag : Nat) (range : NSRange)
    (string : String) : Prop :=
  view.Entry tag range string ∧ P.count (String.join (view.fields.set (tag - 1) string)) = 4

instance : Decidable (view.Completes P tag range string) :=
  inferInstanceAs (Decidable (_ ∧ _))

/-- Unmasked, a text is stored and displayed alike, and reported when four characters are there.
-/
theorem enterText_eq (h : Synced view)
    (hr : view.enterText P tag string = some (view', otpString)) :
    Synced view' ∧ view'.fields = view.fields.set (tag - 1) string ∧
      otpString = if P.count (String.join view'.fields) = 4 then some (String.join view'.fields)
        else none := by
  obtain ⟨view₁, hset, hv⟩ := Option.map_eq_some_iff.mp hr
  -- Neither mask is set in this configuration
  have hdisplayed : view.displayed string = string := by
    simp [displayed, h.otpFilledEntryDisplay, h.otpFieldEntrySecureType]
  rw [hdisplayed] at hset
  obtain ⟨h₁, hfields⟩ := h.setEntry hset
  simp only [Prod.mk.injEq] at hv
  obtain ⟨hview, hotp⟩ := hv
  -- The keyboard moves on or is given back, which changes neither side
  have hsync : Synced view' ∧ view'.fields = view₁.fields := by
    rw [← hview]
    split
    · obtain ⟨responder, heq⟩ := becomeFirstResponder_eq view₁ (tag + 1)
      exact ⟨h₁.becomeFirstResponder _, by rw [heq]⟩
    · obtain ⟨responder, heq⟩ := resignFirstResponder_eq view₁ tag
      exact ⟨h₁.resignFirstResponder _, by rw [heq]⟩
  refine ⟨hsync.1, hsync.2.trans hfields, ?_⟩
  rw [← hotp, hview]
  simp only [calculateEnteredOTPSTring, Bool.false_eq_true, if_false, hsync.1.enteredOTPString,
    hsync.1.otpFieldsCount]

/-- What an edit does: an entry stores the new text and calls the delegate if four characters
are entered, anything else calls nobody. -/
theorem Synced.textField_cases (h : Synced view)
    (hr : view.textField P tag range string = some (view', otpString)) :
    Synced view' ∧
    (view.Entry tag range string → view'.fields = view.fields.set (tag - 1) string) ∧
    ((view.Completes P tag range string ∧ view.enterText P tag string = some (view', otpString) ∧
        otpString = some (String.join view'.fields)) ∨
      (¬ view.Completes P tag range string ∧ otpString = none)) := by
  simp only [VPMOTPView.textField, Option.bind_eq_some_iff] at hr
  obtain ⟨text, htext, replacedText, hreplaced, hr⟩ := hr
  -- The filter for letters is off for numeric fields
  have halphabet : (view.otpFieldInputType = .alphabet) = False := by
    simp [h.otpFieldInputType]
  simp only [halphabet, decide_false, Bool.and_false, Bool.false_and, Bool.false_eq_true,
    if_false, ge_iff_le, P.one_le_count] at hr
  have hentry : view.Entry tag range string ↔ replacedText ≠ "" := by
    constructor
    · rintro ⟨text', replacedText', htext', hreplaced', hne⟩
      rw [htext, Option.some.injEq] at htext'
      subst htext'
      rw [hreplaced, Option.some.injEq] at hreplaced'
      exact hreplaced' ▸ hne
    · exact fun hne => ⟨text, replacedText, htext, hreplaced, hne⟩
  split at hr
  · rename_i hne
    obtain ⟨hsync, hfields, hotp⟩ := enterText_eq h hr
    refine ⟨hsync, fun _ => hfields, ?_⟩
    rw [hfields] at hotp
    -- The delegate is called by the count of all four fields together
    by_cases hcount : P.count (String.join (view.fields.set (tag - 1) string)) = 4
    · rw [if_pos hcount] at hotp
      exact Or.inl ⟨⟨hentry.mpr hne, hcount⟩, hr, by rw [hotp, hfields]⟩
    · rw [if_neg hcount] at hotp
      exact Or.inr ⟨fun hc => hcount hc.2, hotp⟩
  · rename_i hempty
    obtain ⟨view₁, hdelete, hv⟩ := Option.map_eq_some_iff.mp hr
    simp only [Prod.mk.injEq] at hv
    obtain ⟨rfl, rfl⟩ := hv
    exact ⟨h.deleteEntry hdelete, fun he => absurd (hentry.mp he) hempty,
      Or.inr ⟨fun hc => hempty (hentry.mp hc.1), rfl⟩⟩

/-- After an edit without new text the edited field is empty. -/
theorem Synced.textField_empty (h : Synced view)
    (hr : view.textField P tag range "" = some (view', otpString)) :
    view'.viewWithTag tag = some "" := by
  simp only [VPMOTPView.textField, Option.bind_eq_some_iff] at hr
  obtain ⟨text, htext, replacedText, -, hr⟩ := hr
  have htag : 1 ≤ tag := by
    -- Tag 0 is the view itself, not a field
    by_contra hzero
    simp [VPMOTPView.viewWithTag, Nat.lt_one_iff.mp (Nat.not_le.mp hzero)] at htext
  have halphabet : (view.otpFieldInputType = .alphabet) = False := by
    simp [h.otpFieldInputType]
  simp only [halphabet, decide_false, Bool.and_false, Bool.false_and, Bool.false_eq_true,
    if_false] at hr
  split at hr
  · -- an entry of the empty string
    obtain ⟨view₁, hset, hv⟩ := Option.map_eq_some_iff.mp hr
    have hdisplayed : view.displayed "" = "" := by
      simp [displayed, h.otpFilledEntryDisplay, h.otpFieldEntrySecureType]
    rw [hdisplayed] at hset
    have hself := viewWithTag_setEntry htag hset htext
    simp only [Prod.mk.injEq] at hv
    rw [← hv.1]
    split <;> simpa using hself
  · obtain ⟨view₁, hdelete, hv⟩ := Option.map_eq_some_iff.mp hr
    simp only [Prod.mk.injEq] at hv
    obtain ⟨rfl, -⟩ := hv
    unfold VPMOTPView.deleteEntry at hdelete
    split at hdelete
    · -- the field was empty already and the one before it is emptied
      rename_i hempty
      simp only [Bool.and_eq_true, decide_eq_true_eq, String.isEmpty_iff] at hempty
      obtain ⟨hgt, rfl⟩ := hempty
      split at hdelete
      · obtain ⟨view₂, hset, rfl⟩ := Option.map_eq_some_iff.mp hdelete
        have hother := viewWithTag_setEntry (by omega) hset htext
        rw [if_neg (by omega)] at hother
        simpa using hother
      · rw [Option.some.injEq] at hdelete
        exact hdelete ▸ htext
    · obtain ⟨view₂, hdelete₂, rfl⟩ := Option.map_eq_some_iff.mp hdelete
      obtain ⟨view₃, hset, rfl⟩ := Option.map_eq_some_iff.mp hdelete₂
      have hself := viewWithTag_setEntry htag hset htext
      split <;> simpa using hself

/-- An edit without new text in an empty field is no entry. -/
theorem not_entry_empty (h : view.viewWithTag tag = some "") : ¬ view.Entry tag range "" := by
  rintro ⟨text, replacedText, htext, hreplaced, hne⟩
  rw [h, Option.some.injEq] at htext
  subst htext
  unfold replacingCharacters at hreplaced
  split at hreplaced
  · rw [Option.some.injEq] at hreplaced
    exact hne (by simp [← hreplaced])
  · exact absurd hreplaced (by simp)

/-! ## Edits do not trap -/

theorem Synced.viewWithTag (h : Synced view) (h₁ : 1 ≤ tag) (h₄ : tag ≤ 4) :
    ∃ text, view.viewWithTag tag = some text := by
  have hlt : tag - 1 < view.fields.length := by
    have hlength := h.length
    omega
  refine ⟨view.fields[tag - 1], ?_⟩
  rw [VPMOTPView.viewWithTag, if_neg (by omega), List.getElem?_eq_getElem hlt]

theorem Synced.setEntry_total (h : Synced view) (h₄ : tag ≤ 4) (entry text : String) :
    ∃ view', view.setEntry tag entry text = some view' := by
  have hlt : tag - 1 < view.secureEntryData.length := by
    rw [h.entries, h.length]
    omega
  simp only [VPMOTPView.setEntry, hlt, if_true, Option.some.injEq, exists_eq']

theorem Synced.deleteText_total (h : Synced view) (h₄ : tag ≤ 4) :
    ∃ view', view.deleteText tag = some view' := by
  obtain ⟨view₁, hset⟩ := h.setEntry_total h₄ "" ""
  exact ⟨_, Option.map_eq_some_iff.mpr ⟨view₁, hset, rfl⟩⟩

theorem Synced.deleteEntry_total (h : Synced view) (h₄ : tag ≤ 4) (text : String) :
    ∃ view', view.deleteEntry tag text = some view' := by
  unfold VPMOTPView.deleteEntry
  split
  · split
    · exact h.deleteText_total (by omega)
    · exact ⟨view, rfl⟩
  · obtain ⟨view₁, hdelete⟩ := h.deleteText_total h₄
    exact ⟨_, Option.map_eq_some_iff.mpr ⟨view₁, hdelete, rfl⟩⟩

/-- An edit of one of the four fields within the bounds of its text does not trap. -/
theorem Synced.textField_total (P : Platform) (h : Synced view) (h₁ : 1 ≤ tag) (h₄ : tag ≤ 4)
    (string : String) (hrange : ∀ text, view.viewWithTag tag = some text → range.InBounds text) :
    ∃ view' otpString, view.textField P tag range string = some (view', otpString) := by
  obtain ⟨text, htext⟩ := h.viewWithTag h₁ h₄
  obtain ⟨replacedText, hreplaced⟩ := replacingCharacters_of_inBounds (hrange text htext) string
  -- The filter for letters is off, which leaves an entry or a deletion
  have halphabet : (view.otpFieldInputType = .alphabet) = False := by
    simp [h.otpFieldInputType]
  simp only [VPMOTPView.textField, htext, hreplaced, Option.bind_some, halphabet, decide_false,
    Bool.and_false, Bool.false_and, Bool.false_eq_true, if_false]
  split
  · obtain ⟨view₁, hset⟩ := h.setEntry_total h₄ string (view.displayed string)
    exact ⟨_, _, Option.map_eq_some_iff.mpr ⟨view₁, hset, rfl⟩⟩
  · obtain ⟨view₁, hdelete⟩ := h.deleteEntry_total h₄ text
    exact ⟨_, _, Option.map_eq_some_iff.mpr ⟨view₁, hdelete, rfl⟩⟩

end VPMOTPView

end ThorChat.SupportFrameWorks
