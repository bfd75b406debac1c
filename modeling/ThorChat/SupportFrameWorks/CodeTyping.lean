import ThorChat.SupportFrameWorks.CodeFields

/-!
# Typing a Code

Key presses go to the field that has the keyboard, and the view moves the keyboard on after each.
Whatever the configuration, the fields then are a stack of at most as many entries as there are
fields: a character pushes, the delete key pops, and a full stack has no keyboard any more.
-/

namespace ThorChat.SupportFrameWorks

open ThorChat.Library
open ThorChat.Library.Utf16
open ThorChat.Runtime

/-- A key of the keyboard. -/
inductive KeyPress where
  /-- What the key inserts is not empty. -/
  | type (string : String) (ne_empty : string ≠ "")
  | delete

namespace CodeFields

/-- `VPMOTPTextField.deleteBackward`: UIKit asks the delegate about the one character of the
field, then the override asks it about the empty range. -/
def deleteBackward (P : Platform) (s : CodeFields) (tag : Nat) (text : String) :
    Option CodeFields :=
  (if text = "" then some s else s.step P (.edit tag ⟨0, (encode text).length⟩ "")).bind fun s =>
    s.step P (.edit tag ⟨0, 0⟩ "")

/-- A key press, which nobody gets when no field has the keyboard. The cursor is at the end of
the text. -/
def press (P : Platform) (s : CodeFields) (key : KeyPress) : Option CodeFields :=
  match s.view.firstResponder with
  | none => some s
  | some tag =>
    (s.view.viewWithTag tag).bind fun text =>
      match key with
      | .type string _ => s.step P (.edit tag ⟨(encode text).length, 0⟩ string)
      | .delete => s.deleteBackward P tag text

end CodeFields

/-! ## The stack -/

/-- What has been typed, with the codes reported on the way, the last one first. -/
structure TypedCode where
  typed : List String := []
  reported : List String := []
  deriving DecidableEq, Repr

namespace TypedCode

/-- Only the alphabetic type looks at what is typed. -/
def Admits (P : Platform) (type : KeyboardType) (string : String) : Prop :=
  type = .alphabet → P.containsLetters string = true

instance (P : Platform) (type : KeyboardType) (string : String) :
    Decidable (Admits P type string) :=
  inferInstanceAs (Decidable (_ → _))

/-- A character is pushed, and all of them are reported when they count as many as there are
fields. -/
def push (P : Platform) (count : Nat) (t : TypedCode) (string : String) : TypedCode :=
  let typed := t.typed ++ [string]
  if P.count (String.join typed) = count then ⟨typed, String.join typed :: t.reported⟩
  else ⟨typed, t.reported⟩

/-- The keys of a view with `count` fields of this input type. -/
def press (P : Platform) (count : Nat) (type : KeyboardType) (t : TypedCode) :
    KeyPress → TypedCode
  | .type string _ =>
    if t.typed.length < count ∧ Admits P type string then t.push P count string else t
  | .delete => if t.typed.length < count then { t with typed := t.typed.dropLast } else t

end TypedCode

/-! ## Fields filled from the left -/

namespace VPMOTPView

variable {P : Platform} {view view' : VPMOTPView} {typed : List String}

/-- The first fields hold what has been typed, the others are empty, and the first empty field
has the keyboard. -/
structure Holds (view : VPMOTPView) (typed : List String) : Prop where
  ne_empty : ∀ string ∈ typed, string ≠ ""
  length_le : typed.length ≤ view.otpFieldsCount
  entries : view.secureEntryData =
    typed ++ List.replicate (view.otpFieldsCount - typed.length) ""
  fields : view.fields =
    typed.map view.displayed ++ List.replicate (view.otpFieldsCount - typed.length) ""
  firstResponder : view.firstResponder =
    if typed.length < view.otpFieldsCount then some (typed.length + 1) else none

/-- Masked or not, a field that was filled does not look empty. -/
theorem displayed_ne_empty {string : String} (h : string ≠ "") : view.displayed string ≠ "" := by
  unfold displayed
  split
  · decide
  · split
    · decide
    · exact h

/-- The text of a field by its position in the row. -/
theorem viewWithTag_succ (k : Nat) : view.viewWithTag (k + 1) = view.fields[k]? := by
  rw [viewWithTag, if_neg (Nat.succ_ne_zero k), Nat.add_sub_cancel]

theorem viewWithTag_filled {texts : List String} {m : Nat}
    (hfields : view.fields = texts ++ List.replicate (m + 1) "") :
    view.viewWithTag (texts.length + 1) = some "" := by
  rw [viewWithTag_succ, hfields, List.getElem?_append_right (Nat.le_refl _), Nat.sub_self]
  rfl

/-- The first empty field of a row filled from the left. -/
theorem nextOTPField_filled {texts : List String} {m : Nat} (hne : ∀ text ∈ texts, text ≠ "")
    (hfields : view.fields = texts ++ List.replicate (m + 1) "")
    (hcount : view.otpFieldsCount = texts.length + (m + 1)) :
    view.nextOTPField = some (texts.length + 1) := by
  rw [nextOTPField, List.find?_range'_eq_some]
  -- The search goes from the left: every field before the first empty one is filled
  refine ⟨decide_eq_true (viewWithTag_filled hfields), ?_, fun j hj hlt => ?_⟩
  · rw [List.mem_range'_1]
    omega
  · obtain ⟨k, rfl⟩ := Nat.exists_eq_succ_of_ne_zero (Nat.ne_of_gt hj)
    have hk : k < texts.length := by omega
    have htext : view.viewWithTag (k + 1) = some texts[k] := by
      rw [viewWithTag_succ, hfields, List.getElem?_append_left hk, List.getElem?_eq_getElem hk]
    have hk_ne : texts[k] ≠ "" := hne texts[k] (List.getElem_mem hk)
    simp [htext, hk_ne]

/-- It may have the keyboard, in a view without intermediate editing too. -/
theorem becomeFirstResponder_filled {texts : List String} {m : Nat}
    (hne : ∀ text ∈ texts, text ≠ "")
    (hfields : view.fields = texts ++ List.replicate (m + 1) "")
    (hcount : view.otpFieldsCount = texts.length + (m + 1)) :
    view.becomeFirstResponder (texts.length + 1) =
      { view with firstResponder := some (texts.length + 1) } := by
  -- Without intermediate editing only the first empty field may begin, and this is it
  have hmay : view.textFieldShouldBeginEditing (texts.length + 1) = true := by
    simp only [textFieldShouldBeginEditing, shouldBecomeFirstResponderForOTP, if_true,
      isPreviousFieldsEntered, nextOTPField_filled hne hfields hcount, decide_true, Bool.true_or,
      ite_self]
  rw [becomeFirstResponder, viewWithTag_filled hfields, hmay]
  rfl

/-! ## One key -/

theorem set_filled (texts : List String) (m : Nat) (text : String) :
    (texts ++ List.replicate (m + 1) "").set texts.length text =
      (texts ++ [text]) ++ List.replicate m "" := by
  rw [List.set_append_right _ _ (Nat.le_refl _), Nat.sub_self, List.replicate_succ,
    List.set_cons_zero, List.append_assoc]
  rfl

/-- Popping puts the empty text back. -/
theorem set_last (texts : List String) (last : String) (m : Nat) :
    ((texts ++ [last]) ++ List.replicate m "").set texts.length "" =
      texts ++ List.replicate (m + 1) "" := by
  rw [List.append_assoc, List.set_append_right _ _ (Nat.le_refl _), Nat.sub_self]
  rfl

/-- While the stack is not full the fields after it are empty, one at least. -/
theorem Holds.exists_room (h : Holds view typed) (hroom : typed.length < view.otpFieldsCount) :
    ∃ m, view.otpFieldsCount = typed.length + (m + 1) ∧
      view.secureEntryData = typed ++ List.replicate (m + 1) "" ∧
      view.fields = typed.map view.displayed ++ List.replicate (m + 1) "" ∧
      view.firstResponder = some (typed.length + 1) := by
  obtain ⟨m, hm⟩ := Nat.exists_eq_add_of_lt hroom
  have hsub : view.otpFieldsCount - typed.length = m + 1 := by omega
  refine ⟨m, by omega, ?_, ?_, ?_⟩
  · rw [h.entries, hsub]
  · rw [h.fields, hsub]
  · rw [h.firstResponder, if_pos hroom]

theorem map_displayed_ne_empty (h : ∀ string ∈ typed, string ≠ "") :
    ∀ text ∈ typed.map view.displayed, text ≠ "" := by
  intro text htext
  obtain ⟨string, hstring, rfl⟩ := List.mem_map.mp htext
  exact displayed_ne_empty (h string hstring)

/-- A stack with room, from what the view stores and displays. -/
theorem holds_of_room {m : Nat} (hne : ∀ string ∈ typed, string ≠ "")
    (hcount : view.otpFieldsCount = typed.length + (m + 1))
    (hentries : view.secureEntryData = typed ++ List.replicate (m + 1) "")
    (hfields : view.fields = typed.map view.displayed ++ List.replicate (m + 1) "") :
    Holds (view.becomeFirstResponder (typed.length + 1)) typed := by
  have hsub : view.otpFieldsCount - typed.length = m + 1 := by omega
  have hlength : (typed.map view.displayed).length = typed.length := List.length_map view.displayed
  -- The keyboard goes to the first empty field, by the tag that its position gives it
  have hbecome := becomeFirstResponder_filled (map_displayed_ne_empty hne) hfields
    (by rw [hlength]; exact hcount)
  rw [hlength] at hbecome
  rw [hbecome]
  apply Holds.mk hne
  case length_le =>
    show typed.length ≤ view.otpFieldsCount
    omega
  case entries => exact hsub.symm ▸ hentries
  case fields => exact hsub.symm ▸ hfields
  case firstResponder =>
    have hroom : typed.length < view.otpFieldsCount := by omega
    exact (if_pos hroom).symm

/-- A view that was set up holds the empty stack. -/
theorem holds_initializeUI (hcount : 0 < view.otpFieldsCount)
    (hnew : view.fields.length ≤ view.otpFieldsCount) : Holds view.initializeUI [] := by
  obtain ⟨m, hm⟩ : ∃ m, view.otpFieldsCount = m + 1 :=
    Nat.exists_eq_succ_of_ne_zero (Nat.ne_of_gt hcount)
  have hfields : view.initializeOTPFields.fields = List.replicate (m + 1) "" := by
    rw [initializeOTPFields, List.drop_eq_nil_of_le hnew, List.append_nil, hm]
  have hentries : view.initializeOTPFields.secureEntryData = List.replicate (m + 1) "" := by
    rw [initializeOTPFields, hm]
  have hkeeps : view.initializeOTPFields.otpFieldsCount = 0 + (m + 1) := by
    rw [Nat.zero_add]
    exact hm
  exact holds_of_room (fun string hstring => absurd hstring List.not_mem_nil) hkeeps
    hentries hfields

theorem replacingCharacters_empty (string : String) :
    replacingCharacters "" ⟨0, 0⟩ string = some string := by
  have hend := replacingCharacters_end "" string
  rwa [String.empty_append] at hend

/-- The empty entries add nothing to the code. -/
theorem join_filled (typed : List String) (m : Nat) :
    String.join (typed ++ List.replicate m "") = String.join typed := by
  -- On the number of empty entries
  have hempty : String.join (List.replicate m "") = "" := by
    induction m with
    | zero => rfl
    | succ m ih => rw [List.replicate_succ, String.join_cons, ih, String.empty_append]
  rw [String.join_append, hempty, String.append_empty]

theorem Holds.reportOf (h : Holds view typed) :
    view.reportOf P = if P.count (String.join typed) = view.otpFieldsCount then
      some (String.join typed) else none := by
  rw [VPMOTPView.reportOf, h.entries, join_filled]

/-- The view after a text was stored in the first empty field. -/
def stored (view : VPMOTPView) (typed : List String) (m : Nat) : VPMOTPView :=
  { view with
    secureEntryData := typed ++ List.replicate m ""
    fields := typed.map view.displayed ++ List.replicate m "" }

theorem setEntry_filled {m : Nat} {string : String}
    (hentries : view.secureEntryData = typed ++ List.replicate (m + 1) "")
    (hfields : view.fields = typed.map view.displayed ++ List.replicate (m + 1) "") :
    view.setEntry (typed.length + 1) string (view.displayed string) =
      some (view.stored (typed ++ [string]) m) := by
  have hlt : typed.length + 1 - 1 < view.secureEntryData.length := by
    rw [hentries, List.length_append, List.length_replicate]
    omega
  have htexts := set_filled (typed.map view.displayed) m (view.displayed string)
  rw [List.length_map] at htexts
  rw [setEntry, if_pos hlt, Nat.add_sub_cancel, hentries, hfields, set_filled, htexts, stored,
    List.map_append]
  rfl

theorem Holds.viewWithTag (h : Holds view typed) (hroom : typed.length < view.otpFieldsCount) :
    view.viewWithTag (typed.length + 1) = some "" := by
  obtain ⟨m, -, -, hfields, -⟩ := h.exists_room hroom
  rw [← List.length_map view.displayed]
  exact viewWithTag_filled hfields

/-- What the delegate function makes of an edit in an empty field. -/
theorem textField_empty {tag : Nat} (htext : view.viewWithTag tag = some "") (string : String) :
    view.textField P tag ⟨0, 0⟩ string =
      if string = "" then (view.deleteEntry tag "").map fun view => (view, none)
      else if TypedCode.Admits P view.otpFieldInputType string then view.enterText P tag string
      else some (view, none) := by
  rw [VPMOTPView.textField, htext, Option.bind_some, replacingCharacters_empty, Option.bind_some]
  -- An empty replacement in an empty field is a deletion; its edited text has no character
  by_cases hne : string = ""
  · subst hne
    exact (if_neg Bool.false_ne_true).trans (if_neg fun hcount => P.one_le_count.mp hcount rfl)
  · have hcount : P.count string ≥ 1 := P.one_le_count.mpr hne
    rw [if_neg hne, if_pos hcount]
    by_cases hadmits : TypedCode.Admits P view.otpFieldInputType string
    · -- The filter lets the text through, whichever type it is for
      have hfilter : (!string.isEmpty && decide (view.otpFieldInputType = .alphabet) &&
          !P.containsLetters string) = false := by
        by_cases halphabet : view.otpFieldInputType = .alphabet
        · rw [hadmits halphabet, Bool.not_true, Bool.and_false]
        · rw [decide_eq_false halphabet, Bool.and_false, Bool.false_and]
      rw [hfilter, if_neg Bool.false_ne_true, if_pos hadmits]
    · obtain ⟨halphabet, hletters⟩ := Classical.not_imp.mp hadmits
      have hfilter : (!string.isEmpty && decide (view.otpFieldInputType = .alphabet) &&
          !P.containsLetters string) = true := by
        simp [halphabet, hletters, hne]
      rw [if_pos hfilter, if_neg hadmits]

/-- What is typed in the last field completes the row, which gives the keyboard back. -/
theorem Holds.enterText_last {string : String} (h : Holds view typed)
    (hcount : view.otpFieldsCount = typed.length + 1) (hne : string ≠ "") :
    ∃ view', view.enterText P (typed.length + 1) string = some (view', view'.reportOf P) ∧
      Holds view' (typed ++ [string]) ∧ view'.configuration = view.configuration := by
  obtain ⟨m, hm, hentries, hfields, hresponder⟩ := h.exists_room (by omega)
  obtain rfl : m = 0 := by omega
  -- There is no field behind the last, so the keyboard is given back
  have hnone : (view.stored (typed ++ [string]) 0).viewWithTag (typed.length + 1 + 1) = none := by
    rw [viewWithTag_succ, List.getElem?_eq_none_iff]
    simp [stored]
  have hresign : (view.stored (typed ++ [string]) 0).resignFirstResponder (typed.length + 1) =
      { view.stored (typed ++ [string]) 0 with firstResponder := none } := by
    rw [resignFirstResponder]
    exact if_pos hresponder
  have hlength : (typed ++ [string]).length = typed.length + 1 := List.length_append
  have hfull : view.otpFieldsCount - (typed ++ [string]).length = 0 := by omega
  refine ⟨{ view.stored (typed ++ [string]) 0 with firstResponder := none }, ?_, ?_, rfl⟩
  · rw [VPMOTPView.enterText, setEntry_filled hentries hfields]
    simp only [Option.map_some, hnone, Option.isSome_none, Bool.false_eq_true, if_false, hresign,
      calculateEnteredOTPSTring_eq]
  · apply Holds.mk
    case ne_empty =>
      exact List.forall_mem_append.mpr ⟨h.ne_empty, List.forall_mem_singleton.mpr hne⟩
    case length_le =>
      show (typed ++ [string]).length ≤ view.otpFieldsCount
      omega
    case entries => exact hfull.symm ▸ rfl
    case fields => exact hfull.symm ▸ rfl
    case firstResponder =>
      have hnot : ¬ (typed ++ [string]).length < view.otpFieldsCount := by omega
      exact (if_neg hnot).symm

/-- What is typed in any other field leaves room, and the next field gets the keyboard. -/
theorem Holds.enterText_next {string : String} (h : Holds view typed)
    (hcount : typed.length + 1 < view.otpFieldsCount) (hne : string ≠ "") :
    ∃ view', view.enterText P (typed.length + 1) string = some (view', view'.reportOf P) ∧
      Holds view' (typed ++ [string]) ∧ view'.configuration = view.configuration := by
  obtain ⟨k, hk, hentries, hfields, -⟩ := h.exists_room (by omega)
  obtain ⟨m, rfl⟩ : ∃ m, k = m + 1 := Nat.exists_eq_succ_of_ne_zero (by omega)
  have hlength : (typed ++ [string]).length = typed.length + 1 := List.length_append
  have hstored : (view.stored (typed ++ [string]) (m + 1)).otpFieldsCount =
      (typed ++ [string]).length + (m + 1) := by
    rw [hlength]
    show view.otpFieldsCount = _
    omega
  -- The field behind this one is there, and empty, so it gets the keyboard
  have hsome : ((view.stored (typed ++ [string]) (m + 1)).viewWithTag
      (typed.length + 1 + 1)).isSome = true := by
    rw [viewWithTag_succ]
    simp [stored]
  have hholds := holds_of_room
    (List.forall_mem_append.mpr ⟨h.ne_empty, List.forall_mem_singleton.mpr hne⟩) hstored rfl rfl
  rw [hlength] at hholds
  refine ⟨_, ?_, hholds, configuration_becomeFirstResponder _ _⟩
  rw [VPMOTPView.enterText, setEntry_filled hentries hfields]
  simp only [Option.map_some, hsome, if_true, calculateEnteredOTPSTring_eq]

/-- The first empty field gets what is typed. -/
theorem Holds.type {string : String} (h : Holds view typed)
    (hroom : typed.length < view.otpFieldsCount) (hne : string ≠ "")
    (hadmits : TypedCode.Admits P view.otpFieldInputType string) :
    ∃ view', view.textField P (typed.length + 1) ⟨0, 0⟩ string =
        some (view', view'.reportOf P) ∧
      Holds view' (typed ++ [string]) ∧ view'.configuration = view.configuration := by
  rw [textField_empty (h.viewWithTag hroom), if_neg hne, if_pos hadmits]
  obtain hlast | hnext : view.otpFieldsCount = typed.length + 1 ∨
      typed.length + 1 < view.otpFieldsCount := by omega
  · exact h.enterText_last hlast hne
  · exact h.enterText_next hnext hne

/-- The alphabetic type drops what has no letter. -/
theorem Holds.type_dropped {string : String} (h : Holds view typed)
    (hroom : typed.length < view.otpFieldsCount) (hne : string ≠ "")
    (hdrops : ¬ TypedCode.Admits P view.otpFieldInputType string) :
    view.textField P (typed.length + 1) ⟨0, 0⟩ string = some (view, none) := by
  rw [textField_empty (h.viewWithTag hroom), if_neg hne, if_neg hdrops]

/-- With nothing to pop the first field is emptied once more. -/
theorem Holds.deleteEntry_nil (h : Holds view []) (hroom : 0 < view.otpFieldsCount) :
    ∃ view', view.deleteEntry 1 "" = some view' ∧ Holds view' [] ∧
      view'.configuration = view.configuration := by
  obtain ⟨m, hcount, hentries, hfields, -⟩ := h.exists_room hroom
  have hset : view.setEntry 1 "" "" = some view := by
    have hlt : 0 < view.secureEntryData.length := by
      rw [hentries, List.length_append, List.length_replicate]
      omega
    have hentries' : view.secureEntryData.set 0 "" = view.secureEntryData := by
      rw [hentries]
      rfl
    have hfields' : view.fields.set 0 "" = view.fields := by
      rw [hfields]
      rfl
    rw [setEntry, if_pos hlt, hentries', hfields']
  refine ⟨view.becomeFirstResponder 1, ?_, holds_of_room h.ne_empty hcount hentries hfields,
    configuration_becomeFirstResponder view 1⟩
  simp [deleteEntry, deleteText, hset]

/-- In the first empty field a deletion empties the field before it, which gets the keyboard. -/
theorem Holds.deleteEntry_concat {others : List String} {last : String}
    (h : Holds view (others ++ [last])) (hroom : others.length + 1 < view.otpFieldsCount) :
    ∃ view', view.deleteEntry (others.length + 1 + 1) "" = some view' ∧ Holds view' others ∧
      view'.configuration = view.configuration := by
  have hlast : (others ++ [last]).length = others.length + 1 := List.length_append
  obtain ⟨m, hcount, hentries, hfields, -⟩ := h.exists_room (hlast.symm ▸ hroom)
  have hmap : (others.map view.displayed).length = others.length :=
    List.length_map view.displayed
  rw [List.map_append, List.map_singleton] at hfields
  have hprevious : view.viewWithTag (others.length + 1) = some (view.displayed last) := by
    rw [viewWithTag_succ, hfields, List.append_assoc, ← hmap,
      List.getElem?_append_right (Nat.le_refl _), Nat.sub_self]
    rfl
  -- The field before this one is emptied, and all behind it were empty already
  have hset : view.setEntry (others.length + 1) "" "" = some (view.stored others (m + 2)) := by
    have hlt : others.length + 1 - 1 < view.secureEntryData.length := by
      rw [hentries, List.length_append, hlast]
      omega
    have htexts := set_last (others.map view.displayed) (view.displayed last) (m + 1)
    rw [hmap] at htexts
    rw [setEntry, if_pos hlt, Nat.add_sub_cancel, hentries, hfields, set_last, htexts]
    rfl
  have hall : ∀ text ∈ others, text ≠ "" := fun text htext =>
    h.ne_empty text (List.mem_append_left _ htext)
  have hstored : (view.stored others (m + 2)).otpFieldsCount = others.length + (m + 1 + 1) := by
    show view.otpFieldsCount = _
    omega
  refine ⟨_, ?_, holds_of_room hall hstored rfl rfl, configuration_becomeFirstResponder _ _⟩
  have hcond : (decide (1 < others.length + 1 + 1) && "".isEmpty) = true := by simp
  rw [deleteEntry, if_pos hcond, Nat.add_sub_cancel, hprevious]
  simp only [Option.isSome_some, if_true, deleteText, hset, Option.map_some]

/-- The delete key pops. -/
theorem Holds.delete (P : Platform) (h : Holds view typed)
    (hroom : typed.length < view.otpFieldsCount) :
    ∃ view', view.textField P (typed.length + 1) ⟨0, 0⟩ "" = some (view', none) ∧
      Holds view' typed.dropLast ∧ view'.configuration = view.configuration := by
  rw [textField_empty (h.viewWithTag hroom), if_pos rfl]
  -- The stack is empty, or its top is in the field before the one with the keyboard
  obtain rfl | ⟨others, last, rfl⟩ := List.eq_nil_or_concat' typed
  · obtain ⟨view', hdelete, hholds⟩ := h.deleteEntry_nil hroom
    exact ⟨view', Option.map_eq_some_iff.mpr ⟨view', hdelete, rfl⟩, hholds⟩
  · rw [List.length_append, List.length_singleton] at hroom ⊢
    rw [List.dropLast_concat]
    obtain ⟨view', hdelete, hholds⟩ := h.deleteEntry_concat hroom
    exact ⟨view', Option.map_eq_some_iff.mpr ⟨view', hdelete, rfl⟩, hholds⟩

end VPMOTPView

/-! ## Runs of key presses -/

namespace CodeFields

variable {P : Platform} {s : CodeFields} {t : TypedCode}

/-- The view holds the stack, in the configuration it was set up in, and has reported the codes
of the stack. -/
structure Types (view : VPMOTPView) (s : CodeFields) (t : TypedCode) : Prop where
  holds : s.view.Holds t.typed
  configuration : s.view.configuration = view.configuration
  reported : s.reported = t.reported

variable {view : VPMOTPView}

theorem Types.otpFieldsCount (h : Types view s t) :
    s.view.otpFieldsCount = view.otpFieldsCount := otpFieldsCount_eq h.configuration

theorem Types.otpFieldInputType (h : Types view s t) :
    s.view.otpFieldInputType = view.otpFieldInputType := by
  have hconfiguration : s.view.configuration.otpFieldInputType =
      view.configuration.otpFieldInputType := by rw [h.configuration]
  exact hconfiguration

/-- A full stack takes no keys: nobody has the keyboard. -/
theorem Types.press_full (h : Types view s t) (hfull : ¬ t.typed.length < view.otpFieldsCount)
    (key : KeyPress) :
    s.press P key = some s ∧ t.press P view.otpFieldsCount view.otpFieldInputType key = t := by
  constructor
  · rw [CodeFields.press, h.holds.firstResponder, h.otpFieldsCount, if_neg hfull]
  · cases key with
    | type string hne => rw [TypedCode.press, if_neg fun hpush => hfull hpush.1]
    | delete => rw [TypedCode.press, if_neg hfull]

/-- Before it is full the first empty field gets the key. -/
theorem Types.press_room (h : Types view s t) (hroom : t.typed.length < view.otpFieldsCount)
    (key : KeyPress) :
    s.press P key =
      match key with
      | .type string _ => s.step P (.edit (t.typed.length + 1) ⟨0, 0⟩ string)
      | .delete => s.step P (.edit (t.typed.length + 1) ⟨0, 0⟩ "") := by
  have hroom' : t.typed.length < s.view.otpFieldsCount := by rwa [h.otpFieldsCount]
  rw [CodeFields.press, h.holds.firstResponder, if_pos hroom']
  simp only [h.holds.viewWithTag hroom', Option.bind_some]
  -- In an empty field UIKit has nothing to delete, so the delegate hears of the key through the
  -- subclass only
  cases key with
  | type string hne => rw [encode_empty, List.length_nil]
  | delete => rw [deleteBackward, if_pos rfl, Option.bind_some]

theorem Types.type {string : String} (h : Types view s t)
    (hroom : t.typed.length < view.otpFieldsCount) (hne : string ≠ "")
    (hadmits : TypedCode.Admits P view.otpFieldInputType string) :
    ∃ s', s.step P (.edit (t.typed.length + 1) ⟨0, 0⟩ string) = some s' ∧
      Types view s' (t.push P view.otpFieldsCount string) := by
  rw [← h.otpFieldsCount] at hroom
  rw [← h.otpFieldInputType] at hadmits
  obtain ⟨view', hedit, hholds, hconfiguration⟩ := h.holds.type hroom hne hadmits
  have hcount : view'.otpFieldsCount = view.otpFieldsCount :=
    otpFieldsCount_eq (hconfiguration.trans h.configuration)
  refine ⟨⟨view', (view'.reportOf P).toList ++ s.reported⟩, ?_, ?_⟩
  · simp only [step, hedit, Option.map_some]
  rw [hholds.reportOf, hcount, h.reported, TypedCode.push]
  -- The view reports by the characters it stores, as the stack does by its own
  by_cases hcomplete : P.count (String.join (t.typed ++ [string])) = view.otpFieldsCount
  · simp only [if_pos hcomplete]
    exact ⟨hholds, hconfiguration.trans h.configuration, rfl⟩
  · simp only [if_neg hcomplete]
    exact ⟨hholds, hconfiguration.trans h.configuration, rfl⟩

theorem Types.delete (P : Platform) (h : Types view s t)
    (hroom : t.typed.length < view.otpFieldsCount) :
    ∃ s', s.step P (.edit (t.typed.length + 1) ⟨0, 0⟩ "") = some s' ∧
      Types view s' { t with typed := t.typed.dropLast } := by
  rw [← h.otpFieldsCount] at hroom
  obtain ⟨view', hedit, hholds, hconfiguration⟩ := h.holds.delete P hroom
  refine ⟨⟨view', s.reported⟩, ?_, hholds, hconfiguration.trans h.configuration, h.reported⟩
  simp only [step, hedit, Option.map_some]
  rfl

/-- A key press is a step of the stack. -/
theorem Types.press (h : Types view s t) (key : KeyPress) :
    ∃ s', s.press P key = some s' ∧
      Types view s' (t.press P view.otpFieldsCount view.otpFieldInputType key) := by
  by_cases hroom : t.typed.length < view.otpFieldsCount
  -- Nobody has the keyboard of a full view, so a key goes nowhere
  case neg =>
    obtain ⟨hstays, hsame⟩ := h.press_full (P := P) hroom key
    refine ⟨s, hstays, ?_⟩
    rw [hsame]
    exact h
  case pos =>
    rw [h.press_room hroom key]
    cases key with
    | type string hne =>
      by_cases hadmits : TypedCode.Admits P view.otpFieldInputType string
      · rw [TypedCode.press, if_pos ⟨hroom, hadmits⟩]
        exact h.type hroom hne hadmits
      · have hroom' : t.typed.length < s.view.otpFieldsCount := by rwa [h.otpFieldsCount]
        have hdrops : ¬ TypedCode.Admits P s.view.otpFieldInputType string := by
          rwa [h.otpFieldInputType]
        rw [TypedCode.press, if_neg fun hpush => hadmits hpush.2]
        refine ⟨s, ?_, h⟩
        simp only [step, h.holds.type_dropped hroom' hne hdrops, Option.map_some]
        rfl
    | delete =>
      rw [TypedCode.press, if_pos hroom]
      exact h.delete P hroom

/-- Key presses, one after another. -/
theorem Types.run (h : Types view s t) (keys : List KeyPress) :
    ∃ s', Library.run (CodeFields.press P) s keys = some s' ∧
      Types view s'
        (keys.foldl (TypedCode.press P view.otpFieldsCount view.otpFieldInputType) t) := by
  -- On the keys, from any view that holds a stack
  induction keys generalizing s t with
  | nil => exact ⟨s, rfl, h⟩
  | cons key keys ih =>
    obtain ⟨s₁, hpress, h₁⟩ := h.press key
    obtain ⟨s', hs', h'⟩ := ih h₁
    exact ⟨s', (run_cons hpress keys).trans hs', h'⟩

end CodeFields

end ThorChat.SupportFrameWorks
