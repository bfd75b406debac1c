import ThorChat.Library.Transition
import ThorChat.SupportFrameWorks.EntryBuffer

/-!
# Code Fields in Any Configuration

`VPMOTPView` with any number of fields, input type and masking. One lemma says what an edit does
(`Kept.textField_cases`), and from it what holds over every run of edits, taps and
initialisations: nothing traps, what is displayed covers what is stored, and the delegate is told
what is stored.
-/

namespace ThorChat.SupportFrameWorks

open ThorChat.Library
open ThorChat.Library.Utf16
open ThorChat.Runtime

namespace VPMOTPView

variable {P : Platform} {view view' : VPMOTPView} {tag : Nat} {range : NSRange}
  {string : String} {otpString : Option String}

/-! ## What is displayed covers what is stored -/

/-- The properties that are set before `initializeUI`. -/
def configuration (view : VPMOTPView) : VPMOTPView :=
  { view with secureEntryData := [], fields := [], firstResponder := none }

/-- A text a field may display for an entry. -/
def Shows (view : VPMOTPView) (entry text : String) : Prop :=
  (entry = "" ∧ text = "") ∨ text = view.displayed entry

/-- There are as many fields and entries as asked for, and each field displays its entry. -/
structure Kept (view : VPMOTPView) : Prop where
  fields : view.fields.length = view.otpFieldsCount
  entries : view.secureEntryData.length = view.otpFieldsCount
  shown : ∀ (k : Nat) entry text,
    view.secureEntryData[k]? = some entry → view.fields[k]? = some text →
      view.Shows entry text

/-- The keyboard is no part of the configuration. -/
theorem configuration_becomeFirstResponder (view : VPMOTPView) (tag : Nat) :
    (view.becomeFirstResponder tag).configuration = view.configuration := by
  obtain ⟨responder, heq⟩ := becomeFirstResponder_eq view tag
  rw [heq]
  rfl

theorem configuration_resignFirstResponder (view : VPMOTPView) (tag : Nat) :
    (view.resignFirstResponder tag).configuration = view.configuration := by
  obtain ⟨responder, heq⟩ := resignFirstResponder_eq view tag
  rw [heq]
  rfl

theorem entries_becomeFirstResponder (view : VPMOTPView) (tag : Nat) :
    (view.becomeFirstResponder tag).secureEntryData = view.secureEntryData := by
  obtain ⟨responder, heq⟩ := becomeFirstResponder_eq view tag
  rw [heq]

theorem entries_resignFirstResponder (view : VPMOTPView) (tag : Nat) :
    (view.resignFirstResponder tag).secureEntryData = view.secureEntryData := by
  obtain ⟨responder, heq⟩ := resignFirstResponder_eq view tag
  rw [heq]

theorem Kept.withFirstResponder (h : Kept view) (responder : Option Nat) :
    Kept { view with firstResponder := responder } :=
  ⟨h.fields, h.entries, h.shown⟩

theorem Kept.becomeFirstResponder (h : Kept view) (tag : Nat) :
    Kept (view.becomeFirstResponder tag) := by
  obtain ⟨responder, heq⟩ := becomeFirstResponder_eq view tag
  exact heq ▸ h.withFirstResponder responder

theorem Kept.resignFirstResponder (h : Kept view) (tag : Nat) :
    Kept (view.resignFirstResponder tag) := by
  obtain ⟨responder, heq⟩ := resignFirstResponder_eq view tag
  exact heq ▸ h.withFirstResponder responder

/-- Views in the configuration of the one-time-code screen are no exception. -/
theorem Synced.kept (h : Synced view) : Kept view where
  fields := h.length.trans h.otpFieldsCount.symm
  entries := by rw [h.entries, h.length, h.otpFieldsCount]
  shown := by
    intro k entry text hentry htext
    rw [h.entries, htext] at hentry
    obtain rfl := Option.some.inj hentry
    -- Unmasked, an entry is displayed as itself
    refine .inr ?_
    simp [displayed, h.otpFilledEntryDisplay, h.otpFieldEntrySecureType]

/-- Setting up empties all fields, whatever was entered before. -/
theorem Kept.initializeUI (h : view.fields.length ≤ view.otpFieldsCount) :
    Kept view.initializeUI ∧ view.initializeUI.configuration = view.configuration ∧
      view.initializeUI.secureEntryData = List.replicate view.otpFieldsCount "" := by
  have hfields : view.initializeOTPFields.fields = List.replicate view.otpFieldsCount "" := by
    rw [initializeOTPFields, List.drop_eq_nil_of_le h, List.append_nil]
  have hinit : Kept view.initializeOTPFields := by
    apply Kept.mk
    case fields =>
      rw [hfields, List.length_replicate]
      rfl
    case entries => exact List.length_replicate
    case shown =>
      intro k entry text hentry htext
      rw [hfields] at htext
      exact .inl ⟨List.eq_of_mem_replicate (List.mem_of_getElem? hentry),
        List.eq_of_mem_replicate (List.mem_of_getElem? htext)⟩
  refine ⟨hinit.becomeFirstResponder 1, ?_, ?_⟩
  · exact configuration_becomeFirstResponder view.initializeOTPFields 1
  · exact entries_becomeFirstResponder view.initializeOTPFields 1

/-! ## One edit -/

/-- An entry is stored with the text it is displayed as. -/
theorem Kept.setEntry {entry text : String} (h : Kept view)
    (hset : view.setEntry tag entry text = some view') (hshows : view.Shows entry text) :
    Kept view' ∧ view'.configuration = view.configuration ∧
      view'.secureEntryData = view.secureEntryData.set (tag - 1) entry := by
  unfold VPMOTPView.setEntry at hset
  split at hset
  case isFalse => cases hset
  case isTrue hlt =>
    obtain rfl := Option.some.inj hset
    refine ⟨⟨?_, ?_, fun k entry' text' hentry htext => ?_⟩, rfl, rfl⟩
    · rw [List.length_set]
      exact h.fields
    · rw [List.length_set]
      exact h.entries
    · by_cases hk : tag - 1 = k
      · -- The index that was set shows the new entry
        have hfield : tag - 1 < view.fields.length := by rwa [h.fields, ← h.entries]
        rw [← hk, List.getElem?_set_self hlt] at hentry
        rw [← hk, List.getElem?_set_self hfield] at htext
        obtain rfl := Option.some.inj hentry
        obtain rfl := Option.some.inj htext
        exact hshows
      · rw [List.getElem?_set_ne hk] at hentry htext
        exact h.shown k entry' text' hentry htext

/-- A field is emptied, in the buffer and on the screen. -/
theorem Kept.deleteText (h : Kept view) (hr : view.deleteText tag = some view') :
    Kept view' ∧ view'.configuration = view.configuration ∧
      view'.secureEntryData = view.secureEntryData.set (tag - 1) "" := by
  obtain ⟨view₁, hset, rfl⟩ := Option.map_eq_some_iff.mp hr
  obtain ⟨hkept, hconfiguration, hentries⟩ := h.setEntry hset (.inl ⟨rfl, rfl⟩)
  refine ⟨hkept.becomeFirstResponder tag, ?_, ?_⟩
  · rw [configuration_becomeFirstResponder, hconfiguration]
  · rw [entries_becomeFirstResponder, hentries]

/-- An edit handled as a deletion empties one entry at most. -/
theorem Kept.deleteEntry {text : String} (h : Kept view)
    (hr : view.deleteEntry tag text = some view') :
    Kept view' ∧ view'.configuration = view.configuration ∧
      (view'.secureEntryData = view.secureEntryData ∨
        ∃ k, view'.secureEntryData = view.secureEntryData.set k "") := by
  unfold VPMOTPView.deleteEntry at hr
  split at hr
  · split at hr
    · obtain ⟨hkept, hconfiguration, hentries⟩ := h.deleteText hr
      exact ⟨hkept, hconfiguration, .inr ⟨_, hentries⟩⟩
    · obtain rfl := Option.some.inj hr
      exact ⟨h, rfl, .inl rfl⟩
  · obtain ⟨view₁, hdelete, rfl⟩ := Option.map_eq_some_iff.mp hr
    obtain ⟨hkept, hconfiguration, hentries⟩ := h.deleteText hdelete
    split
    -- The keyboard goes to the field before, if there is one
    · refine ⟨hkept.becomeFirstResponder (tag - 1), ?_, .inr ⟨tag - 1, ?_⟩⟩
      · rw [configuration_becomeFirstResponder, hconfiguration]
      · rw [entries_becomeFirstResponder, hentries]
    · exact ⟨hkept, hconfiguration, .inr ⟨_, hentries⟩⟩

/-- The edit is stored: the edited text is not empty and the input type admits it. -/
def Accepts (P : Platform) (view : VPMOTPView) (tag : Nat) (range : NSRange) (string : String) :
    Prop :=
  ∃ text replacedText, view.viewWithTag tag = some text ∧
    replacingCharacters text range string = some replacedText ∧ replacedText ≠ "" ∧
    (view.otpFieldInputType = .alphabet → P.containsLetters replacedText = true)

/-- What the delegate is told after an edit that is stored. -/
def reportOf (P : Platform) (view : VPMOTPView) : Option String :=
  if P.count (String.join view.secureEntryData) = view.otpFieldsCount then
    some (String.join view.secureEntryData)
  else none

/-- The delegate is told a code by the characters stored, not by the fields filled. -/
theorem calculateEnteredOTPSTring_eq :
    view.calculateEnteredOTPSTring P false = view.reportOf P := by
  have hjoin : view.enteredOTPString = String.join view.secureEntryData := by
    rw [VPMOTPView.enteredOTPString, foldl_append_nonempty, String.empty_append]
  rw [calculateEnteredOTPSTring, if_neg Bool.false_ne_true, hjoin]
  rfl

/-- An entry takes the place of the old one, however much was in the field before. -/
theorem Kept.enterText (h : Kept view)
    (hr : view.enterText P tag string = some (view', otpString)) :
    Kept view' ∧ view'.configuration = view.configuration ∧
      view'.secureEntryData = view.secureEntryData.set (tag - 1) string ∧
      otpString = view'.reportOf P := by
  obtain ⟨view₁, hset, hv⟩ := Option.map_eq_some_iff.mp hr
  obtain ⟨hkept, hconfiguration, hentries⟩ := h.setEntry hset (.inr rfl)
  obtain ⟨rfl, rfl⟩ := Prod.mk.inj hv
  rw [calculateEnteredOTPSTring_eq]
  -- The next field gets the keyboard, or nobody does after the last
  split
  · refine ⟨hkept.becomeFirstResponder (tag + 1), ?_, ?_, rfl⟩
    · rw [configuration_becomeFirstResponder, hconfiguration]
    · rw [entries_becomeFirstResponder, hentries]
  · refine ⟨hkept.resignFirstResponder tag, ?_, ?_, rfl⟩
    · rw [configuration_resignFirstResponder, hconfiguration]
    · rw [entries_resignFirstResponder, hentries]

/-- What an edit does: one that is accepted is stored as it is and reported when the code is
complete, any other is not reported. -/
theorem Kept.textField_cases (h : Kept view)
    (hr : view.textField P tag range string = some (view', otpString)) :
    Kept view' ∧ view'.configuration = view.configuration ∧
    ((view.Accepts P tag range string ∧
        view'.secureEntryData = view.secureEntryData.set (tag - 1) string ∧
        otpString = view'.reportOf P) ∨
      (¬ view.Accepts P tag range string ∧ otpString = none ∧
        (view'.secureEntryData = view.secureEntryData ∨
          ∃ k, view'.secureEntryData = view.secureEntryData.set k ""))) := by
  simp only [VPMOTPView.textField, Option.bind_eq_some_iff] at hr
  obtain ⟨text, htext, replacedText, hreplaced, hr⟩ := hr
  -- The text before the edit and after it are the ones the delegate function computed
  have haccepts : view.Accepts P tag range string ↔ replacedText ≠ "" ∧
      (view.otpFieldInputType = .alphabet → P.containsLetters replacedText = true) := by
    constructor
    · rintro ⟨text', replacedText', htext', hreplaced', haccepted⟩
      obtain rfl := Option.some.inj (htext.symm.trans htext')
      obtain rfl := Option.some.inj (hreplaced.symm.trans hreplaced')
      exact haccepted
    · exact fun haccepted => ⟨text, replacedText, htext, hreplaced, haccepted⟩
  rw [haccepts]
  split at hr
  case isTrue hfilter =>
    -- The filter for letters drops the edit
    simp only [Bool.and_eq_true, Bool.not_eq_true', decide_eq_true_eq] at hfilter
    obtain ⟨rfl, rfl⟩ := Prod.mk.inj (Option.some.inj hr)
    refine ⟨h, rfl, .inr ⟨fun haccepted => ?_, rfl, .inl rfl⟩⟩
    exact absurd (haccepted.2 hfilter.1.2) (Bool.eq_false_iff.mp hfilter.2)
  case isFalse hfilter =>
    split at hr
    case isTrue hcount =>
      have hne : replacedText ≠ "" := P.one_le_count.mp hcount
      obtain ⟨hkept, hconfiguration, hentries, hreport⟩ := h.enterText hr
      refine ⟨hkept, hconfiguration, .inl ⟨⟨hne, fun halphabet => ?_⟩, hentries, hreport⟩⟩
      -- The filter would have dropped it
      by_contra hletters
      simp [halphabet, hletters, hne] at hfilter
    case isFalse hcount =>
      obtain ⟨view₁, hdelete, hv⟩ := Option.map_eq_some_iff.mp hr
      obtain ⟨rfl, rfl⟩ := Prod.mk.inj hv
      obtain ⟨hkept, hconfiguration, hentries⟩ := h.deleteEntry hdelete
      refine ⟨hkept, hconfiguration, .inr ⟨fun haccepted => ?_, rfl, hentries⟩⟩
      exact hcount (P.one_le_count.mpr haccepted.1)

/-! ## Edits do not trap -/

/-- A field that is there has an entry. -/
theorem Kept.setEntry_total (h : Kept view) {shown : String}
    (ht : view.viewWithTag tag = some shown) (entry text : String) :
    ∃ view', view.setEntry tag entry text = some view' := by
  unfold VPMOTPView.viewWithTag at ht
  split at ht
  case isTrue => cases ht
  case isFalse =>
    obtain ⟨hlt, -⟩ := List.getElem?_eq_some_iff.mp ht
    rw [h.fields, ← h.entries] at hlt
    rw [VPMOTPView.setEntry, if_pos hlt]
    exact ⟨_, rfl⟩

theorem Kept.deleteText_total (h : Kept view) {shown : String}
    (ht : view.viewWithTag tag = some shown) : ∃ view', view.deleteText tag = some view' := by
  obtain ⟨view₁, hset⟩ := h.setEntry_total ht "" ""
  exact ⟨_, Option.map_eq_some_iff.mpr ⟨view₁, hset, rfl⟩⟩

theorem Kept.deleteEntry_total (h : Kept view) {shown : String}
    (ht : view.viewWithTag tag = some shown) (text : String) :
    ∃ view', view.deleteEntry tag text = some view' := by
  unfold VPMOTPView.deleteEntry
  split
  · split
    case isTrue hsome =>
      obtain ⟨previous, hprevious⟩ := Option.isSome_iff_exists.mp hsome
      exact h.deleteText_total hprevious
    case isFalse => exact ⟨view, rfl⟩
  · obtain ⟨view₁, hdelete⟩ := h.deleteText_total ht
    exact ⟨_, Option.map_eq_some_iff.mpr ⟨view₁, hdelete, rfl⟩⟩

/-- An edit of a field within the bounds of its text does not trap. -/
theorem Kept.textField_total (P : Platform) (h : Kept view) {text : String}
    (ht : view.viewWithTag tag = some text) (hrange : range.InBounds text) (string : String) :
    ∃ view' otpString, view.textField P tag range string = some (view', otpString) := by
  obtain ⟨replacedText, hreplaced⟩ := replacingCharacters_of_inBounds hrange string
  simp only [VPMOTPView.textField, ht, hreplaced, Option.bind_some]
  -- The filter, an entry and a deletion: each index is the one of a field that is there
  split
  · exact ⟨view, none, rfl⟩
  · split
    · obtain ⟨view₁, hset⟩ := h.setEntry_total ht string (view.displayed string)
      exact ⟨_, _, Option.map_eq_some_iff.mpr ⟨view₁, hset, rfl⟩⟩
    · obtain ⟨view₁, hdelete⟩ := h.deleteEntry_total ht text
      exact ⟨_, _, Option.map_eq_some_iff.mpr ⟨view₁, hdelete, rfl⟩⟩

end VPMOTPView

/-! ## Runs -/

/-- The view and what its delegate has been told, the last code first. -/
structure CodeFields where
  view : VPMOTPView
  reported : List String := []

/-- What can happen to the view. -/
inductive CodeFieldsEvent where
  /-- The keyboard, a paste or autofill edits the field with this tag. -/
  | edit (tag : Nat) (range : NSRange) (string : String)
  /-- A tap on the field with this tag. -/
  | tap (tag : Nat)
  | initializeUI

namespace CodeFields

variable {P : Platform} {s s' : CodeFields} {e : CodeFieldsEvent}

def step (P : Platform) (s : CodeFields) : CodeFieldsEvent → Option CodeFields
  | .edit tag range string =>
    (s.view.textField P tag range string).map fun (view, otpString) =>
      ⟨view, otpString.toList ++ s.reported⟩
  | .tap tag => some { s with view := s.view.becomeFirstResponder tag }
  | .initializeUI => some { s with view := s.view.initializeUI }

/-- UIKit edits fields that are there, within the bounds of their texts. -/
def Possible (s : CodeFields) : CodeFieldsEvent → Prop
  | .edit tag range _ => ∃ text, s.view.viewWithTag tag = some text ∧ range.InBounds text
  | .tap _ => True
  | .initializeUI => True

/-- The view is in order, in the configuration it was set up in, and every code the delegate was
told had as many characters as there are fields. -/
structure InOrder (P : Platform) (view : VPMOTPView) (s : CodeFields) : Prop where
  kept : s.view.Kept
  configuration : s.view.configuration = view.configuration
  reported : ∀ code ∈ s.reported, P.count code = view.otpFieldsCount

theorem otpFieldsCount_eq {view view' : VPMOTPView} (h : view.configuration = view'.configuration) :
    view.otpFieldsCount = view'.otpFieldsCount := by
  have hcount : view.configuration.otpFieldsCount = view'.configuration.otpFieldsCount := by rw [h]
  exact hcount

/-- A code is reported only with as many characters as there are fields. -/
theorem count_reportOf {view : VPMOTPView} {code : String} (h : view.reportOf P = some code) :
    code = String.join view.secureEntryData ∧ P.count code = view.otpFieldsCount := by
  unfold VPMOTPView.reportOf at h
  split at h
  case isFalse => cases h
  case isTrue hcount =>
    obtain rfl := Option.some.inj h
    exact ⟨rfl, hcount⟩

/-- A possible event does not trap and leaves the view in order. -/
theorem InOrder.step {view : VPMOTPView} (h : InOrder P view s) (hpossible : s.Possible e) :
    ∃ s', s.step P e = some s' ∧ InOrder P view s' := by
  cases e with
  | edit tag range string =>
    obtain ⟨text, ht, hrange⟩ := hpossible
    obtain ⟨view', otpString, htext⟩ := h.kept.textField_total P ht hrange string
    obtain ⟨hkept, hconfiguration, hcases⟩ := h.kept.textField_cases htext
    refine ⟨_, Option.map_eq_some_iff.mpr ⟨_, htext, rfl⟩, hkept, ?_, fun code hcode => ?_⟩
    · exact hconfiguration.trans h.configuration
    -- A code reported now was counted now; the others were counted when they were reported
    · obtain hnew | hold := List.mem_append.mp hcode
      · obtain rfl := Option.mem_toList.mp hnew
        obtain ⟨-, -, hreport⟩ | ⟨-, hnone, -⟩ := hcases
        · rw [(count_reportOf hreport.symm).2]
          exact otpFieldsCount_eq (hconfiguration.trans h.configuration)
        · cases hnone
      · exact h.reported code hold
  | tap tag =>
    refine ⟨_, rfl, h.kept.becomeFirstResponder tag, ?_, h.reported⟩
    exact (VPMOTPView.configuration_becomeFirstResponder s.view tag).trans h.configuration
  | initializeUI =>
    obtain ⟨hkept, hconfiguration, -⟩ := VPMOTPView.Kept.initializeUI (Nat.le_of_eq h.kept.fields)
    exact ⟨_, rfl, hkept, hconfiguration.trans h.configuration, h.reported⟩

/-- However a view is configured, no run of possible edits, taps and initialisations traps. At its
end the fields are as many as asked for and cover what is stored, every code reported had one
character for each field, and the next edit is reported exactly if it is accepted and leaves
that many characters, as the characters that are stored. -/
theorem code_fields_run (P : Platform) (view : VPMOTPView)
    (hnew : view.fields.length ≤ view.otpFieldsCount) (es : List CodeFieldsEvent)
    (hpossible : Throughout (step P) Possible ⟨view.initializeUI, []⟩ es) :
    ∃ s, run (step P) ⟨view.initializeUI, []⟩ es = some s ∧ s.view.Kept ∧
      s.view.configuration = view.configuration ∧
      (∀ code ∈ s.reported, P.count code = view.otpFieldsCount) ∧
      ∀ tag range string s', s.step P (.edit tag range string) = some s' →
        ∀ code, s'.reported = code :: s.reported ↔
          s.view.Accepts P tag range string ∧
          code = String.join (s.view.secureEntryData.set (tag - 1) string) ∧
          P.count code = view.otpFieldsCount := by
  obtain ⟨hkept, hconfiguration, -⟩ := VPMOTPView.Kept.initializeUI hnew
  have hinit : InOrder P view ⟨view.initializeUI, []⟩ :=
    ⟨hkept, hconfiguration, fun code hcode => absurd hcode List.not_mem_nil⟩
  obtain ⟨s, hs, hinorder⟩ := run_total (fun s e h hp => h.step hp) hinit hpossible
  refine ⟨s, hs, hinorder.kept, hinorder.configuration, hinorder.reported, ?_⟩
  intro tag range string s' hs' code
  obtain ⟨⟨view', otpString⟩, htext, rfl⟩ := Option.map_eq_some_iff.mp hs'
  obtain ⟨-, hconfiguration', hcases⟩ := hinorder.kept.textField_cases htext
  have hcount := otpFieldsCount_eq (hconfiguration'.trans hinorder.configuration)
  obtain ⟨haccepts, hentries, rfl⟩ | ⟨hrejects, rfl, -⟩ := hcases
  · simp only [haccepts, true_and]
    -- One report at most is put in front, so the new list tells whether there was one
    constructor
    · intro hreported
      cases hreport : view'.reportOf P with
      | none =>
        rw [hreport] at hreported
        exact absurd (congrArg List.length hreported) (by simp)
      | some reported =>
        rw [hreport] at hreported
        obtain ⟨hjoin, hlength⟩ := count_reportOf hreport
        obtain rfl := (List.cons.inj hreported).1
        exact ⟨by rw [hjoin, hentries], hlength.trans hcount⟩
    · rintro ⟨rfl, hlength⟩
      rw [← hentries] at hlength ⊢
      rw [VPMOTPView.reportOf, hcount, if_pos hlength]
      rfl
  · simp only [hrejects, false_and, iff_false]
    intro hreported
    exact absurd (congrArg List.length hreported) (by simp)

/-- A masked view of six alphanumeric fields: a paste of six characters into the third field is
reported though five fields are empty, and the field displays one asterisk. -/
theorem code_fields_run_paste :
    ∃ s, run (step (.sample [])) ⟨VPMOTPView.initializeUI
        { otpFieldsCount := 6, otpFieldInputType := .alphaNumeric,
          otpFieldEntrySecureType := true }, []⟩ [.tap 3, .edit 3 ⟨0, 0⟩ "a1b2c3"] = some s ∧
      s.reported = ["a1b2c3"] ∧ s.view.fields = ["", "", "*", "", "", ""] ∧ s.view.Kept := by
  have hpossible : Throughout (step (.sample [])) Possible ⟨VPMOTPView.initializeUI
      { otpFieldsCount := 6, otpFieldInputType := .alphaNumeric,
        otpFieldEntrySecureType := true }, []⟩ [.tap 3, .edit 3 ⟨0, 0⟩ "a1b2c3"] := by
    refine ⟨trivial, fun s hs => ?_⟩
    obtain rfl := Option.some.inj hs
    exact ⟨⟨"", by decide, by decide⟩, fun _ _ => trivial⟩
  obtain ⟨s, hs, hkept, -⟩ := code_fields_run (.sample []) _ (by decide) _ hpossible
  have hfinal : ∃ s, run (step (.sample [])) ⟨VPMOTPView.initializeUI
      { otpFieldsCount := 6, otpFieldInputType := .alphaNumeric,
        otpFieldEntrySecureType := true }, []⟩ [.tap 3, .edit 3 ⟨0, 0⟩ "a1b2c3"] = some s ∧
      s.reported = ["a1b2c3"] ∧ s.view.fields = ["", "", "*", "", "", ""] :=
    ⟨_, rfl, by decide, by decide⟩
  obtain ⟨s', hs', hreported, hfields⟩ := hfinal
  obtain rfl := Option.some.inj (hs'.symm.trans hs)
  exact ⟨s', hs', hreported, hfields, hkept⟩

end CodeFields

end ThorChat.SupportFrameWorks
