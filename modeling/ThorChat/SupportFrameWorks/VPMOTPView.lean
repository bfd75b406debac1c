import ThorChat.Library.Utf16
import ThorChat.Runtime.Foundation

/-!
# The View of One-Time-Code Fields

`VPMOTPView.swift` and `VPMOTPTextField.swift`: a row of text fields tagged `1, 2, …` with a
hidden entry buffer beside them. Fonts, colours, borders and frames are left out.

The functions that may call the delegate's `enteredOTP(otpString:)` return what they call it
with; `none` as their result is a trap.
-/

namespace ThorChat.SupportFrameWorks

open ThorChat.Library.Utf16
open ThorChat.Runtime

/-- `VPMOTPView.KeyboardType`. -/
inductive KeyboardType where
  | numeric
  | alphabet
  | alphaNumeric
  deriving DecidableEq, Repr

/-- `VPMOTPView`. -/
structure VPMOTPView where
  otpFieldsCount : Nat := 4
  otpFieldInputType : KeyboardType := .numeric
  /-- The text is displayed as an asterisk. -/
  otpFieldEntrySecureType : Bool := false
  /-- The text is not displayed at all. -/
  otpFilledEntryDisplay : Bool := false
  shouldAllowIntermediateEditing : Bool := true
  secureEntryData : List String := []
  /-- The texts displayed in the fields tagged `1, 2, …`. -/
  fields : List String := []
  /-- The tag of the field the keyboard writes to. -/
  firstResponder : Option Nat := none
  deriving DecidableEq, Repr

namespace VPMOTPView

/-! ## Which field the keyboard writes to -/

/-- The text of the field with this tag. -/
def viewWithTag (view : VPMOTPView) (tag : Nat) : Option String :=
  if tag = 0 then none else view.fields[tag - 1]?

/-- The delegate's `shouldBecomeFirstResponderForOTP(otpFieldIndex:)`; the only delegate is
`OTPVerificationVC`. -/
def shouldBecomeFirstResponderForOTP (_index : Nat) : Bool := true

/-- The tag of the first empty field. -/
def nextOTPField (view : VPMOTPView) : Option Nat :=
  (List.range' 1 view.otpFieldsCount).find? fun index => view.viewWithTag index = some ""

/-- `isPreviousFieldsEntered(forTextField:)`. -/
def isPreviousFieldsEntered (view : VPMOTPView) (tag : Nat) : Bool :=
  if view.shouldAllowIntermediateEditing then true
  else match view.nextOTPField with
    | some next => next = tag || tag + 1 = next
    | none => true

/-- `textFieldShouldBeginEditing(_:)`. -/
def textFieldShouldBeginEditing (view : VPMOTPView) (tag : Nat) : Bool :=
  if shouldBecomeFirstResponderForOTP (tag - 1) then view.isPreviousFieldsEntered tag else false

/-- `becomeFirstResponder` of the field with this tag. -/
def becomeFirstResponder (view : VPMOTPView) (tag : Nat) : VPMOTPView :=
  if (view.viewWithTag tag).isSome && view.textFieldShouldBeginEditing tag then
    { view with firstResponder := some tag }
  else view

/-- `resignFirstResponder` of the field with this tag. -/
def resignFirstResponder (view : VPMOTPView) (tag : Nat) : VPMOTPView :=
  if view.firstResponder = some tag then { view with firstResponder := none } else view

/-! ## Setting up -/

/-- `initializeOTPFields`: fields that are removed give the keyboard back. -/
def initializeOTPFields (view : VPMOTPView) : VPMOTPView :=
  { view with
    secureEntryData := List.replicate view.otpFieldsCount ""
    fields := List.replicate view.otpFieldsCount "" ++ view.fields.drop view.otpFieldsCount
    firstResponder := view.firstResponder.filter fun tag => view.otpFieldsCount < tag }

/-- `initializeUI`. -/
def initializeUI (view : VPMOTPView) : VPMOTPView :=
  view.initializeOTPFields.becomeFirstResponder 1

/-! ## Editing -/

/-- The code entered so far: the entries that are not empty, put together. -/
def enteredOTPString (view : VPMOTPView) : String :=
  view.secureEntryData.foldl
    (fun enteredOTPString entry =>
      if entry.isEmpty then enteredOTPString else enteredOTPString ++ entry) ""

/-- `calculateEnteredOTPSTring(isDeleted:)`: the code passed to `enteredOTP(otpString:)`. -/
def calculateEnteredOTPSTring (P : Platform) (view : VPMOTPView) (isDeleted : Bool) :
    Option String :=
  if isDeleted then none
  else if P.count view.enteredOTPString = view.otpFieldsCount then some view.enteredOTPString
  else none

/-- What a field displays for an entry. -/
def displayed (view : VPMOTPView) (string : String) : String :=
  if view.otpFilledEntryDisplay then " "
  else if view.otpFieldEntrySecureType then "*"
  else string

/-- `secureEntryData[textField.tag - 1] = entry`, which traps past the end, with the text
displayed for it. -/
def setEntry (view : VPMOTPView) (tag : Nat) (entry text : String) : Option VPMOTPView :=
  if tag - 1 < view.secureEntryData.length then
    some { view with
      secureEntryData := view.secureEntryData.set (tag - 1) entry
      fields := view.fields.set (tag - 1) text }
  else none

/-- `deleteText(in:)`. -/
def deleteText (view : VPMOTPView) (tag : Nat) : Option VPMOTPView :=
  (view.setEntry tag "" "").map fun view => view.becomeFirstResponder tag

/-- The branch of the delegate function that handles an edit as an entry. -/
def enterText (P : Platform) (view : VPMOTPView) (tag : Nat) (string : String) :
    Option (VPMOTPView × Option String) :=
  (view.setEntry tag string (view.displayed string)).map fun view =>
    let view :=
      -- The last field gives the keyboard back
      if (view.viewWithTag (tag + 1)).isSome then view.becomeFirstResponder (tag + 1)
      else view.resignFirstResponder tag
    (view, view.calculateEnteredOTPSTring P false)

/-- The branch of the delegate function that handles an edit as a deletion. -/
def deleteEntry (view : VPMOTPView) (tag : Nat) (currentText : String) : Option VPMOTPView :=
  if 1 < tag && currentText.isEmpty then
    -- The field is empty already: the previous one is emptied
    if (view.viewWithTag (tag - 1)).isSome then view.deleteText (tag - 1) else some view
  else
    (view.deleteText tag).map fun view =>
      if 1 < tag && (view.viewWithTag (tag - 1)).isSome then view.becomeFirstResponder (tag - 1)
      else view

/-- `textField(_:shouldChangeCharactersIn:replacementString:)` for the field with this tag. It
always returns false, so the edit itself is never applied. -/
def textField (P : Platform) (view : VPMOTPView) (tag : Nat) (range : NSRange)
    (string : String) : Option (VPMOTPView × Option String) :=
  (view.viewWithTag tag).bind fun text =>
    (replacingCharacters text range string).bind fun replacedText =>
      -- Only the alphabetic type looks at the characters
      if !replacedText.isEmpty && view.otpFieldInputType = .alphabet &&
          !P.containsLetters replacedText then
        some (view, none)
      else if P.count replacedText ≥ 1 then view.enterText P tag string
      else (view.deleteEntry tag text).map fun view => (view, none)

end VPMOTPView

end ThorChat.SupportFrameWorks
