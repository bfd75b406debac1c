import ThorChat.Auth.Effect
import ThorChat.Models.LoginModel
import ThorChat.Sources.WrappingAPIs
import ThorChat.SupportFrameWorks.StopWatch
import ThorChat.SupportFrameWorks.VPMOTPView

/-!
# The One-Time-Code Screen

A `Timer` object is known by a number. The screen keeps, besides its own properties, the
scheduled timers that fire its `action`: a timer is valid as long as it is one of them.
-/

namespace ThorChat.Auth

open ThorChat.Library.Utf16
open ThorChat.Models
open ThorChat.Runtime
open ThorChat.Sources
open ThorChat.SupportFrameWorks

/-- A button, by what the screen sets of it. -/
structure UIButton where
  isHidden : Bool := false
  title : String := ""
  deriving DecidableEq, Repr

/-- A label, by what the screen sets of it. -/
structure UILabel where
  isHidden : Bool := false
  text : String := ""
  deriving DecidableEq, Repr

/-- `OTPVerificationVC`. -/
structure OTPVerificationVC where
  mobileNumber : String := ""
  CustomerID : String := ""
  /-- The `Timer` object, nil for the one the property starts with, which is never scheduled. -/
  timer : Option Nat := none
  enteredOtp : String := ""
  sessionTimer : Int := 60
  vpmOtpViewref : VPMOTPView := {}
  mobileNumberlblref : UILabel := {}
  timerLblref : UILabel := { text := "Resend Code in 1:42" }
  resendbtnref : UIButton := { title := "Resend Code " }
  resendCallbtnref : UIButton := { title := "Call Me in 1:42" }
  /-- The timers of the run loop that fire this screen's `action`. -/
  runLoop : List Nat := []
  nextTimer : Nat := 0
  deriving DecidableEq, Repr

namespace OTPVerificationVC

/-! ## The countdown -/

/-- `timer.isValid`. -/
def timerIsValid (vc : OTPVerificationVC) : Bool :=
  match vc.timer with
  | some timer => vc.runLoop.contains timer
  | none => false

/-- `start`. -/
def start (vc : OTPVerificationVC) : OTPVerificationVC :=
  if vc.timerIsValid = false then
    { vc with
      timer := some vc.nextTimer
      runLoop := vc.nextTimer :: vc.runLoop
      nextTimer := vc.nextTimer + 1 }
  else vc

@[simp] theorem start_sessionTimer (vc : OTPVerificationVC) :
    vc.start.sessionTimer = vc.sessionTimer := by
  unfold start
  split <;> rfl

@[simp] theorem start_resendbtnref (vc : OTPVerificationVC) :
    vc.start.resendbtnref = vc.resendbtnref := by
  unfold start
  split <;> rfl

@[simp] theorem start_CustomerID (vc : OTPVerificationVC) :
    vc.start.CustomerID = vc.CustomerID := by
  unfold start
  split <;> rfl

@[simp] theorem start_vpmOtpViewref (vc : OTPVerificationVC) :
    vc.start.vpmOtpViewref = vc.vpmOtpViewref := by
  unfold start
  split <;> rfl

/-- `pause`. -/
def pause (vc : OTPVerificationVC) : OTPVerificationVC :=
  { vc with runLoop := vc.runLoop.filter fun timer => some timer ≠ vc.timer }

/-- What the timer label shows for a number of seconds. -/
def countdownText (seconds : Int) : String :=
  "Resend code in " ++ (StopWatch.mk seconds).simpleTimeString

/-- `action`, fired by a timer. -/
def action (vc : OTPVerificationVC) : OTPVerificationVC :=
  if vc.sessionTimer > 0 then
    { vc with
      sessionTimer := vc.sessionTimer - 1
      resendbtnref := { vc.resendbtnref with isHidden := true }
      timerLblref := { isHidden := false, text := countdownText (vc.sessionTimer - 1) } }
  else
    -- The tick after zero: only this branch shows the button
    { vc.pause with
      resendbtnref := { isHidden := false, title := "Resend code" }
      timerLblref := { vc.timerLblref with isHidden := true }
      resendCallbtnref := { vc.resendCallbtnref with title := "Call me" } }

@[simp] theorem action_CustomerID (vc : OTPVerificationVC) :
    vc.action.CustomerID = vc.CustomerID := by
  unfold action
  split <;> rfl

@[simp] theorem action_vpmOtpViewref (vc : OTPVerificationVC) :
    vc.action.vpmOtpViewref = vc.vpmOtpViewref := by
  unfold action
  split <;> rfl

/-! ## Loading -/

/-- `OtpValidationInit`. -/
def OtpValidationInit (vc : OTPVerificationVC) : OTPVerificationVC :=
  start
    { vc with
      vpmOtpViewref := VPMOTPView.initializeUI
        { vc.vpmOtpViewref with otpFieldsCount := 4, shouldAllowIntermediateEditing := false }
      resendbtnref := { vc.resendbtnref with isHidden := true }
      timerLblref := { vc.timerLblref with isHidden := true } }

/-- `viewDidLoad` of a screen given a mobile number and a customer. -/
def viewDidLoad (mobileNumber CustomerID : String) : OTPVerificationVC :=
  OtpValidationInit
    { mobileNumber := mobileNumber
      CustomerID := CustomerID
      mobileNumberlblref := { text := mobileNumber } }

@[simp] theorem viewDidLoad_CustomerID (mobileNumber CustomerID : String) :
    (viewDidLoad mobileNumber CustomerID).CustomerID = CustomerID := by
  simp only [viewDidLoad, OtpValidationInit, start_CustomerID]

/-! ## Actions -/

/-- `validateSignupCredentials`. -/
def validateSignupCredentials (vc : OTPVerificationVC) : UserValidationState :=
  if vc.mobileNumberlblref.text.isEmpty then .invalid "Something went Wrong" else .valid

/-- `ResendOtpbtnref`. -/
def ResendOtpbtnref (vc : OTPVerificationVC) : OTPVerificationVC × Action :=
  ({ vc with resendbtnref := { vc.resendbtnref with isHidden := true } },
    match vc.validateSignupCredentials with
    | .valid => .REsendOtpValidation
    | .invalid message => .ShowAlert message)

/-- `verifybtnref`. -/
def verifybtnref (P : Platform) (vc : OTPVerificationVC) : Action :=
  if P.count vc.enteredOtp < 4 then .ShowAlert "Please enter valid otp" else .sendOtpValidation

/-- `enteredOTP(otpString:)`. -/
def enteredOTP (P : Platform) (vc : OTPVerificationVC) (otpString : String) :
    OTPVerificationVC × Action :=
  let vc := { vc with enteredOtp := otpString }
  (vc, vc.verifybtnref P)

/-- An edit of one of the fields, with what the delegate call it makes starts. -/
def edit (P : Platform) (vc : OTPVerificationVC) (tag : Nat) (range : NSRange)
    (string : String) : Option (OTPVerificationVC × Action) :=
  (vc.vpmOtpViewref.textField P tag range string).map fun (view, otpString) =>
    let vc := { vc with vpmOtpViewref := view }
    match otpString with
    | some otpString => vc.enteredOTP P otpString
    | none => (vc, .nothing)

/-- A tap on one of the fields. -/
def tapField (vc : OTPVerificationVC) (tag : Nat) : OTPVerificationVC :=
  { vc with vpmOtpViewref := vc.vpmOtpViewref.becomeFirstResponder tag }

/-- What a completion closure does to the screen itself. -/
def perform (vc : OTPVerificationVC) : Effect → OTPVerificationVC
  | .initializeUI => { vc with vpmOtpViewref := vc.vpmOtpViewref.initializeUI }
  | .setSessionTimer value => { vc with sessionTimer := value }
  | .hideResendbtnref => { vc with resendbtnref := { vc.resendbtnref with isHidden := true } }
  | .start => vc.start
  | _ => vc

@[simp] theorem perform_CustomerID (vc : OTPVerificationVC) (e : Effect) :
    (vc.perform e).CustomerID = vc.CustomerID := by
  cases e <;> simp [perform]

end OTPVerificationVC

namespace sendOtpValidation

/-- The parameters of the request. -/
def parameters (vc : OTPVerificationVC) : Parameters :=
  [("customer_id", vc.CustomerID), ("customer_otp", vc.enteredOtp)]

/-- The completion closure; `none` when unwrapping the body traps. -/
def completion (answer : Answer) : Option (List Effect) :=
  if answer.status then
    answer.response.dictionaryObject.map fun json =>
      let check := RegisterModel.map json
      .hide ::
        if check.status = 200 then
          [.set (.auth_key check.auth_key),
           .set (.client_service check.client_service),
           .set (.Str_Global_IsUserLogIned true),
           .pushEditMyProfileVC]
        -- A refused code empties the fields
        else if check.status = 204 then [.initializeUI, .makeToast check.message]
        else if check.status = 400 then [.initializeUI, .makeToast check.message]
        else if check.status = 401 then [.initializeUI, .makeToast check.message]
        -- `bar.hide()` is repeated here and below
        else if check.status = 403 then [.initializeUI, .hide, .ShowAlert check.message]
        else if check.status = 422 then [.initializeUI, .hide, .ShowAlert check.message]
        else []
  else some (failure answer.message)

/-- The answer is a success with an object whose status is 200. -/
def Verified (answer : Answer) (json : Dictionary) : Prop :=
  answer.status = true ∧ answer.response = .object json ∧ (RegisterModel.map json).status = 200

/-- The registration model of a verified answer. -/
def verified (answer : Answer) : Option RegisterModel :=
  if answer.status then
    (answer.response.dictionaryObject.map RegisterModel.map).filter fun check =>
      check.status = 200
  else none

theorem verified_eq_some {answer : Answer} {check : RegisterModel} :
    verified answer = some check ↔
      ∃ json, Verified answer json ∧ check = RegisterModel.map json := by
  unfold verified Verified
  split
  · rename_i hs
    simp only [Option.filter_eq_some_iff, Option.map_eq_some_iff, JSON.dictionaryObject_eq_some,
      decide_eq_true_eq, hs, true_and]
    constructor
    · rintro ⟨⟨json, hobject, rfl⟩, h200⟩
      exact ⟨json, ⟨hobject, h200⟩, rfl⟩
    · rintro ⟨json, ⟨hobject, h200⟩, rfl⟩
      exact ⟨⟨json, hobject, rfl⟩, h200⟩
  · rename_i hs
    simp [hs]

/-- What the completion closure does: it takes the overlay down first, and it persists and
pushes for verified answers only. -/
theorem completion_cases {answer : Answer} {effects : List Effect}
    (h : completion answer = some effects) :
    (∃ json, Verified answer json ∧ effects =
      [.hide, .set (.auth_key (RegisterModel.map json).auth_key),
        .set (.client_service (RegisterModel.map json).client_service),
        .set (.Str_Global_IsUserLogIned true), .pushEditMyProfileVC]) ∨
    ((∀ json, ¬ Verified answer json) ∧ ∃ rest, effects = .hide :: rest ∧
      ∀ e ∈ rest, e = .initializeUI ∨ e = .hide ∨ e.isNotice = true) := by
  unfold completion at h
  cases hs : answer.status with
  | false =>
    obtain ⟨notices, hn, hnotice⟩ := failure_eq answer.message
    simp only [hs, Bool.false_eq_true, if_false, Option.some.injEq] at h
    refine Or.inr ⟨fun json hv => by simp [Verified, hs] at hv, notices, ?_, ?_⟩
    · rw [← h, hn]
    · exact fun e he => Or.inr (Or.inr (hnotice e he))
  | true =>
    simp only [hs, if_true, Option.map_eq_some_iff] at h
    obtain ⟨json, hj, rfl⟩ := h
    have hobject : answer.response = .object json := JSON.dictionaryObject_eq_some.mp hj
    -- Only the first branch of the chain persists and pushes
    by_cases h200 : (RegisterModel.map json).status = 200
    · exact Or.inl ⟨json, ⟨hs, hobject, h200⟩, by simp only [h200, if_true]⟩
    · refine Or.inr ⟨?_, _, rfl, ?_⟩
      · rintro json' ⟨-, hobject', h200'⟩
        rw [hobject, JSON.object.injEq] at hobject'
        exact h200 (hobject' ▸ h200')
      · simp only [h200, if_false]
        split_ifs <;> simp [Effect.isNotice]

end sendOtpValidation

namespace REsendOtpValidation

/-- The parameters of the request: none. -/
def parameters : Parameters := []

/-- The completion closure; `none` when unwrapping the body traps. -/
def completion (answer : Answer) : Option (List Effect) :=
  if answer.status then
    answer.response.dictionaryObject.map fun json =>
      let check := LoginModel.map json
      .hide ::
        if check.status = 200 then [.setSessionTimer 60, .hideResendbtnref, .start]
        else if check.status = 204 then [.makeToast check.message]
        else if check.status = 400 then [.makeToast check.message]
        else if check.status = 401 then [.makeToast check.message]
        else if check.status = 403 then [.ShowAlert check.message]
        else []
  else some (failure answer.message)

/-- The answer is a success with an object whose status is 200. -/
def Resent (answer : Answer) : Prop :=
  answer.status = true ∧ ∃ json, answer.response = .object json ∧ (LoginModel.map json).status = 200

/-- What the completion closure does: it takes the overlay down first, and it restarts the
countdown for a resent code only. -/
theorem completion_cases {answer : Answer} {effects : List Effect}
    (h : completion answer = some effects) :
    (Resent answer ∧ effects = [.hide, .setSessionTimer 60, .hideResendbtnref, .start]) ∨
    (¬ Resent answer ∧ ∃ notices, effects = .hide :: notices ∧
      ∀ e ∈ notices, e.isNotice = true) := by
  unfold completion at h
  cases hs : answer.status with
  | false =>
    obtain ⟨notices, hn, hnotice⟩ := failure_eq answer.message
    simp only [hs, Bool.false_eq_true, if_false, Option.some.injEq] at h
    exact Or.inr ⟨fun hr => by simp [Resent, hs] at hr, notices, by rw [← h, hn], hnotice⟩
  | true =>
    simp only [hs, if_true, Option.map_eq_some_iff] at h
    obtain ⟨json, hj, rfl⟩ := h
    have hobject : answer.response = .object json := JSON.dictionaryObject_eq_some.mp hj
    -- Only the first branch of the chain starts the timer
    by_cases h200 : (LoginModel.map json).status = 200
    · exact Or.inl ⟨⟨hs, json, hobject, h200⟩, by simp only [h200, if_true]⟩
    · refine Or.inr ⟨?_, _, rfl, ?_⟩
      · rintro ⟨-, json', hobject', h200'⟩
        rw [hobject, JSON.object.injEq] at hobject'
        exact h200 (hobject' ▸ h200')
      · simp only [h200, if_false]
        split_ifs <;> simp [Effect.isNotice]

end REsendOtpValidation

end ThorChat.Auth
