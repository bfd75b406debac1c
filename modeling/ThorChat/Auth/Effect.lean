import ThorChat.Runtime.Foundation

/-!
# What the Sign-In Screens Do

The action methods and completion closures of the sign-in screens, as the list of what they do
to the rest of the app, in order. A machine that models the app, or one screen of it,
interprets the list; the toasts and alerts change no state that a later step reads.
-/

namespace ThorChat.Auth

open ThorChat.Runtime

/-- What a completion closure does. -/
inductive Effect where
  /-- `bar.hide()`. -/
  | hide
  /-- `UserDefaults.standard.set(_:forKey:)`. -/
  | set (entry : UserDefaults.Entry)
  /-- `pushViewController` of an `OTPVerificationVC` given a mobile number and a customer. -/
  | pushOTPVerificationVC (mobileNumber CustomerID : String)
  /-- `pushViewController` of an `EditMyProfileVC`. -/
  | pushEditMyProfileVC
  /-- A new key window with `DashBoardTabVC` as its root view controller. -/
  | installDashBoardTabVC
  /-- `self.vpmOtpViewref.initializeUI()`. -/
  | initializeUI
  /-- `self.sessionTimer = value`. -/
  | setSessionTimer (value : Int)
  /-- `self.resendbtnref.isHidden = true`. -/
  | hideResendbtnref
  /-- `self.start()`. -/
  | start
  | makeToast (message : Option String)
  | ShowAlert (message : String)
  deriving DecidableEq, Repr

/-- A toast or an alert. -/
def Effect.isNotice : Effect → Bool
  | .makeToast _ => true
  | .ShowAlert _ => true
  | _ => false

/-- `UserValidationState`. -/
inductive UserValidationState where
  | valid
  | invalid (message : String)
  deriving DecidableEq, Repr

/-- What an action method starts. -/
inductive Action where
  | nothing
  | ShowAlert (message : String)
  | LoginApiCalling
  | sendOtpValidation
  | REsendOtpValidation
  | EditUserProfileMethod
  deriving DecidableEq, Repr

/-- The body statuses that the login, the resend and the profile closures tell apart. -/
def listedStatuses : List Int := [200, 204, 400, 401, 403]

/-- The branch for `status == false` that the completion closures share. -/
def failure (message : String) : List Effect :=
  if message = "theRequestTimedOut" || message = "notReachable" then
    [.hide, .makeToast "pleaseCheckYourInternetSignal_Is_Too_Low"]
  else if message = "check_Your_Internet_Connection" then
    [.hide, .makeToast "please_Check_Your_Internet"]
  else [.hide, .makeToast "somethingWentWrong"]

/-- Whatever the message, the failure branch takes the overlay down and shows a toast. -/
theorem failure_eq (message : String) :
    ∃ notices, failure message = .hide :: notices ∧ ∀ e ∈ notices, e.isNotice = true := by
  unfold failure
  split_ifs
  · exact ⟨[_], rfl, by simp [Effect.isNotice]⟩
  · exact ⟨[_], rfl, by simp [Effect.isNotice]⟩
  · exact ⟨[_], rfl, by simp [Effect.isNotice]⟩

end ThorChat.Auth
