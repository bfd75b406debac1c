import ThorChat.Auth.OTPVerificationVC
import ThorChat.Library.Transition
import ThorChat.SupportFrameWorks.PUGIFLoading

/-!
# One Run of the One-Time-Code Screen

The screen from `viewDidLoad` on, with the requests it has sent that are still unanswered and
the overlays it has put up. An answer is what the completion closure of a request is given, at
once or at any later time; a request may stay unanswered for ever.
-/

namespace ThorChat.Auth

open ThorChat.Library.Utf16
open ThorChat.Runtime
open ThorChat.Sources
open ThorChat.SupportFrameWorks

/-- A verification request, with the texts displayed in the fields when it was sent. -/
structure SentVerification where
  parameters : Parameters
  displayed : List String
  deriving DecidableEq, Repr

/-- The one-time-code screen and what it has under way. A request is known by the number of
its `bar`. -/
structure OTPScreen where
  vc : OTPVerificationVC
  windows : Windows
  /-- The calls of `sendOtpValidation` that are unanswered. -/
  verifications : List Nat := []
  /-- The calls of `REsendOtpValidation` that are unanswered. -/
  resends : List Nat := []
  nextBar : Nat := 0
  /-- The verification requests sent so far, the last one first (a history variable). -/
  sent : List SentVerification := []
  /-- How often the profile screen was pushed (a history variable). -/
  profilePushes : Nat := 0
  deriving DecidableEq, Repr

/-- What can happen to the screen. -/
inductive OTPEvent where
  /-- A scheduled timer fires. -/
  | fire (timer : Nat)
  /-- A tap on the resend button. -/
  | tapResend
  /-- A tap on the field with this tag. -/
  | tapField (tag : Nat)
  /-- The keyboard, a paste or autofill edits the field with this tag. -/
  | edit (tag : Nat) (range : NSRange) (string : String)
  /-- The delete key is pressed in the field with this tag; `deleted` is the range UIKit would
  delete, nil when there is none. -/
  | deleteBackward (tag : Nat) (deleted : Option NSRange)
  | verificationAnswered (bar : Nat) (answer : Answer)
  | resendAnswered (bar : Nat) (answer : Answer)

namespace OTPScreen

/-- The screen after `viewDidLoad`, on the key window and with nothing under way. -/
def load (mobileNumber CustomerID : String) : OTPScreen where
  vc := .viewDidLoad mobileNumber CustomerID
  windows := { keyWindow := some 0, overlays := [] }

/-- Carry out what an action method starts. -/
def act (s : OTPScreen) : Action → OTPScreen
  | .sendOtpValidation =>
    { s with
      windows := s.windows.show s.nextBar
      verifications := s.nextBar :: s.verifications
      nextBar := s.nextBar + 1
      sent := ⟨sendOtpValidation.parameters s.vc, s.vc.vpmOtpViewref.fields⟩ :: s.sent }
  | .REsendOtpValidation =>
    { s with
      windows := s.windows.show s.nextBar
      resends := s.nextBar :: s.resends
      nextBar := s.nextBar + 1 }
  | _ => s

/-- Carry out an effect of the completion closure whose overlay belongs to `bar`. -/
def perform (bar : Nat) (s : OTPScreen) : Effect → OTPScreen
  | .hide => { s with windows := s.windows.hide bar }
  | .pushEditMyProfileVC => { s with profilePushes := s.profilePushes + 1 }
  | effect => { s with vc := s.vc.perform effect }

/-- One delegate call about an edit. -/
def edit (P : Platform) (s : OTPScreen) (tag : Nat) (range : NSRange) (string : String) :
    Option OTPScreen :=
  (s.vc.edit P tag range string).map fun (vc, action) => { s with vc := vc }.act action

/-- `VPMOTPTextField.deleteBackward`: UIKit asks the delegate about the range it would delete,
then the override asks it about the empty range. -/
def deleteBackward (P : Platform) (s : OTPScreen) (tag : Nat) (deleted : Option NSRange) :
    Option OTPScreen :=
  (match deleted with
    | some range => s.edit P tag range ""
    | none => some s).bind fun s => s.edit P tag ⟨0, 0⟩ ""

/-- Handle one event. Timers that are not scheduled do not fire, a hidden button takes no tap,
and a request is answered once. -/
def step (P : Platform) (s : OTPScreen) : OTPEvent → Option OTPScreen
  | .fire timer =>
    -- A timer that was replaced without being invalidated fires on
    if timer ∈ s.vc.runLoop then some { s with vc := s.vc.action } else some s
  | .tapResend =>
    -- A hidden button takes no tap
    if s.vc.resendbtnref.isHidden then some s
    else
      let (vc, action) := s.vc.ResendOtpbtnref
      some ({ s with vc := vc }.act action)
  | .tapField tag => some { s with vc := s.vc.tapField tag }
  | .edit tag range string => s.edit P tag range string
  | .deleteBackward tag deleted => s.deleteBackward P tag deleted
  | .verificationAnswered bar answer =>
    -- Each request is answered once
    if bar ∈ s.verifications then
      (sendOtpValidation.completion answer).map fun effects =>
        effects.foldl (perform bar)
          { s with verifications := s.verifications.filter (· ≠ bar) }
    else some s
  | .resendAnswered bar answer =>
    if bar ∈ s.resends then
      (REsendOtpValidation.completion answer).map fun effects =>
        effects.foldl (perform bar) { s with resends := s.resends.filter (· ≠ bar) }
    else some s

/-! ## Requests and notices -/

/-- The only request there is, is the one that is answered. -/
theorem eq_singleton_of_mem {bars : List Nat} {bar : Nat} (hle : bars.length ≤ 1)
    (hb : bar ∈ bars) : bars = [bar] := by
  match bars with
  | [] => simp at hb
  | [b] => simpa [eq_comm] using hb
  | _ :: _ :: _ => simp at hle

@[simp] theorem act_vc (s : OTPScreen) (action : Action) : (s.act action).vc = s.vc := by
  cases action <;> rfl

theorem perform_notice {bar : Nat} {s : OTPScreen} {e : Effect} (h : e.isNotice = true) :
    s.perform bar e = s := by
  cases e <;> simp_all [Effect.isNotice, perform, OTPVerificationVC.perform]

theorem foldl_perform_notices {bar : Nat} {s : OTPScreen} {notices : List Effect}
    (h : ∀ e ∈ notices, e.isNotice = true) : notices.foldl (perform bar) s = s := by
  induction notices with
  | nil => rfl
  | cons e rest ih =>
    rw [List.foldl_cons, perform_notice (h e (by simp))]
    exact ih fun e he => h e (List.mem_cons_of_mem _ he)

end OTPScreen

end ThorChat.Auth
