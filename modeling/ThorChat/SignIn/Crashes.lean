import ThorChat.SignIn.Answers
import ThorChat.SignIn.Screens
import ThorChat.SupportFrameWorks.CodeFields

/-!
# Where the Flow Crashes

Forced unwraps, out-of-range indices and ranges trap. Of all of them three are left in the sign-in
flow: a resend for a customer that makes no URL, an upload of an image without data, and an answer
whose body is not the object the handler unwraps (`flow_crashes_iff`). The outlets of a screen are
taken to be connected.
-/

namespace ThorChat.SignIn

open ThorChat.Auth
open ThorChat.Library
open ThorChat.Library.Utf16
open ThorChat.Runtime
open ThorChat.Sources
open ThorChat.SupportFrameWorks

/-- The body of the response is one the handler of the method can unwrap. -/
def Method.Unwraps (P : Platform) (response : AFDataResponse) (method : Method) : Prop :=
  if method = .EditUserProfileMethod then UsableData P response else UsableBody response

/-- A handler traps exactly on a body it cannot unwrap. -/
theorem Method.effects_eq_none_iff {P : Platform} {response : AFDataResponse} {method : Method} :
    method.effects P response = none ↔ ¬ method.Unwraps P response := by
  unfold Method.Unwraps
  by_cases hedit : method = .EditUserProfileMethod
  · rw [if_pos hedit, hedit, ← editUserProfile_ne_none_iff, not_not]
    rfl
  · rw [if_neg hedit, ← Method.effects_ne_none_iff (P := P) hedit, not_not]

namespace App

variable {P : Platform} {app : App} {call : Call} {e : Event} {self : Nat}
  {reachability : Option NetworkReachabilityStatus}

/-! ## Where a step may crash -/

/-- UIKit edits fields that are there, within the bounds of their texts. -/
def Possible (app : App) : Event → Prop
  | .editMobileNumber range _ => ∀ self vc,
    app.top = some ⟨self, .PhoneNumberVerificationVC vc⟩ → range.InBounds vc.mobileNumberTFref
  | .editOTP _ tag range _ => ∀ self vc,
    app.top = some ⟨self, .OTPVerificationVC vc⟩ →
      ∃ text, vc.vpmOtpViewref.viewWithTag tag = some text ∧ range.InBounds text
  | _ => True

/-- A resend goes out to a URL that ends in the persisted customer, whatever that is. -/
def crashesOTP (P : Platform) (vc : Auth.OTPVerificationVC) (app : App) : Event → Prop
  | .ResendOtpbtnref reachability =>
    vc.resendbtnref.isHidden = false ∧ vc.mobileNumberlblref.text ≠ "" ∧ Passes reachability ∧
      P.acceptsURL (URLs.ResendOtp ++ app.defaults.CustomerID.getD "") = false
  | _ => False

/-- The JPEG data of the image that was picked is unwrapped by force. -/
def crashesProfile (vc : Auth.EditMyProfileVC) (app : App) : Event → Prop
  | .SubmitProfile =>
    vc.Nametfref ≠ "" ∧ app.defaults.CustomerID ≠ none ∧
      vc.imageselected = true ∧ vc.selectedImge = none
  | _ => False

/-- The screen on top crashes. -/
def topCrashes (P : Platform) (app : App) (e : Event) : Prop :=
  match app.top with
  | some ⟨_, .OTPVerificationVC vc⟩ => crashesOTP P vc app e
  | some ⟨_, .EditMyProfileVC vc⟩ => crashesProfile vc app e
  | _ => False

/-- The event crashes the app: there is no state after it. -/
def Crashes (P : Platform) (app : App) : Event → Prop
  | .fire _ _ => False
  | .relaunch => False
  | .respond bar response => ∃ call,
    app.calls.find? (fun call => call.bar = bar && call.request.isSome) = some call ∧
      ¬ call.method.Unwraps P response
  | e => app.topCrashes P e

@[simp] theorem setTop_defaults (screen : Screen) :
    (app.setTop screen).defaults = app.defaults := by
  unfold setTop
  split <;> rfl

/-! ## Starting a call -/

/-- The request layer traps on a URL that is refused, if it gets that far, and nowhere else. -/
theorem APIRequest_eq_none_iff {σ : Type} {net : Network σ} {urlString : String}
    {method : HTTPMethod} {headers : List (String × String)} {parameters : Parameters}
    {completion : Completion σ} {s : σ}
    (hcompletion : ∀ message, completion ⟨false, .string "", message⟩ s ≠ none)
    (halamofire : ∀ request handler, net.alamofire request handler s ≠ none) :
    APIRequest net urlString method headers parameters completion s = none ↔
      Passes net.reachability ∧ net.platform.acceptsURL urlString = false := by
  unfold APIRequest
  -- Offline and refused calls never come to the URL
  rcases reachability_cases net.reachability with hnone | hrefuses | hpasses
  · have hnot : ¬ Passes none := by
      rintro ⟨connection, h⟩
      cases h
    simp [hnone, hnot]
  · obtain ⟨message, hmessage⟩ := isNetworkAvailable_refuses hrefuses
    simp [hmessage, hcompletion, not_passes_of_refuses hrefuses]
  · obtain ⟨message, hmessage⟩ := isNetworkAvailable_passes hpasses
    simp only [hmessage, if_true, hpasses, true_and]
    -- The four methods differ in what they send, not in the URL they unwrap
    by_cases hurl : net.platform.acceptsURL urlString = true
    · rw [if_pos hurl]
      split_ifs <;> simp [hurl, halamofire]
    · rw [if_neg hurl]
      simp [hurl]

/-- A call of the flow gets its refusal without a trap, and Alamofire takes every request. -/
theorem call_eq_none_iff {urlString : String} {method : HTTPMethod}
    {headers : List (String × String)} {parameters : Parameters}
    (hm : call.method ≠ .EditUserProfileMethod) :
    APIRequest (network P reachability call) urlString method headers parameters (completion call)
        app = none ↔ Passes reachability ∧ P.acceptsURL urlString = false := by
  -- The completion is called with a refusal here, which every method but the profile update only
  -- shows
  refine APIRequest_eq_none_iff (fun message hrefused => ?_) fun request handler hsent => ?_
  · obtain ⟨notices, hnotices, -⟩ := Method.completion_refused hm message
    rw [completion, hnotices] at hrefused
    cases hrefused
  · cases hsent

theorem LoginApiCalling_ne_none (hurl : P.acceptsURL URLs.LogIN_API = true)
    {vc : Auth.PhoneNumberVerificationVC} :
    app.LoginApiCalling P reachability self vc ≠ none := by
  intro h
  obtain ⟨-, hrefused⟩ := (call_eq_none_iff (by simp [newCall])).mp h
  rw [hurl] at hrefused
  cases hrefused

theorem sendOtpValidation_ne_none (hurl : P.acceptsURL URLs.OtpVerification = true)
    {vc : Auth.OTPVerificationVC} :
    app.sendOtpValidation P reachability self vc ≠ none := by
  intro h
  obtain ⟨-, hrefused⟩ := (call_eq_none_iff (by simp [newCall])).mp h
  rw [hurl] at hrefused
  cases hrefused

/-- The one URL of the flow that is put together from what a server sent. -/
theorem REsendOtpValidation_eq_none_iff {vc : Auth.OTPVerificationVC} :
    app.REsendOtpValidation P reachability self vc = none ↔ Passes reachability ∧
      P.acceptsURL (URLs.ResendOtp ++ app.defaults.CustomerID.getD "") = false :=
  call_eq_none_iff (by simp [newCall])

/-- The upload unwraps the JPEG data after it has found the customer. -/
theorem EditUserProfileMethod_eq_none_iff {vc : Auth.EditMyProfileVC} :
    app.EditUserProfileMethod self vc = none ↔ app.defaults.CustomerID ≠ none ∧
      vc.imageselected = true ∧ vc.selectedImge = none := by
  have hdefaults : (app.begin (app.newCall self .EditUserProfileMethod)).defaults =
      app.defaults := rfl
  simp only [App.EditUserProfileMethod, hdefaults]
  -- Without a customer the source returns before it looks at the image
  cases app.defaults.CustomerID with
  | none => simp
  | some CustomerID =>
    simp [Auth.EditUserProfileMethod.request, Auth.EditMyProfileVC.imageParts]
    by_cases hselected : vc.imageselected = true
    · simp [hselected]
    · simp [hselected]

/-! ## The screens -/

theorem stepLounch_ne_none : app.stepLounch self e ≠ none := by
  cases e <;> exact Option.some_ne_none _

/-- The phone number screen never crashes: the URL of the login is fixed. -/
theorem stepPhone_ne_none (hurl : P.acceptsURL URLs.LogIN_API = true)
    {vc : Auth.PhoneNumberVerificationVC}
    (hrange : ∀ range string, e = .editMobileNumber range string →
      range.InBounds vc.mobileNumberTFref) :
    app.stepPhone P self vc e ≠ none := by
  cases e with
  | editMobileNumber range string =>
    obtain ⟨text, htext⟩ := replacingCharacters_of_inBounds (hrange range string rfl) string
    simp only [App.stepPhone, Auth.PhoneNumberVerificationVC.edit, htext]
    split <;> exact Option.some_ne_none _
  | SubmitMobileNumber reachability =>
    simp only [App.stepPhone]
    split
    · exact LoginApiCalling_ne_none hurl
    · exact Option.some_ne_none _
  | _ => exact Option.some_ne_none _

theorem actOTP_ne_none (hurl : P.acceptsURL URLs.OtpVerification = true)
    {vc : Auth.OTPVerificationVC} {action : Action} (haction : action ≠ .REsendOtpValidation) :
    app.actOTP P reachability self vc action ≠ none := by
  cases action with
  | sendOtpValidation => exact sendOtpValidation_ne_none hurl
  | REsendOtpValidation => exact absurd rfl haction
  | _ => exact Option.some_ne_none _

/-- On the one-time-code screen only the resend can. -/
theorem stepOTP_eq_none_iff (hurl : P.acceptsURL URLs.OtpVerification = true)
    {vc : Auth.OTPVerificationVC} (horderly : OrderlyScreen vc)
    (hrange : ∀ reachability tag range string, e = .editOTP reachability tag range string →
      ∃ text, vc.vpmOtpViewref.viewWithTag tag = some text ∧ range.InBounds text) :
    app.stepOTP P self vc e = none ↔ crashesOTP P vc app e := by
  cases e with
  | editOTP reachability tag range string =>
    -- An edit within bounds does not trap, and it never asks for a new code
    obtain ⟨text, htext, hbounds⟩ := hrange reachability tag range string rfl
    obtain ⟨view, otpString, hedit⟩ :=
      horderly.synced.kept.textField_total P htext hbounds string
    obtain ⟨⟨vc', action⟩, hvc⟩ : ∃ edited, vc.edit P tag range string = some edited :=
      ⟨_, Option.map_eq_some_iff.mpr ⟨_, hedit, rfl⟩⟩
    have haction : action ≠ .REsendOtpValidation := (OTPScreen.edit_action hvc).1
    simp only [App.stepOTP, hvc, Option.bind_some, crashesOTP, iff_false]
    exact actOTP_ne_none hurl haction
  | ResendOtpbtnref reachability =>
    simp only [App.stepOTP, crashesOTP]
    -- A hidden button takes no tap, and a tap without a number stops at an alert
    cases hhidden : vc.resendbtnref.isHidden with
    | true => simp
    | false =>
      by_cases htext : vc.mobileNumberlblref.text = ""
      · simp [Auth.OTPVerificationVC.ResendOtpbtnref,
          Auth.OTPVerificationVC.validateSignupCredentials, htext, actOTP]
      · simp [Auth.OTPVerificationVC.ResendOtpbtnref,
          Auth.OTPVerificationVC.validateSignupCredentials, htext, actOTP,
          REsendOtpValidation_eq_none_iff, setTop_defaults]
  | _ => simp [App.stepOTP, crashesOTP]

theorem stepProfile_eq_none_iff {vc : Auth.EditMyProfileVC} :
    app.stepProfile self vc e = none ↔ crashesProfile vc app e := by
  cases e with
  | SubmitProfile =>
    simp only [App.stepProfile, crashesProfile, Auth.EditMyProfileVC.Submitbtnref]
    by_cases hname : vc.Nametfref = ""
    · simp [hname]
    · simp [hname, EditUserProfileMethod_eq_none_iff]
  | _ => simp [App.stepProfile, crashesProfile]

/-- Of the five screens two can crash. -/
theorem stepTop_eq_none_iff (hlogin : P.acceptsURL URLs.LogIN_API = true)
    (hverify : P.acceptsURL URLs.OtpVerification = true) (hscreens : Screens Screen.Orderly app)
    (hpossible : app.Possible e) : app.stepTop P e = none ↔ app.topCrashes P e := by
  cases htop : app.top with
  | none => simp [App.stepTop, topCrashes, htop]
  | some controller =>
    obtain ⟨self, screen⟩ := controller
    cases screen with
    | LounchScreenVC =>
      simp only [App.stepTop, topCrashes, htop, iff_false]
      exact stepLounch_ne_none
    | TermaAndPolicyVC titleStr =>
      simp only [App.stepTop, topCrashes, htop, iff_false]
      split <;> exact Option.some_ne_none _
    | PhoneNumberVerificationVC vc =>
      simp only [App.stepTop, topCrashes, htop, iff_false]
      refine stepPhone_ne_none hlogin fun range string he => ?_
      subst he
      exact hpossible self vc htop
    | OTPVerificationVC vc =>
      simp only [App.stepTop, topCrashes, htop]
      refine stepOTP_eq_none_iff hverify (hscreens.top htop vc rfl)
        fun reachability tag range string he => ?_
      subst he
      exact hpossible self vc htop
    | EditMyProfileVC vc =>
      simp only [App.stepTop, topCrashes, htop]
      exact stepProfile_eq_none_iff

/-- **Where the flow crashes.** In every state the app gets to, an event that UIKit or the server
can bring crashes the app exactly if it is a tap on resend while the persisted customer makes no
URL, the upload of a picked image without JPEG data, or the response of a call whose handler
cannot unwrap its body. -/
theorem flow_crashes_iff (P : Platform) (hlogin : P.acceptsURL URLs.LogIN_API = true)
    (hverify : P.acceptsURL URLs.OtpVerification = true) (app : App)
    (h : Reachable (step P) initial app) (e : Event) (hpossible : app.Possible e) :
    app.step P e = none ↔ app.Crashes P e := by
  have hscreens : Screens Screen.Orderly app := (screenInvariant_orderly P).reachable h
  cases e with
  | fire self timer => simp [App.step, Crashes]
  | relaunch => simp [App.step, Crashes]
  | respond bar response =>
    simp only [App.step, App.respond, Crashes]
    -- A response for a call that is no longer waiting goes nowhere
    cases hfind : app.calls.find? fun call => call.bar = bar && call.request.isSome with
    | none => simp
    | some call =>
      simp only [Option.some.injEq, exists_eq_left']
      rw [← Method.effects_eq_none_iff, ← not_iff_not]
      exact handler_ne_none_iff
  | _ => exact stepTop_eq_none_iff hlogin hverify hscreens hpossible

/-- The login is answered with an array. -/
theorem flow_crashes_iff_login :
    ∃ app, run (step (.sample [])) initial
        [.agreeContinueBtnref ⟨"United States", "+1"⟩, .editMobileNumber ⟨0, 0⟩ "2025550100",
          .SubmitMobileNumber (some (.reachable .ethernetOrWiFi))] = some app ∧
      app.step (.sample []) (.respond 4 ⟨some 200, none, .success (.array [])⟩) = none := by
  have hrun : ∃ app, run (step (.sample [])) initial
      [.agreeContinueBtnref ⟨"United States", "+1"⟩, .editMobileNumber ⟨0, 0⟩ "2025550100",
        .SubmitMobileNumber (some (.reachable .ethernetOrWiFi))] = some app ∧
      app.Crashes (.sample []) (.respond 4 ⟨some 200, none, .success (.array [])⟩) :=
    ⟨_, rfl, _, rfl, by rw [← Method.effects_eq_none_iff]; rfl⟩
  obtain ⟨app, hreach, hcrashes⟩ := hrun
  exact ⟨app, hreach, (flow_crashes_iff (.sample []) (by decide) (by decide) app ⟨_, hreach⟩
    (.respond 4 ⟨some 200, none, .success (.array [])⟩) trivial).mpr hcrashes⟩

end App

end ThorChat.SignIn
