import ThorChat.SignIn.App

/-!
# How Calls Start and End

Two inversion lemmas that every invariant of the app rests on: what a method that starts a call
leaves behind (`StartOutcome`), and what the response of a call does (`respond_cases`).
-/

namespace ThorChat.SignIn

open ThorChat.Auth
open ThorChat.Models
open ThorChat.Runtime
open ThorChat.Sources
open ThorChat.SupportFrameWorks

/-! ## The effects of a response -/

/-- What the response of a call does: the profile update reads the response itself, the other
methods have their completion closure run on what `responseData` makes of it. -/
def Method.effects (P : Platform) (response : AFDataResponse) (method : Method) :
    Option (List Effect) :=
  match method with
  | .EditUserProfileMethod => Auth.EditUserProfileMethod.handler P response
  | method => match answerOf response with
    | some answer => method.completion answer
    | none => some []

/-- A response that is dropped has no effects. -/
theorem Method.effects_dropped {P : Platform} {response : AFDataResponse} {method : Method}
    (hm : method ≠ .EditUserProfileMethod) (ha : answerOf response = none) :
    method.effects P response = some [] := by
  cases method with
  | EditUserProfileMethod => exact absurd rfl hm
  | _ => simp only [Method.effects, ha]

/-- Any other response is an answer to the completion closure. -/
theorem Method.effects_answered {P : Platform} {response : AFDataResponse} {method : Method}
    {answer : Answer} (hm : method ≠ .EditUserProfileMethod)
    (ha : answerOf response = some answer) :
    method.effects P response = method.completion answer := by
  cases method with
  | EditUserProfileMethod => exact absurd rfl hm
  | _ => simp only [Method.effects, ha]

/-- What a refusal by the reachability check does: the overlay goes and a toast is shown. -/
theorem Method.completion_refused {method : Method} (hm : method ≠ .EditUserProfileMethod)
    (message : String) : ∃ notices,
      method.completion ⟨false, .string "", message⟩ = some (.hide :: notices) ∧
      ∀ e ∈ notices, e.isNotice = true := by
  obtain ⟨notices, hn, hnotice⟩ := failure_eq message
  refine ⟨notices, ?_, hnotice⟩
  rw [← hn]
  cases method with
  | EditUserProfileMethod => exact absurd rfl hm
  | LoginApiCalling countryCode mobileNumber => rfl
  | sendOtpValidation customer_id => rfl
  | REsendOtpValidation => rfl
  | DeleteProfilepicMthod => rfl

/-! ## The request of a call -/

/-- What the request of a method says, with this customer persisted: where it goes, and whom it
names. -/
def Method.Sends (method : Method) (CustomerID : Option String) (request : HTTPRequest) : Prop :=
  match method with
  | .LoginApiCalling countryCode mobileNumber =>
    request.urlString = URLs.LogIN_API ∧
      request.parameters.lookup "customer_mobile_number" = some (countryCode ++ mobileNumber)
  | .sendOtpValidation customer_id =>
    request.urlString = URLs.OtpVerification ∧
      request.parameters.lookup "customer_id" = some customer_id
  | .REsendOtpValidation => request.urlString = URLs.ResendOtp ++ CustomerID.getD ""
  | .EditUserProfileMethod =>
    request.urlString = URLs.UpdateProfileFullDetails ∧
      request.parameters.lookup "customer_id" = CustomerID
  | .DeleteProfilepicMthod =>
    request.urlString = URLs.DeleteProfilePic ∧
      request.parameters.lookup "customer_id" = CustomerID

namespace App

variable {P : Platform} {app app' : App} {call : Call} {reachability :
  Option NetworkReachabilityStatus} {self : Nat}

/-! ## Notices and settling -/

/-- A toast and an alert are no part of the state. -/
theorem perform_notice {e : Effect} (h : e.isNotice = true) : app.perform call e = app := by
  cases e <;> simp_all [Effect.isNotice, perform]

theorem performAll_notices {notices : List Effect} (h : ∀ e ∈ notices, e.isNotice = true) :
    app.performAll call notices = app := by
  unfold performAll
  -- On the notices
  induction notices with
  | nil => rfl
  | cons e rest ih =>
    rw [List.foldl_cons, perform_notice (h e (by simp))]
    exact ih fun e he => h e (List.mem_cons_of_mem _ he)

theorem performAll_cons (e : Effect) (effects : List Effect) :
    app.performAll call (e :: effects) = (app.perform call e).performAll call effects := rfl

/-- An overlay that is taken down before some notices. -/
theorem performAll_hide_notices {notices : List Effect}
    (h : ∀ e ∈ notices, e.isNotice = true) :
    app.performAll call (.hide :: notices) = app.perform call .hide := by
  rw [performAll_cons, performAll_notices h]

/-- Settling ends the calls with this number. -/
theorem mem_settle {bar : Nat} {c : Call} :
    c ∈ (app.settle bar).calls ↔ c ∈ app.calls ∧ c.bar ≠ bar := by
  simp [settle]

/-! ## Starting a call -/

/-- What a method leaves behind that puts up the overlay of `call` in the state `begun`: the
call waits without a request, it was refused at once, or its request is under way. -/
inductive StartOutcome (call : Call) (begun : App) : App → Prop where
  | silent : StartOutcome call begun begun
  | refused : StartOutcome call begun ((begun.settle call.bar).perform call .hide)
  | sent (request : HTTPRequest) :
      call.method.Sends begun.defaults.CustomerID request →
      StartOutcome call begun (begun.sending call.bar request)

/-- A call that waits after a start waited before it as it is, or is the new one with a
request. -/
theorem StartOutcome.mem_calls_cases {begun : App} (h : StartOutcome call begun app') {c : Call}
    (hc : c ∈ app'.calls) :
    c ∈ begun.calls ∨ ∃ request, ∃ c' ∈ begun.calls, c'.bar = call.bar ∧
      c = { c' with request := some request } ∧
      call.method.Sends begun.defaults.CustomerID request := by
  cases h with
  | silent => exact Or.inl hc
  | refused => exact Or.inl (mem_settle.mp hc).1
  -- The request is put into the call with the number of the new one
  | sent request hsends =>
    obtain ⟨c', hc', rfl⟩ := List.mem_map.mp hc
    split
    case isTrue hbar => exact Or.inr ⟨request, c', hc', hbar, rfl, hsends⟩
    case isFalse => exact Or.inl hc'

/-- The calls a start leaves waiting are those that waited, and the new one at most. -/
theorem StartOutcome.mem_calls {begun : App} (h : StartOutcome call begun app') {c : Call}
    (hc : c ∈ app'.calls) :
    ∃ c' ∈ begun.calls, c'.bar = c.bar ∧ c'.self = c.self ∧ c'.method = c.method := by
  rcases h.mem_calls_cases hc with hc | ⟨request, c', hc', -, rfl, -⟩
  · exact ⟨c, hc, rfl, rfl, rfl⟩
  · exact ⟨c', hc', rfl, rfl, rfl⟩

/-- A start changes the windows and the calls only. -/
theorem StartOutcome.frame {begun : App} (h : StartOutcome call begun app') :
    app'.root = begun.root ∧ app'.defaults = begun.defaults ∧ app'.nextId = begun.nextId ∧
      app'.verifications = begun.verifications ∧ app'.otpRequests = begun.otpRequests ∧
      app'.windows.keyWindow = begun.windows.keyWindow := by
  cases h <;> exact ⟨rfl, rfl, rfl, rfl, rfl, rfl⟩

/-- The outcome of a method whose request goes through the request layer. -/
theorem startOutcome_of_cases {begun : App} {urlString : String} {parameters : Parameters}
    (hm : call.method ≠ .EditUserProfileMethod)
    (hsends : ∀ request : HTTPRequest, request.urlString = urlString →
      request.parameters = parameters → call.method.Sends begun.defaults.CustomerID request)
    (h : app' = begun ∨
      (∃ message, completion call ⟨false, .string "", message⟩ begun = some app') ∨
      ∃ request : HTTPRequest, request.urlString = urlString ∧ request.parameters = parameters ∧
        (network P reachability call).alamofire request
          (fun response => responseData response (completion call)) begun = some app') :
    StartOutcome call begun app' := by
  rcases h with rfl | ⟨message, h⟩ | ⟨request, hurl, hparameters, h⟩
  · exact .silent
  -- Refused at once: the closure takes the overlay down and shows a toast
  · obtain ⟨notices, hn, hnotice⟩ := Method.completion_refused hm message
    simp only [completion, hn, Option.map_some, Option.some.injEq,
      performAll_hide_notices hnotice] at h
    exact h ▸ .refused
  · simp only [network, Option.some.injEq] at h
    exact h ▸ .sent request (hsends request hurl hparameters)

/-- The login: its parameters are the number that was entered. -/
theorem LoginApiCalling_outcome {vc : Auth.PhoneNumberVerificationVC}
    (h : app.LoginApiCalling P reachability self vc = some app') :
    StartOutcome
      (app.newCall self (.LoginApiCalling vc.countryCodeLblref vc.mobileNumberTFref))
      (app.begin
        (app.newCall self (.LoginApiCalling vc.countryCodeLblref vc.mobileNumberTFref))) app' := by
  refine startOutcome_of_cases (by simp [newCall]) (fun request hurl hparameters => ⟨hurl, ?_⟩)
    (APIRequest_cases (Or.inl rfl) h)
  rw [hparameters]
  rfl

theorem sendOtpValidation_outcome {vc : Auth.OTPVerificationVC}
    (h : app.sendOtpValidation P reachability self vc = some app') :
    StartOutcome (app.newCall self (.sendOtpValidation vc.CustomerID))
      ((app.noteOTPRequest vc).begin (app.newCall self (.sendOtpValidation vc.CustomerID)))
      app' := by
  refine startOutcome_of_cases (by simp [newCall]) (fun request hurl hparameters => ⟨hurl, ?_⟩)
    (APIRequest_cases (Or.inl rfl) h)
  -- The customer of the screen is a parameter of the request
  rw [hparameters]
  rfl

/-- The resend: its URL ends in the persisted customer. -/
theorem REsendOtpValidation_outcome {vc : Auth.OTPVerificationVC}
    (h : app.REsendOtpValidation P reachability self vc = some app') :
    StartOutcome (app.newCall self .REsendOtpValidation)
      ((app.noteOTPRequest vc).begin (app.newCall self .REsendOtpValidation)) app' :=
  startOutcome_of_cases (by simp [newCall]) (fun _ hurl _ => hurl)
    (APIRequest_cases (Or.inr (Or.inl rfl)) h)

/-- The profile update goes to Alamofire past the request layer. -/
theorem EditUserProfileMethod_outcome {vc : Auth.EditMyProfileVC}
    (h : app.EditUserProfileMethod self vc = some app') :
    StartOutcome (app.newCall self .EditUserProfileMethod)
      (app.begin (app.newCall self .EditUserProfileMethod)) app' := by
  simp only [App.EditUserProfileMethod] at h
  -- Without a persisted customer the overlay is taken down again and nothing is sent
  split at h
  · rw [Option.some.injEq] at h
    exact h ▸ .refused
  · rename_i CustomerID hcustomer
    obtain ⟨request, hrequest, rfl⟩ := Option.map_eq_some_iff.mp h
    obtain ⟨parts, -, rfl⟩ := Option.map_eq_some_iff.mp hrequest
    exact .sent _ ⟨rfl, hcustomer.symm⟩

theorem DeleteProfilepicMthod_outcome
    (h : app.DeleteProfilepicMthod P reachability self = some app') :
    StartOutcome (app.newCall self .DeleteProfilepicMthod)
      (app.begin (app.newCall self .DeleteProfilepicMthod)) app' := by
  simp only [App.DeleteProfilepicMthod] at h
  split at h
  · rw [Option.some.injEq] at h
    exact h ▸ .refused
  · rename_i CustomerID hcustomer
    refine startOutcome_of_cases (by simp [newCall]) (fun request hurl hparameters => ⟨hurl, ?_⟩)
      (MultipartFunction.call_cases h)
    rw [hparameters]
    exact hcustomer.symm

/-! ## The response of a call -/

/-- All methods but the profile update have `responseData` handle their response. -/
theorem handler_eq_responseData {response : AFDataResponse}
    (hm : call.method ≠ .EditUserProfileMethod) :
    handler P call response app = responseData response (completion call) app := by
  unfold handler
  split
  · rename_i hmethod
    exact absurd hmethod hm
  · rfl

/-- The response handler of a call that does not wait any longer carries the effects of the
response out. -/
theorem handler_eq {response : AFDataResponse} (hs : app.settle call.bar = app) :
    handler P call response app = (call.method.effects P response).map (app.performAll call) := by
  by_cases hm : call.method = .EditUserProfileMethod
  · simp only [handler, Method.effects, hm]
  · rw [handler_eq_responseData hm, responseData_eq]
    -- A dropped response runs no closure, so it has no effects
    cases ha : answerOf response with
    | none =>
      rw [Method.effects_dropped hm ha]
      rfl
    | some answer =>
      rw [Method.effects_answered hm ha]
      simp only [completion, hs]

@[simp] theorem noteVerification_calls {response : AFDataResponse} :
    (app.noteVerification call response).calls = app.calls := by
  unfold noteVerification
  split <;> rfl

@[simp] theorem noteVerification_windows {response : AFDataResponse} :
    (app.noteVerification call response).windows = app.windows := by
  unfold noteVerification
  split <;> rfl

@[simp] theorem noteVerification_nextId {response : AFDataResponse} :
    (app.noteVerification call response).nextId = app.nextId := by
  unfold noteVerification
  split <;> rfl

@[simp] theorem noteVerification_root {response : AFDataResponse} :
    (app.noteVerification call response).root = app.root := by
  unfold noteVerification
  split <;> rfl

@[simp] theorem noteVerification_defaults {response : AFDataResponse} :
    (app.noteVerification call response).defaults = app.defaults := by
  unfold noteVerification
  split <;> rfl

@[simp] theorem noteVerification_otpRequests {response : AFDataResponse} :
    (app.noteVerification call response).otpRequests = app.otpRequests := by
  unfold noteVerification
  split <;> rfl

/-- Noting a verification makes no call wait again. -/
theorem settle_noteVerification {response : AFDataResponse} (bar : Nat) :
    ((app.settle bar).noteVerification call response).settle bar =
      (app.settle bar).noteVerification call response := by
  unfold noteVerification
  split <;> simp only [settle, List.filter_filter, Bool.and_self]

/-- A response that verifies a code is noted down. -/
theorem noteVerification_verified {response : AFDataResponse} {customer_id : String}
    {json : Dictionary} (hm : call.method = .sendOtpValidation customer_id)
    (ha : Accepted response json) (h200 : (RegisterModel.map json).status = 200) :
    (app.noteVerification call response).verifications =
      ⟨customer_id, RegisterModel.map json⟩ :: app.verifications := by
  -- The answer is accepted with status 200, which is when the closure pushes the profile screen
  have hverified : Auth.sendOtpValidation.verified ⟨true, .object json, ""⟩ =
      some (RegisterModel.map json) :=
    Auth.sendOtpValidation.verified_eq_some.mpr ⟨json, ⟨rfl, rfl, h200⟩, rfl⟩
  simp only [noteVerification, hm, answerOf_ok ha.1 ha.2, Option.bind_some, hverified]

/-- What was noted down stays. -/
theorem mem_noteVerification {response : AFDataResponse} {v : Verification}
    (hv : v ∈ app.verifications) : v ∈ (app.noteVerification call response).verifications := by
  unfold noteVerification
  split
  · exact List.mem_cons_of_mem _ hv
  · exact hv

/-- The response answers the call with status 200, and the call is the verification of a
customer. -/
structure Verifies (call : Call) (response : AFDataResponse) (v : Verification) : Prop where
  method : call.method = .sendOtpValidation v.customer_id
  answered : ∃ json, Accepted response json ∧ (RegisterModel.map json).status = 200 ∧
    v.answer = RegisterModel.map json

/-- Nothing else is noted down. -/
theorem mem_noteVerification_cases {response : AFDataResponse} {v : Verification}
    (hv : v ∈ (app.noteVerification call response).verifications) :
    v ∈ app.verifications ∨ Verifies call response v := by
  unfold noteVerification at hv
  split at hv
  case h_1 customer_id answer hm hanswer =>
    obtain ⟨given, hgiven, hverified⟩ := Option.bind_eq_some_iff.mp hanswer
    obtain ⟨json, ⟨hs, hobject, h200⟩, rfl⟩ :=
      Auth.sendOtpValidation.verified_eq_some.mp hverified
    rcases List.mem_cons.mp hv with rfl | hv
    · exact Or.inr ⟨hm, json, (accepted_iff hgiven).mpr ⟨hs, hobject⟩, h200, rfl⟩
    · exact Or.inl hv
  case h_2 => exact Or.inl hv

/-- The state in which the effects of a response are carried out: the call does not wait any
longer, and a verification that succeeded is noted down. -/
structure Settled (call : Call) (response : AFDataResponse) (app settled : App) : Prop where
  root : settled.root = app.root
  defaults : settled.defaults = app.defaults
  windows : settled.windows = app.windows
  nextId : settled.nextId = app.nextId
  otpRequests : settled.otpRequests = app.otpRequests
  calls : settled.calls = (app.settle call.bar).calls
  kept : ∀ v ∈ app.verifications, v ∈ settled.verifications
  verified : ∀ customer_id json, call.method = .sendOtpValidation customer_id →
    Accepted response json → (RegisterModel.map json).status = 200 →
      ⟨customer_id, RegisterModel.map json⟩ ∈ settled.verifications
  noted : ∀ v ∈ settled.verifications, v ∈ app.verifications ∨ Verifies call response v

/-- This is the state in which the closure of a call runs. -/
theorem settled_noteVerification {response : AFDataResponse} :
    Settled call response app ((app.settle call.bar).noteVerification call response) where
  root := noteVerification_root
  defaults := noteVerification_defaults
  windows := noteVerification_windows
  nextId := noteVerification_nextId
  otpRequests := noteVerification_otpRequests
  calls := noteVerification_calls
  kept := fun _ (hv : _ ∈ (app.settle call.bar).verifications) => mem_noteVerification hv
  verified := fun _ _ hm ha h200 => by
    rw [noteVerification_verified hm ha h200]
    exact List.mem_cons_self
  noted := fun v hv => by
    have hcases : v ∈ (app.settle call.bar).verifications ∨ Verifies call response v :=
      mem_noteVerification_cases hv
    exact hcases

/-- What a response does: nothing without a call that it answers, else the effects of the
response, in a state in which the call does not wait any longer. -/
theorem respond_cases {bar : Nat} {response : AFDataResponse}
    (h : app.respond P bar response = some app') :
    ((∀ call ∈ app.calls, call.bar = bar → call.request = none) ∧ app' = app) ∨
    ∃ call ∈ app.calls, call.bar = bar ∧ call.request.isSome = true ∧
      ∃ settled, Settled call response app settled ∧
        ∃ effects, call.method.effects P response = some effects ∧
          app' = settled.performAll call effects := by
  unfold respond at h
  split at h
  · rename_i call hfind
    -- The call that is found still waits and was given a request
    have hcall := List.find?_some hfind
    simp only [Bool.and_eq_true, decide_eq_true_eq] at hcall
    obtain ⟨hbar, hrequest⟩ := hcall
    rw [← hbar, handler_eq (settle_noteVerification call.bar)] at h
    obtain ⟨effects, heffects, rfl⟩ := Option.map_eq_some_iff.mp h
    exact Or.inr ⟨call, List.mem_of_find?_eq_some hfind, hbar, hrequest, _,
      settled_noteVerification, effects, heffects, rfl⟩
  · rename_i hnone
    rw [Option.some.injEq] at h
    refine Or.inl ⟨fun call hcall hbar => ?_, h.symm⟩
    have hno := List.find?_eq_none.mp hnone call hcall
    simpa [hbar] using hno

end App

end ThorChat.SignIn
