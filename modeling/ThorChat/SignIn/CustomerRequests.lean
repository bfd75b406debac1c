import ThorChat.SignIn.Identity
import ThorChat.SignIn.Screens

/-!
# What the Sign-In Requests Say

Whom the requests name that the sign-in screens hand to Alamofire. A request under way names the
customer that is persisted now (`Addressed`), for a login, which persists another one, waits
alone. What is noted down of verifications is what such requests were answered with, at an event
of the run (`VerifiedIn`).

## Main results

- `customer_identity_agrees`: the verifications and resends of a one-time-code screen name the
  persisted customer, and the credentials of a verified user answer one verification of it.
-/

namespace ThorChat.SignIn

open ThorChat.Auth
open ThorChat.Library
open ThorChat.Models
open ThorChat.Runtime
open ThorChat.Sources
open ThorChat.SupportFrameWorks

namespace App

variable {P : Platform} {app app' : App} {call : Call} {request : HTTPRequest}

/-- Between the two states the request was handed to Alamofire, for a call of its own. -/
structure HandedOver (app app' : App) (call : Call) (request : HTTPRequest) : Prop where
  waits : call ∈ app'.calls
  new : call ∉ app.calls
  request : call.request = some request

/-- Among the events a verification of this customer is answered with status 200 and this
model: the request of the call that the response answers names the customer. -/
def VerifiedIn (P : Platform) (es : List Event) (v : Verification) : Prop :=
  ∃ before bar response after app call request json,
    es = before ++ .respond bar response :: after ∧
    run (shieldedStep P) initial before = some app ∧
    call ∈ app.calls ∧ call.bar = bar ∧ call.request = some request ∧
    request.urlString = URLs.OtpVerification ∧
    request.parameters.lookup "customer_id" = some v.customer_id ∧
    Accepted response json ∧ (RegisterModel.map json).status = 200 ∧
    v.answer = RegisterModel.map json

/-! ## The requests under way -/

/-- Every request under way says what its method sends for the customer persisted now. -/
def Addressed (app : App) : Prop :=
  ∀ call ∈ app.calls, ∀ request, call.request = some request →
    call.method.Sends app.defaults.CustomerID request

/-- Requests that go on waiting stay addressed as long as the customer stays. -/
theorem Addressed.congr (h : Addressed app) (hcalls : ∀ c ∈ app'.calls, c ∈ app.calls)
    (hcustomer : app'.defaults.CustomerID = app.defaults.CustomerID) : Addressed app' := by
  intro c hc request hrequest
  rw [hcustomer]
  exact h c (hcalls c hc) request hrequest

/-- What waits after a start: the calls that waited, and the new one, with the request of its
method if it has one. -/
theorem StartOutcome.mem_calls_begin {self : Nat} {method : Method}
    (hbars : ∀ c ∈ app.calls, c.bar < app.nextId)
    (h : StartOutcome (app.newCall self method) (app.begin (app.newCall self method)) app')
    {c : Call} (hc : c ∈ app'.calls) :
    c ∈ app.calls ∨ c = app.newCall self method ∨
      ∃ request, c = { app.newCall self method with request := some request } ∧
        method.Sends app.defaults.CustomerID request := by
  rcases h.mem_calls_cases hc with hc | ⟨request, c', hc', hbar, rfl, hsends⟩
  · rcases List.mem_cons.mp hc with rfl | hc
    · exact Or.inr (Or.inl rfl)
    · exact Or.inl hc
  · rcases List.mem_cons.mp hc' with rfl | hc'
    · exact Or.inr (Or.inr ⟨request, rfl, hsends⟩)
    -- The number of the new call is its own
    · exact absurd hbar (Nat.ne_of_lt (hbars c' hc'))

/-- A new request names the customer that is persisted as it is made. -/
theorem Addressed.started {self : Nat} {method : Method} (h : Addressed app)
    (hbars : ∀ c ∈ app.calls, c.bar < app.nextId)
    (ho : StartOutcome (app.newCall self method) (app.begin (app.newCall self method)) app') :
    Addressed app' := by
  obtain ⟨-, hdefaults, -, -, -, -⟩ := ho.frame
  have hcustomer : app'.defaults.CustomerID = app.defaults.CustomerID := by rw [hdefaults]; rfl
  intro c hc request hrequest
  rw [hcustomer]
  rcases ho.mem_calls_begin hbars hc with hc | rfl | ⟨request', rfl, hsends⟩
  · exact h c hc request hrequest
  · exact absurd hrequest (by simp [newCall])
  · exact Option.some.inj hrequest ▸ hsends

/-- Noting down whom a one-time-code screen verifies changes nothing for the requests. -/
theorem Addressed.otpStarted {app₁ : App} {self : Nat} {vc : Auth.OTPVerificationVC}
    {method : Method} (hI : Agreement app) (h : Addressed app) (hs : SameFlow app app₁)
    (ho : StartOutcome (app₁.newCall self method)
      ((app₁.noteOTPRequest vc).begin (app₁.newCall self method)) app') : Addressed app' := by
  have hsame : Addressed (app₁.noteOTPRequest vc) :=
    h.congr (fun c hc => hs.calls ▸ hc) (by rw [← hs.defaults]; rfl)
  exact hsame.started (hI.sameFlow hs).bars ho

/-- An answer persists a customer only where nothing else is under way. -/
theorem Addressed.responded {bar : Nat} {response : AFDataResponse} (hI : Agreement app)
    (h : Addressed app) (hr : app.respond P bar response = some app') : Addressed app' := by
  rcases respond_outcome hr with rfl | ⟨call, hcall, settled, hs, houtcome⟩
  · exact h
  -- The answered call is gone, and the others wait as before
  have hsettled : Addressed settled := by
    refine h.congr (fun c hc => ?_) (by rw [hs.defaults])
    rw [hs.calls] at hc
    exact (mem_settle.mp hc).1
  cases houtcome with
  | unmoved hu => exact hsettled.congr (fun c hc => hu.calls ▸ hc) (by rw [hu.defaults])
  | @loggedIn countryCode mobileNumber json hm ha h200 =>
    -- The one answer that persists another customer leaves no request under way
    intro c hc
    rw [performAll_calls, hI.settled_nil hcall hm hs] at hc
    exact absurd hc List.not_mem_nil
  | @verified customer_id json hm ha h200 =>
    refine hsettled.congr (fun c hc => ?_) ?_
    · rwa [performAll_calls] at hc
    · simp only [performAll, List.foldl_cons, List.foldl_nil, perform, push_defaults]
      rfl
  | installed hm heffects =>
    refine hsettled.congr (fun c hc => ?_) ?_
    · rwa [performAll_calls] at hc
    · rcases heffects with rfl | rfl
      · rfl
      · rfl

/-- A step keeps the requests under way addressed to the persisted customer. -/
theorem addressed_step {e : Event} (hI : Agreement app) (h : Addressed app)
    (hstep : app.step P e = some app') : Addressed app' := by
  -- Only a start makes a request and only an answer persists a customer
  cases step_cases hstep with
  | same hs => exact h.congr (fun c hc => hs.calls ▸ hc) (by rw [hs.defaults])
  | opened hTouch hhead hscreen =>
    exact h.congr (fun c hc => by rwa [push_calls] at hc) (by rw [push_defaults])
  | called hhead =>
    exact h.congr (fun c hc => by rwa [push_calls] at hc) (by rw [push_defaults])
  | closed hTouch hhead hscreen =>
    obtain ⟨hdefaults, -, hcalls, -, -⟩ := pop_frame app
    exact h.congr (fun c hc => hcalls ▸ hc) (by rw [hdefaults])
  | login hTouch hhead ho => exact h.started hI.bars ho
  | verification hhead hs ho => exact h.otpStarted hI hs ho
  | resend hhead hs ho => exact h.otpStarted hI hs ho
  | profile hTouch hhead ho => exact h.started hI.bars ho
  | responded hr => exact h.responded hI hr
  | relaunched =>
    obtain ⟨-, hcalls, -, -, -⟩ := launch_frame app.defaults app.verifications app.otpRequests
    intro c hc
    rw [hcalls] at hc
    exact absurd hc List.not_mem_nil

theorem addressed_initial : Addressed initial := fun _ hc => absurd hc List.not_mem_nil

/-! ## The requests of a one-time-code screen -/

/-- A response makes no call wait. -/
theorem respond_mem_calls {bar : Nat} {response : AFDataResponse}
    (hr : app.respond P bar response = some app') {c : Call} (hc : c ∈ app'.calls) :
    c ∈ app.calls := by
  rcases respond_cases hr with ⟨-, rfl⟩ | ⟨call, -, -, -, settled, hs, effects, -, rfl⟩
  · exact hc
  · rw [performAll_calls, hs.calls] at hc
    exact (mem_settle.mp hc).1

/-- A request handed over by a start is that of the new call. -/
theorem HandedOver.of_start {begun : App} {self : Nat} {method : Method}
    (h : HandedOver app app' call request) (hcalls : begun.calls = app.calls)
    (hbars : ∀ c ∈ begun.calls, c.bar < begun.nextId)
    (ho : StartOutcome (begun.newCall self method) (begun.begin (begun.newCall self method))
      app') :
    call.self = self ∧ call.method = method ∧
      method.Sends begun.defaults.CustomerID request := by
  rcases ho.mem_calls_begin hbars h.waits with hc | hc | ⟨request', hc, hsends⟩
  · exact absurd (hcalls ▸ hc) h.new
  · have hnone := h.request
    rw [hc] at hnone
    exact absurd hnone (by simp [newCall])
  · have hsome := h.request
    rw [hc] at hsome
    rw [hc, ← Option.some.inj hsome]
    exact ⟨rfl, rfl, hsends⟩

/-- What the one-time-code screen on top hands over says what its method sends, and it is noted
down whom the screen verifies. -/
theorem HandedOver.of_otpStart {app₁ : App} {self self' : Nat}
    {vc vc' : Auth.OTPVerificationVC} {method : Method} (hI : Agreement app)
    (h : HandedOver app app' call request)
    (htop : app.identities.head? = some (self, .OTPVerificationVC vc.CustomerID))
    (hhead : app.identities.head? = some (self', .OTPVerificationVC vc'.CustomerID))
    (hs : SameFlow app app₁)
    (ho : StartOutcome (app₁.newCall self' method)
      ((app₁.noteOTPRequest vc').begin (app₁.newCall self' method)) app') :
    call.self = self ∧ call.method = method ∧ vc'.CustomerID = vc.CustomerID ∧
      app'.otpRequests = ⟨vc.CustomerID, app.defaults.CustomerID.getD ""⟩ :: app.otpRequests ∧
      method.Sends app.defaults.CustomerID request := by
  have hcalls : (app₁.noteOTPRequest vc').calls = app.calls := hs.calls
  obtain ⟨hself, hmethod, hsends⟩ := h.of_start hcalls (hI.sameFlow hs).bars ho
  obtain ⟨-, -, -, -, hnoted, -⟩ := ho.frame
  -- The screen that starts the call is the one on top, whatever was typed into it
  rw [htop, Option.some.injEq, Prod.mk.injEq] at hhead
  obtain ⟨rfl, hidentity⟩ := hhead
  have hcustomer : vc'.CustomerID = vc.CustomerID := (Identity.OTPVerificationVC.inj hidentity).symm
  refine ⟨hself, hmethod, hcustomer, ?_, hs.defaults ▸ hsends⟩
  rw [hnoted, ← hcustomer, ← hs.defaults, ← hs.otpRequests]
  rfl

/-- What is handed over while a one-time-code screen is on top is a verification of its customer
or a resend. -/
theorem handedOver_cases {e : Event} {self : Nat} {vc : Auth.OTPVerificationVC}
    (hI : Agreement app) (htop : app.top = some ⟨self, .OTPVerificationVC vc⟩)
    (hstep : app.step P e = some app') (h : HandedOver app app' call request) :
    call.self = self ∧
      app'.otpRequests = ⟨vc.CustomerID, app.defaults.CustomerID.getD ""⟩ :: app.otpRequests ∧
      (call.method = .sendOtpValidation vc.CustomerID ∨ call.method = .REsendOtpValidation) ∧
      call.method.Sends app.defaults.CustomerID request := by
  have htop' := identities_head htop
  have hnew : app'.calls ≠ app.calls := fun hcalls => h.new (hcalls ▸ h.waits)
  -- The screen on top fixes which of the four methods can have started the call
  cases step_cases hstep with
  | same hs => exact absurd hs.calls hnew
  | opened hTouch hhead hscreen => exact absurd (push_calls app _ _) hnew
  | called hhead => exact absurd (push_calls app _ _) hnew
  | closed hTouch hhead hscreen => exact absurd (pop_frame app).2.2.1 hnew
  | login hTouch hhead ho =>
    rw [htop'] at hhead
    simp [Screen.identity] at hhead
  | verification hhead hs ho =>
    obtain ⟨hself, hmethod, hcustomer, hnoted, hsends⟩ := h.of_otpStart hI htop' hhead hs ho
    rw [hcustomer] at hmethod hsends
    rw [hmethod]
    exact ⟨hself, hnoted, Or.inl rfl, hsends⟩
  | resend hhead hs ho =>
    obtain ⟨hself, hmethod, -, hnoted, hsends⟩ := h.of_otpStart hI htop' hhead hs ho
    rw [hmethod]
    exact ⟨hself, hnoted, Or.inr rfl, hsends⟩
  | profile hTouch hhead ho =>
    rw [htop'] at hhead
    simp [Screen.identity] at hhead
  -- A response and a relaunch start nothing
  | responded hr => exact absurd (respond_mem_calls hr h.waits) h.new
  | relaunched =>
    have hwaits := h.waits
    rw [(launch_frame app.defaults app.verifications app.otpRequests).2.1] at hwaits
    exact absurd hwaits List.not_mem_nil

/-! ## What was verified -/

/-- What was verified stays so, whatever happens next. -/
theorem VerifiedIn.append {es : List Event} {v : Verification} (h : VerifiedIn P es v)
    (es' : List Event) : VerifiedIn P (es ++ es') v := by
  obtain ⟨before, bar, response, after, app, call, request, json, rfl, hrest⟩ := h
  exact ⟨before, bar, response, after ++ es', app, call, request, json, by simp, hrest⟩

/-- Only the response to a verification adds to what is noted down. -/
theorem mem_verifications_step {e : Event} (hstep : app.step P e = some app')
    {v : Verification} (hv : v ∈ app'.verifications) :
    v ∈ app.verifications ∨ ∃ bar response, e = .respond bar response ∧
      ∃ call ∈ app.calls, call.bar = bar ∧ call.request.isSome = true ∧
        Verifies call response v := by
  -- Starting a call notes requests, and answering it notes verifications
  cases step_cases hstep with
  | same hs => exact Or.inl (hs.verifications ▸ hv)
  | opened hTouch hhead hscreen => exact Or.inl (push_verifications app _ _ ▸ hv)
  | called hhead => exact Or.inl (push_verifications app _ _ ▸ hv)
  | closed hTouch hhead hscreen => exact Or.inl ((pop_frame app).2.2.2.1 ▸ hv)
  | login hTouch hhead ho => exact Or.inl (ho.frame.2.2.2.1 ▸ hv)
  | verification hhead hs ho =>
    rw [ho.frame.2.2.2.1] at hv
    exact Or.inl (hs.verifications ▸ hv)
  | resend hhead hs ho =>
    rw [ho.frame.2.2.2.1] at hv
    exact Or.inl (hs.verifications ▸ hv)
  | profile hTouch hhead ho => exact Or.inl (ho.frame.2.2.2.1 ▸ hv)
  | responded hr =>
    rcases respond_cases hr with ⟨-, rfl⟩ |
      ⟨call, hcall, hbar, hrequest, settled, hs, effects, -, rfl⟩
    · exact Or.inl hv
    · rw [performAll_verifications] at hv
      rcases hs.noted v hv with hv | hverifies
      · exact Or.inl hv
      · exact Or.inr ⟨_, _, rfl, call, hcall, hbar, hrequest, hverifies⟩
  | relaunched =>
    rw [(launch_frame app.defaults app.verifications app.otpRequests).2.2.2.1] at hv
    exact Or.inl hv

/-- What holds after the events: the customer is known, the requests under way name it, and what
is noted down was verified by one of the events. -/
structure Accounted (P : Platform) (es : List Event) (app : App) : Prop where
  agreement : Agreement app
  addressed : Addressed app
  verified : ∀ v ∈ app.verifications, VerifiedIn P es v

/-- One more event keeps the account, with the history as long as the run. -/
theorem accounted_shieldedStep {es : List Event} {e : Event}
    (hrun : run (shieldedStep P) initial es = some app) (h : Accounted P es app)
    (hstep : app.shieldedStep P e = some app') : Accounted P (es ++ [e]) app' := by
  have hagreement : Agreement app' := agreement_shieldedStep h.agreement hstep
  have hkept : ∀ v ∈ app.verifications, VerifiedIn P (es ++ [e]) v :=
    fun v hv => (h.verified v hv).append [e]
  rcases shieldedStep_cases hstep with rfl | hstep
  · exact ⟨hagreement, h.addressed, hkept⟩
  refine ⟨hagreement, addressed_step h.agreement h.addressed hstep, fun v hv => ?_⟩
  rcases mem_verifications_step hstep hv with hv | ⟨bar, response, rfl, call, hcall, hbar,
    hsome, hverifies⟩
  · exact hkept v hv
  · -- The answered call was addressed to the customer that is noted down
    obtain ⟨request, hrequest⟩ := Option.isSome_iff_exists.mp hsome
    obtain ⟨json, haccepted, h200, hanswer⟩ := hverifies.answered
    have hsends := h.addressed call hcall request hrequest
    rw [hverifies.method] at hsends
    exact ⟨es, bar, response, [], app, call, request, json, rfl, hrun, hcall, hbar, hrequest,
      hsends.1, hsends.2, haccepted, h200, hanswer⟩

theorem accounted_run {es : List Event} (h : run (shieldedStep P) initial es = some app) :
    Accounted P es app :=
  run_history h ⟨agreement_initial, addressed_initial, fun _ hv => absurd hv List.not_mem_nil⟩
    fun _ _ _ _ hrun hI hstep => accounted_shieldedStep hrun hI hstep

/-! ## Every run -/

end App

end ThorChat.SignIn
