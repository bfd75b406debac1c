import ThorChat.SignIn.Flow

/-!
# What Responses Do to the Flow

`response_outcome` is the inversion lemma for the response of a call: it logs somebody in, or
verifies a code, or installs the dashboard, or moves nothing in the flow.
-/

namespace ThorChat.SignIn

open ThorChat.Auth
open ThorChat.Models
open ThorChat.Runtime
open ThorChat.Sources
open ThorChat.SupportFrameWorks

/-- The effect concerns one screen and the overlay of the call only. -/
def isLocal : Effect → Bool
  | .hide => true
  | .initializeUI => true
  | .setSessionTimer _ => true
  | .hideResendbtnref => true
  | .start => true
  | .makeToast _ => true
  | .ShowAlert _ => true
  | _ => false

/-- A notice is shown over the screens and changes none of them. -/
theorem isLocal_of_isNotice {e : Effect} (h : e.isNotice = true) : isLocal e = true := by
  cases e <;> simp_all [Effect.isNotice, isLocal]

namespace App

variable {P : Platform} {app app' : App} {call : Call} {effects : List Effect} {bar : Nat}

/-! ## Local effects -/

/-- The flow has not moved: only screens were changed, and overlays of this `bar` removed. -/
structure Unmoved (bar : Nat) (app app' : App) : Prop where
  identities : app'.identities = app.identities
  dashboard : app'.root = .DashBoardTabVC ↔ app.root = .DashBoardTabVC
  defaults : app'.defaults = app.defaults
  calls : app'.calls = app.calls
  nextId : app'.nextId = app.nextId
  verifications : app'.verifications = app.verifications
  otpRequests : app'.otpRequests = app.otpRequests
  keyWindow : app'.windows.keyWindow = app.windows.keyWindow
  overlays : ∀ o ∈ app.windows.overlays, o.bar ≠ bar → o ∈ app'.windows.overlays

theorem Unmoved.refl (bar : Nat) (app : App) : Unmoved bar app app :=
  ⟨rfl, Iff.rfl, rfl, rfl, rfl, rfl, rfl, rfl, fun _ ho _ => ho⟩

/-- Local effects follow each other. -/
theorem Unmoved.trans {app₁ app₂ app₃ : App} (h₁ : Unmoved bar app₁ app₂)
    (h₂ : Unmoved bar app₂ app₃) : Unmoved bar app₁ app₃ where
  identities := h₂.identities.trans h₁.identities
  dashboard := h₂.dashboard.trans h₁.dashboard
  defaults := h₂.defaults.trans h₁.defaults
  calls := h₂.calls.trans h₁.calls
  nextId := h₂.nextId.trans h₁.nextId
  verifications := h₂.verifications.trans h₁.verifications
  otpRequests := h₂.otpRequests.trans h₁.otpRequests
  keyWindow := h₂.keyWindow.trans h₁.keyWindow
  overlays := fun o ho hne => h₂.overlays o (h₁.overlays o ho hne) hne

/-- A change of the screens alone removes no overlay. -/
theorem SameFlow.unmoved (h : SameFlow app app') (bar : Nat) : Unmoved bar app app' where
  identities := h.identities
  dashboard := h.dashboard
  defaults := h.defaults
  calls := h.calls
  nextId := h.nextId
  verifications := h.verifications
  otpRequests := h.otpRequests
  keyWindow := by rw [h.windows]
  overlays := fun o ho _ => by rwa [h.windows]

/-- What a closure does to a one-time-code screen does not change whom it verifies. -/
theorem update_perform_sameFlow (self : Nat) (e : Effect) :
    SameFlow app (app.update self fun
      | .OTPVerificationVC vc => .OTPVerificationVC (vc.perform e)
      | screen => screen) := by
  apply update_sameFlow
  intro screen
  cases screen with
  | OTPVerificationVC vc =>
    simp only [Screen.identity, Auth.OTPVerificationVC.perform_CustomerID]
  | _ => rfl

/-- A local effect moves nothing in the flow. -/
theorem perform_unmoved {e : Effect} (h : isLocal e = true) :
    Unmoved call.bar app (app.perform call e) := by
  -- The effects of the one-time-code screen go to the screen that started the call
  cases e with
  | hide =>
    exact ⟨rfl, Iff.rfl, rfl, rfl, rfl, rfl, rfl, rfl,
      fun o ho hne => Windows.mem_hide.mpr ⟨ho, hne⟩⟩
  | makeToast message => exact Unmoved.refl call.bar app
  | ShowAlert message => exact Unmoved.refl call.bar app
  | initializeUI => exact (update_perform_sameFlow call.self _).unmoved call.bar
  | setSessionTimer value => exact (update_perform_sameFlow call.self _).unmoved call.bar
  | hideResendbtnref => exact (update_perform_sameFlow call.self _).unmoved call.bar
  | start => exact (update_perform_sameFlow call.self _).unmoved call.bar
  | _ => exact absurd h (by simp [isLocal])

theorem perform_hide_unmoved (app : App) (call : Call) :
    Unmoved call.bar app (app.perform call .hide) :=
  perform_unmoved rfl

/-- Nor do several local effects, one after another. -/
theorem performAll_unmoved (h : ∀ e ∈ effects, isLocal e = true) :
    Unmoved call.bar app (app.performAll call effects) := by
  -- On the effects; each state is the settled one for the rest
  induction effects generalizing app with
  | nil => exact Unmoved.refl call.bar app
  | cons e rest ih =>
    rw [performAll_cons]
    exact (perform_unmoved (h e (by simp))).trans
      (ih fun e he => h e (List.mem_cons_of_mem _ he))

/-- The way a failed request is shown: its overlay goes and a notice comes. -/
theorem performAll_notices_unmoved {notices : List Effect}
    (h : ∀ e ∈ notices, e.isNotice = true) :
    Unmoved call.bar app (app.performAll call (.hide :: notices)) := by
  rw [performAll_hide_notices h]
  exact perform_hide_unmoved app call

/-! ## The inversion lemma -/

/-- What the response of a call does in a state in which the call waits no longer. -/
inductive ResponseOutcome (call : Call) (response : AFDataResponse) (settled : App) :
    App → Prop where
  | unmoved {app' : App} : Unmoved call.bar settled app' →
      ResponseOutcome call response settled app'
  | loggedIn {countryCode mobileNumber : String} {json : Dictionary} :
      call.method = .LoginApiCalling countryCode mobileNumber →
      Accepted response json → (LoginModel.map json).status = 200 →
      ResponseOutcome call response settled (settled.performAll call
        [.set (.Mobilenumber (countryCode ++ mobileNumber)),
          .set (.CustomerID (LoginModel.map json).customer_id),
          .pushOTPVerificationVC (countryCode ++ " " ++ mobileNumber)
            (LoginModel.map json).customer_id,
          .hide])
  | verified {customer_id : String} {json : Dictionary} :
      call.method = .sendOtpValidation customer_id →
      Accepted response json → (RegisterModel.map json).status = 200 →
      ResponseOutcome call response settled (settled.performAll call
        [.hide,
          .set (.auth_key (RegisterModel.map json).auth_key),
          .set (.client_service (RegisterModel.map json).client_service),
          .set (.Str_Global_IsUserLogIned true),
          .pushEditMyProfileVC])
  | installed {effects : List Effect} :
      call.method = .EditUserProfileMethod ∨ call.method = .DeleteProfilepicMthod →
      effects = [.hide, .installDashBoardTabVC] ∨ effects = [.installDashBoardTabVC, .hide] →
      ResponseOutcome call response settled (settled.performAll call effects)

/-- The inversion lemma for responses: whatever the closure of a call does, it is one of the four
outcomes. -/
theorem response_outcome {response : AFDataResponse}
    (h : call.method.effects P response = some effects) (settled : App) :
    ResponseOutcome call response settled (settled.performAll call effects) := by
  -- The profile update reads the response itself, the others go through `responseData`
  by_cases hedit : call.method = .EditUserProfileMethod
  · rw [hedit] at h
    -- Status 200 installs the dashboard, another status is shown, and without data nothing happens
    rcases Auth.EditUserProfileMethod.handler_cases h with ⟨-, rfl⟩ | ⟨-, -, notices, rfl, hn⟩ |
        ⟨-, -, rfl⟩
    · exact .installed (Or.inl hedit) (Or.inl rfl)
    · exact .unmoved (performAll_notices_unmoved hn)
    · exact .unmoved (Unmoved.refl call.bar settled)
  -- A response without a usable answer is dropped by `responseData`, with no completion called
  cases ha : answerOf response with
  | none =>
    rw [Method.effects_dropped hedit ha, Option.some.injEq] at h
    exact h ▸ .unmoved (Unmoved.refl call.bar settled)
  | some answer =>
    rw [Method.effects_answered hedit ha] at h
    -- Each method answers in its own way, and only a resend never moves the flow
    cases hm : call.method with
    | EditUserProfileMethod => exact absurd hm hedit
    | LoginApiCalling countryCode mobileNumber =>
      rw [hm] at h
      rcases Auth.LoginApiCalling.completion_cases h with ⟨json, ⟨hs, ho, h200⟩, rfl⟩ |
          ⟨-, notices, rfl, hn⟩ | ⟨json, -, -, -, rfl⟩
      · exact .loggedIn hm ((accepted_iff ha).mpr ⟨hs, ho⟩) h200
      · exact .unmoved (performAll_notices_unmoved hn)
      · exact .unmoved (Unmoved.refl call.bar settled)
    | sendOtpValidation customer_id =>
      rw [hm] at h
      rcases Auth.sendOtpValidation.completion_cases h with ⟨json, ⟨hs, ho, h200⟩, rfl⟩ |
          ⟨-, rest, rfl, hrest⟩
      · exact .verified hm ((accepted_iff ha).mpr ⟨hs, ho⟩) h200
      -- Rejected: the fields are set up anew and notices are shown
      · refine .unmoved (performAll_unmoved fun e he => ?_)
        rcases List.mem_cons.mp he with rfl | he
        · rfl
        · rcases hrest e he with rfl | rfl | hn
          · rfl
          · rfl
          · exact isLocal_of_isNotice hn
    | REsendOtpValidation =>
      rw [hm] at h
      rcases Auth.REsendOtpValidation.completion_cases h with ⟨-, rfl⟩ | ⟨-, notices, rfl, hn⟩
      · exact .unmoved (performAll_unmoved (by simp [isLocal]))
      · exact .unmoved (performAll_notices_unmoved hn)
    -- This completion installs the dashboard first and hides the overlay then
    | DeleteProfilepicMthod =>
      rw [hm] at h
      rcases Auth.DeleteProfilepicMthod.completion_cases h with ⟨-, -, rfl⟩ |
          ⟨-, -, -, hkind⟩ | ⟨-, -, rfl⟩
      · exact .installed (Or.inr hm) (Or.inr rfl)
      · refine .unmoved (performAll_unmoved fun e he => ?_)
        rcases hkind e he with rfl | hn
        · rfl
        · exact isLocal_of_isNotice hn
      · exact .unmoved (Unmoved.refl call.bar settled)

/-- Ending a call moves no screen. -/
theorem Settled.identities {settled : App} {response : AFDataResponse}
    (h : Settled call response app settled) : settled.identities = app.identities := by
  simp only [App.identities, viewControllers, h.root]

/-- What a response does to the flow: nothing without a call that it answers. -/
theorem respond_outcome {response : AFDataResponse}
    (h : app.respond P bar response = some app') :
    app' = app ∨ ∃ call ∈ app.calls, ∃ settled, Settled call response app settled ∧
      ResponseOutcome call response settled app' := by
  rcases respond_cases h with ⟨-, rfl⟩ |
    ⟨call, hcall, -, -, settled, hs, effects, heffects, rfl⟩
  · exact Or.inl rfl
  · exact Or.inr ⟨call, hcall, settled, hs, response_outcome heffects settled⟩

end App

end ThorChat.SignIn
