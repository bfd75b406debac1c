import Mathlib.Data.List.Nodup
import ThorChat.Library.Transition
import ThorChat.SignIn.Navigation
import ThorChat.SignIn.Outcomes

/-!
# Overlays and Waiting Calls

Runs that start any number of calls and receive their responses in any order. The overlays on
the key window match the calls that wait exactly as long as every response takes its overlay
down, and none of them replaces the window under another call's overlay.
-/

namespace ThorChat.SignIn

open ThorChat.Auth
open ThorChat.Library
open ThorChat.Models
open ThorChat.Runtime
open ThorChat.Sources
open ThorChat.SupportFrameWorks

/-! ## Which responses take their overlay down -/

/-- The response is one for which the method takes its overlay down. -/
def Method.Handles (response : AFDataResponse) : Method → Prop
  | .LoginApiCalling _ _ => response.statusCode ≠ some 401 ∧
      ∀ json, Accepted response json → (LoginModel.map json).status ∈ listedStatuses
  | .sendOtpValidation _ => response.statusCode ≠ some 401
  | .REsendOtpValidation => response.statusCode ≠ some 401
  | .EditUserProfileMethod => ¬ (response.statusCode = some 200 ∧ response.data = none)
  | .DeleteProfilepicMthod => response.statusCode ≠ some 401 ∧
      ∀ json, Accepted response json →
        ∃ status ∈ listedStatuses, (SavedAddressModel.map json).status = some status

/-- The response is one for which the method installs the dashboard in a new window. -/
def Method.Installs (P : Platform) (response : AFDataResponse) : Method → Prop
  | .EditUserProfileMethod => Auth.EditUserProfileMethod.Updated P response
  | .DeleteProfilepicMthod =>
      ∃ json, Accepted response json ∧ (SavedAddressModel.map json).status = some 200
  | _ => False

/-- A notice installs nothing. -/
theorem notices_effects {notices : List Effect} (h : ∀ e ∈ notices, e.isNotice = true) :
    .installDashBoardTabVC ∉ notices := by
  intro hmem
  exact absurd (h _ hmem) (by simp [Effect.isNotice])

/-- A method that installs the dashboard takes its overlay down. -/
theorem Method.handles_of_installs {P : Platform} {response : AFDataResponse} {method : Method}
    (h : method.Installs P response) : method.Handles response := by
  -- Only two of the methods install the dashboard, and neither forgets its overlay then
  cases method with
  | EditUserProfileMethod =>
    rintro ⟨-, hnone⟩
    obtain ⟨-, data, json, hdata, -⟩ := h
    rw [hdata] at hnone
    exact absurd hnone (by simp)
  | DeleteProfilepicMthod =>
    obtain ⟨json, ⟨hs, hr⟩, h200⟩ := h
    refine ⟨by rw [hs]; decide, ?_⟩
    rintro json' ⟨-, hr'⟩
    rw [hr, AFResult.success.injEq, JSON.object.injEq] at hr'
    exact ⟨200, by simp [listedStatuses], hr' ▸ h200⟩
  | _ => exact absurd h id

section EffectsOfAnswers

variable {P : Platform} {response : AFDataResponse} {answer : Answer} {effects : List Effect}

/-- The two facts about a response that decide what happens to the overlays. -/
def Method.Matches (P : Platform) (response : AFDataResponse) (method : Method)
    (effects : List Effect) : Prop :=
  (method.Handles response ↔ .hide ∈ effects) ∧
    (method.Installs P response ↔ .installDashBoardTabVC ∈ effects)

/-- The login takes its overlay down unless it is answered with a status it does not list. -/
theorem Method.matches_login {countryCode mobileNumber : String}
    (h401 : response.statusCode ≠ some 401) (ha : answerOf response = some answer)
    (hc : Auth.LoginApiCalling.completion countryCode mobileNumber answer = some effects) :
    (Method.LoginApiCalling countryCode mobileNumber).Matches P response effects := by
  simp only [Method.Matches, Method.Handles, Method.Installs, accepted_iff ha, h401, ne_eq,
    not_false_eq_true, true_and, false_iff, and_imp]
  -- Answered 200, answered with another listed status, and answered with one that is not listed
  rcases Auth.LoginApiCalling.completion_cases hc with ⟨json, ⟨hs, ho, h200⟩, rfl⟩ |
      ⟨hlisted, notices, rfl, hn⟩ | ⟨json, hs, ho, hunlisted, rfl⟩
  · refine ⟨iff_of_true (fun json' _ ho' => ?_) (by simp), by simp⟩
    rw [ho, JSON.object.injEq] at ho'
    rw [← ho', h200]
    simp [listedStatuses]
  · refine ⟨iff_of_true (fun json hs ho => (hlisted json hs ho).1) (by simp), ?_⟩
    simpa using notices_effects hn
  · exact ⟨iff_of_false (fun hall => hunlisted (hall json hs ho)) (by simp), by simp⟩

/-- An answer to the verification that is not dropped always takes the overlay down. -/
theorem Method.matches_verification {customer_id : String}
    (h401 : response.statusCode ≠ some 401)
    (hc : Auth.sendOtpValidation.completion answer = some effects) :
    (Method.sendOtpValidation customer_id).Matches P response effects := by
  rcases Auth.sendOtpValidation.completion_cases hc with ⟨json, -, rfl⟩ | ⟨-, rest, rfl, hrest⟩
  · simp [Method.Matches, Method.Handles, Method.Installs, h401]
  · refine ⟨iff_of_true h401 (by simp), iff_of_false id ?_⟩
    intro hmem
    rcases hrest _ (by simpa using hmem) with h | h | h
    · exact absurd h (by simp)
    · exact absurd h (by simp)
    · exact absurd h (by simp [Effect.isNotice])

theorem Method.matches_resend (h401 : response.statusCode ≠ some 401)
    (hc : Auth.REsendOtpValidation.completion answer = some effects) :
    Method.REsendOtpValidation.Matches P response effects := by
  rcases Auth.REsendOtpValidation.completion_cases hc with ⟨-, rfl⟩ | ⟨-, notices, rfl, hn⟩
  · simp [Method.Matches, Method.Handles, Method.Installs, h401]
  · refine ⟨iff_of_true h401 (by simp), iff_of_false id ?_⟩
    simpa using notices_effects hn

/-- The profile update forgets its overlay when it is answered 200 without data. -/
theorem Method.matches_edit
    (hc : Auth.EditUserProfileMethod.handler P response = some effects) :
    Method.EditUserProfileMethod.Matches P response effects := by
  -- Updated, refused with data or another status, and 200 without data
  rcases Auth.EditUserProfileMethod.handler_cases hc with ⟨hu, rfl⟩ |
      ⟨hu, hdata, notices, rfl, hn⟩ | ⟨hs, hd, rfl⟩
  · refine ⟨iff_of_true ?_ (by simp), iff_of_true hu (by simp)⟩
    rintro ⟨-, hnone⟩
    obtain ⟨-, data, json, hdata, -⟩ := hu
    rw [hdata] at hnone
    exact absurd hnone (by simp)
  · refine ⟨iff_of_true hdata (by simp), iff_of_false hu ?_⟩
    simpa using notices_effects hn
  · refine ⟨iff_of_false (fun hno => hno ⟨hs, hd⟩) (by simp), iff_of_false ?_ (by simp)⟩
    rintro ⟨-, data, json, hdata, -⟩
    rw [hd] at hdata
    exact absurd hdata (by simp)

/-- The deletion of a photo forgets its overlay as the login does. -/
theorem Method.matches_delete (h401 : response.statusCode ≠ some 401)
    (ha : answerOf response = some answer)
    (hc : Auth.DeleteProfilepicMthod.completion answer = some effects) :
    Method.DeleteProfilepicMthod.Matches P response effects := by
  have hhandles : Method.DeleteProfilepicMthod.Handles response ↔
      Auth.DeleteProfilepicMthod.Known answer := by
    simp only [Method.Handles, Auth.DeleteProfilepicMthod.Known, accepted_iff ha, h401, ne_eq,
      not_false_eq_true, true_and, and_imp]
  have hinstalls : Method.DeleteProfilepicMthod.Installs P response ↔
      Auth.DeleteProfilepicMthod.Deleted answer := by
    simp only [Method.Installs, Auth.DeleteProfilepicMthod.Deleted, accepted_iff ha, and_assoc,
      exists_and_left]
  rw [Method.Matches, hhandles, hinstalls]
  rcases Auth.DeleteProfilepicMthod.completion_cases hc with ⟨hd, hk, rfl⟩ |
      ⟨hd, hk, hhide, hkind⟩ | ⟨hd, hk, rfl⟩
  · exact ⟨iff_of_true hk (by simp), iff_of_true hd (by simp)⟩
  · refine ⟨iff_of_true hk hhide, iff_of_false hd fun hmem => ?_⟩
    rcases hkind _ hmem with h | h
    · exact absurd h (by simp)
    · exact absurd h (by simp [Effect.isNotice])
  · exact ⟨iff_of_false hk (by simp), iff_of_false hd (by simp)⟩

/-- A dropped response neither takes an overlay down nor installs anything. -/
theorem Method.matches_dropped {method : Method} (hm : method ≠ .EditUserProfileMethod)
    (h401 : response.statusCode = some 401) : method.Matches P response [] := by
  have hnot : ∀ json, ¬ Accepted response json := by
    rintro json ⟨hs, -⟩
    rw [h401] at hs
    exact absurd hs (by decide)
  cases method with
  | EditUserProfileMethod => exact absurd rfl hm
  | _ => simp [Method.Matches, Method.Handles, Method.Installs, h401, hnot]

/-- For every method: what its closure does is what the two conditions say. -/
theorem Method.matches_effects {method : Method}
    (h : method.effects P response = some effects) : method.Matches P response effects := by
  by_cases hm : method = .EditUserProfileMethod
  · subst hm
    exact Method.matches_edit h
  cases ha : answerOf response with
  | none =>
    rw [Method.effects_dropped hm ha, Option.some.injEq] at h
    exact h ▸ Method.matches_dropped hm (answerOf_eq_none_iff.mp ha)
  | some answer =>
    rw [Method.effects_answered hm ha] at h
    have h401 : response.statusCode ≠ some 401 := by
      intro hs
      rw [answerOf_eq_none_iff.mpr hs] at ha
      exact absurd ha (by simp)
    cases method with
    | LoginApiCalling countryCode mobileNumber => exact Method.matches_login h401 ha h
    | sendOtpValidation customer_id => exact Method.matches_verification h401 h
    | REsendOtpValidation => exact Method.matches_resend h401 h
    | EditUserProfileMethod => exact absurd rfl hm
    | DeleteProfilepicMthod => exact Method.matches_delete h401 ha h

end EffectsOfAnswers

namespace App

variable {P : Platform} {app app' : App} {call : Call} {effects : List Effect}

/-! ## What effects do to the windows -/

/-- One effect takes overlays down, and none puts any up. -/
theorem perform_overlays (e : Effect) :
    (app.perform call e).windows.overlays =
      if e = .hide then (app.windows.hide call.bar).overlays else app.windows.overlays := by
  cases e <;> simp [perform, installDashBoardTabVC]

theorem perform_nextId (e : Effect) : app.nextId ≤ (app.perform call e).nextId := by
  cases e with
  | pushOTPVerificationVC mobileNumber CustomerID => exact push_nextId app call.self _
  | pushEditMyProfileVC => exact push_nextId app call.self _
  | installDashBoardTabVC => exact Nat.le_succ _
  | _ => simp [perform]

theorem perform_keyWindow {e : Effect} (h : e ≠ .installDashBoardTabVC) :
    (app.perform call e).windows.keyWindow = app.windows.keyWindow := by
  cases e <;> simp_all [perform]

theorem performAll_nextId (app : App) : app.nextId ≤ (app.performAll call effects).nextId := by
  unfold performAll
  induction effects generalizing app with
  | nil => exact Nat.le_refl _
  | cons e rest ih => exact Nat.le_trans (perform_nextId e) (ih _)

/-- Of the overlays, the effects take down those of the call, if they take any down. -/
theorem performAll_overlays :
    (app.performAll call effects).windows.overlays =
      if .hide ∈ effects then (app.windows.hide call.bar).overlays
      else app.windows.overlays := by
  induction effects generalizing app with
  | nil => simp [performAll]
  | cons e rest ih =>
    rw [performAll_cons, ih]
    -- Taking the same overlays down twice is taking them down once
    by_cases he : e = .hide
    · subst he
      simp [perform]
    · have hmem : Effect.hide ∈ e :: rest ↔ Effect.hide ∈ rest := by
        simp [Ne.symm he]
      simp only [hmem, Windows.hide, perform_overlays, he, if_false]

/-- The key window stays unless the dashboard is installed. -/
theorem performAll_keyWindow (h : .installDashBoardTabVC ∉ effects) :
    (app.performAll call effects).windows.keyWindow = app.windows.keyWindow := by
  induction effects generalizing app with
  | nil => rfl
  | cons e rest ih =>
    rw [List.mem_cons, not_or] at h
    rw [performAll_cons, ih h.2, perform_keyWindow (Ne.symm h.1)]

/-- The dashboard comes with a key window of its own. -/
theorem performAll_installs (app : App) (call : Call) (h : .installDashBoardTabVC ∈ effects) :
    ∃ window, (app.performAll call effects).windows.keyWindow = some window ∧
      app.nextId ≤ window ∧ window < (app.performAll call effects).nextId := by
  induction effects generalizing app with
  | nil => simp at h
  | cons e rest ih =>
    rw [performAll_cons]
    -- The last dashboard installed has the key window that stays
    by_cases hrest : .installDashBoardTabVC ∈ rest
    · obtain ⟨window, hw, hle, hlt⟩ := ih (app.perform call e) hrest
      exact ⟨window, hw, Nat.le_trans (perform_nextId e) hle, hlt⟩
    · have he : e = .installDashBoardTabVC := by
        simpa [hrest, eq_comm] using h
      subst he
      refine ⟨app.nextId, ?_, Nat.le_refl _, ?_⟩
      · rw [performAll_keyWindow hrest]
        rfl
      · exact Nat.lt_of_lt_of_le (Nat.lt_succ_self _)
          (performAll_nextId (app.perform call .installDashBoardTabVC))

/-! ## Runs of calls -/

/-- A method starts a call, or a response is delivered. -/
inductive CallEvent where
  | LoginApiCalling (reachability : Option NetworkReachabilityStatus) (self : Nat)
      (vc : Auth.PhoneNumberVerificationVC)
  | sendOtpValidation (reachability : Option NetworkReachabilityStatus) (self : Nat)
      (vc : Auth.OTPVerificationVC)
  | REsendOtpValidation (reachability : Option NetworkReachabilityStatus) (self : Nat)
      (vc : Auth.OTPVerificationVC)
  | EditUserProfileMethod (self : Nat) (vc : Auth.EditMyProfileVC)
  | DeleteProfilepicMthod (reachability : Option NetworkReachabilityStatus) (self : Nat)
  | respond (bar : Nat) (response : AFDataResponse)

/-- Handle one event. -/
def callStep (P : Platform) (app : App) : CallEvent → Option App
  | .LoginApiCalling reachability self vc => app.LoginApiCalling P reachability self vc
  | .sendOtpValidation reachability self vc => app.sendOtpValidation P reachability self vc
  | .REsendOtpValidation reachability self vc => app.REsendOtpValidation P reachability self vc
  | .EditUserProfileMethod self vc => app.EditUserProfileMethod self vc
  | .DeleteProfilepicMthod reachability self => app.DeleteProfilepicMthod P reachability self
  | .respond bar response => app.respond P bar response

/-- The window shows as many overlays as calls wait. -/
def OverlaysMatch (app : App) : Prop :=
  app.windows.onKeyWindow.length = app.calls.length

instance : Decidable (OverlaysMatch app) := inferInstanceAs (Decidable (_ = _))

/-- A response takes the overlay of its call down, and installs the dashboard only if no other
call waits. -/
def Handled (P : Platform) (app : App) : CallEvent → Prop
  | .respond bar response => ∀ call ∈ app.calls, call.bar = bar → call.request.isSome = true →
      call.method.Handles response ∧ (call.method.Installs P response → app.calls = [call])
  | _ => True

/-! ## The invariant -/

/-- Each waiting call has its overlay, on the key window, and there are no others. -/
structure Matched (app : App) : Prop where
  bars : app.windows.overlays.map (·.bar) = app.calls.map (·.bar)
  nodup : (app.calls.map (·.bar)).Nodup
  onKey : ∀ o ∈ app.windows.overlays, some o.window = app.windows.keyWindow
  keyWindow : ∃ window, app.windows.keyWindow = some window ∧ window < app.nextId
  fresh : ∀ call ∈ app.calls, call.bar < app.nextId

/-- Every overlay lies on the key window, so all of them are counted. -/
theorem Matched.overlaysMatch (h : Matched app) : OverlaysMatch app := by
  have hall : app.windows.onKeyWindow = app.windows.overlays := by
    unfold Windows.onKeyWindow
    exact List.filter_eq_self.mpr fun o ho => by simpa using h.onKey o ho
  have hlength := congrArg List.length h.bars
  simpa [OverlaysMatch, hall] using hlength

theorem matched_launch (defaults : UserDefaults) (verifications : List Verification)
    (otpRequests : List OTPRequest) : Matched (launch defaults verifications otpRequests) := by
  simp only [launch]
  split
  · exact ⟨rfl, List.nodup_nil, by simp [installDashBoardTabVC], ⟨2, rfl, Nat.lt_succ_self 2⟩,
      by simp [installDashBoardTabVC]⟩
  · refine ⟨rfl, List.nodup_nil, ?_, ⟨0, rfl, ?_⟩, ?_⟩
    · simp [push, viewControllers]
    · simp [push, viewControllers]
    · simp [push, viewControllers]

/-- An overlay has the number of a call that waits. -/
theorem Matched.fresh_overlay (h : Matched app) {o : Overlay} (ho : o ∈ app.windows.overlays) :
    o.bar < app.nextId := by
  have hbar : o.bar ∈ app.calls.map (·.bar) := h.bars ▸ List.mem_map_of_mem ho
  obtain ⟨call, hcall, heq⟩ := List.mem_map.mp hbar
  exact heq ▸ h.fresh call hcall

/-- Taking down the overlay of a fresh call changes nothing. -/
theorem Matched.hide_fresh (h : Matched app) :
    (app.windows.hide app.nextId).overlays = app.windows.overlays := by
  apply List.filter_eq_self.mpr
  intro o ho
  simpa using Nat.ne_of_lt (h.fresh_overlay ho)

/-- A call puts its overlay up as it starts to wait. -/
theorem Matched.begin (h : Matched app) (hbar : call.bar = app.nextId) :
    Matched (app.begin call) := by
  obtain ⟨window, hw, hlt⟩ := h.keyWindow
  have hoverlays : (app.begin call).windows.overlays =
      ⟨call.bar, window⟩ :: app.windows.overlays := by
    simp only [App.begin, Windows.show_overlays hw, hbar, h.hide_fresh]
  have hkey : (app.begin call).windows.keyWindow = some window := by
    simp only [App.begin, Windows.show_keyWindow, hw]
  apply Matched.mk
  case bars =>
    rw [hoverlays]
    simpa [App.begin] using h.bars
  case nodup =>
    refine List.nodup_cons.mpr ⟨?_, h.nodup⟩
    intro hmem
    obtain ⟨other, hother, heq⟩ := List.mem_map.mp hmem
    have hsame : other.bar = call.bar := heq
    -- The numbers of waiting calls are below the next one
    have hless := h.fresh other hother
    omega
  case onKey =>
    intro o ho
    rw [hkey]
    rw [hoverlays] at ho
    rcases List.mem_cons.mp ho with rfl | ho
    · rfl
    · exact hw ▸ h.onKey o ho
  case keyWindow =>
    exact ⟨window, hkey, Nat.lt_succ_of_lt hlt⟩
  case fresh =>
    intro other hother
    rcases List.mem_cons.mp hother with rfl | hother
    · exact hbar ▸ Nat.lt_succ_self _
    · exact Nat.lt_succ_of_lt (h.fresh other hother)

/-- Settling a call and taking its overlay down keeps the match. -/
theorem Matched.settle (h : Matched app) (call : Call) :
    Matched ((app.settle call.bar).perform call .hide) := by
  -- Both lists are filtered by the same number, so their numbers stay equal
  have hfilter : ∀ (overlays : List Overlay) (calls : List Call),
      overlays.map (·.bar) = calls.map (·.bar) →
      (overlays.filter fun o => o.bar ≠ call.bar).map (·.bar) =
        (calls.filter fun c => c.bar ≠ call.bar).map (·.bar) := by
    intro overlays calls heq
    have hleft := List.filter_map (p := (· ≠ call.bar)) (f := fun o : Overlay => o.bar)
      (l := overlays)
    have hright := List.filter_map (p := (· ≠ call.bar)) (f := fun c : Call => c.bar) (l := calls)
    rw [heq] at hleft
    simpa [Function.comp_def] using hleft.symm.trans hright
  apply Matched.mk
  case bars =>
    simp only [perform, App.settle, Windows.hide]
    exact hfilter _ _ h.bars
  case nodup =>
    exact h.nodup.sublist (List.filter_sublist.map _)
  case onKey =>
    exact fun o ho => h.onKey o (Windows.mem_hide.mp ho).1
  case keyWindow =>
    exact h.keyWindow
  case fresh =>
    exact fun other hother => h.fresh other (mem_settle.mp hother).1

/-- A request that is under way is the same call. -/
theorem Matched.sending (h : Matched app) (bar : Nat) (request : HTTPRequest) :
    Matched (app.sending bar request) := by
  have hbars : (app.sending bar request).calls.map (·.bar) = app.calls.map (·.bar) := by
    simp only [App.sending, List.map_map]
    apply List.map_congr_left
    intro c _
    simp only [Function.comp_apply]
    split <;> rfl
  apply Matched.mk
  case bars =>
    exact h.bars.trans hbars.symm
  case nodup =>
    exact hbars.symm ▸ h.nodup
  case onKey =>
    exact h.onKey
  case keyWindow =>
    exact h.keyWindow
  case fresh =>
    intro c hc
    have hmem : c.bar ∈ app.calls.map (·.bar) := hbars ▸ List.mem_map_of_mem hc
    obtain ⟨other, hother, heq⟩ := List.mem_map.mp hmem
    exact heq ▸ h.fresh other hother

/-- Each outcome of a start leaves as many overlays as waiting calls. -/
theorem Matched.start (h : Matched app) (hbar : call.bar = app.nextId)
    (hstart : StartOutcome call (app.begin call) app') : Matched app' := by
  cases hstart with
  | silent => exact h.begin hbar
  | refused => exact (h.begin hbar).settle call
  | sent request => exact (h.begin hbar).sending call.bar request

theorem Matched.noteOTPRequest (h : Matched app) (vc : Auth.OTPVerificationVC) :
    Matched (app.noteOTPRequest vc) :=
  ⟨h.bars, h.nodup, h.onKey, h.keyWindow, h.fresh⟩

/-! ## Responses -/

theorem Matched.congr (h : Matched app) (hcalls : app'.calls = app.calls)
    (hwindows : app'.windows = app.windows) (hnext : app.nextId ≤ app'.nextId) :
    Matched app' := by
  apply Matched.mk
  case bars =>
    rw [hcalls, hwindows]
    exact h.bars
  case nodup =>
    rw [hcalls]
    exact h.nodup
  case onKey =>
    rw [hwindows]
    exact h.onKey
  case keyWindow =>
    obtain ⟨window, hw, hlt⟩ := h.keyWindow
    exact ⟨window, hwindows ▸ hw, Nat.lt_of_lt_of_le hlt hnext⟩
  case fresh =>
    rw [hcalls]
    exact fun c hc => Nat.lt_of_lt_of_le (h.fresh c hc) hnext

/-- The only call that can be settled without another one waiting is the only one there is. -/
theorem Matched.settle_eq_nil (h : Matched app) (hcall : call ∈ app.calls) :
    (app.settle call.bar).calls = [] ↔ app.calls = [call] := by
  constructor
  · intro hnil
    -- No other number is left, and numbers are not shared
    have hall : ∀ c ∈ app.calls, c.bar = call.bar := by
      intro c hc
      simpa using List.filter_eq_nil_iff.mp hnil c hc
    match hcalls : app.calls with
    | [] => simp [hcalls] at hcall
    | [c] => simpa [hcalls, eq_comm] using hcall
    | c₁ :: c₂ :: rest =>
      have hnodup := h.nodup
      rw [hcalls] at hnodup hall
      have h₁ := hall c₁ (by simp)
      have h₂ := hall c₂ (by simp)
      simp [h₁, h₂] at hnodup
  · intro hcalls
    simp [App.settle, hcalls]

section Response

variable {settled : App} {response : AFDataResponse}

/-- The windows after a response that takes its overlay down and installs nothing. -/
theorem Matched.respond_handled (h : Matched app) (hs : Settled call response app settled)
    (hhide : .hide ∈ effects)
    (hinstall : .installDashBoardTabVC ∉ effects) :
    Matched (settled.performAll call effects) := by
  refine (h.settle call).congr ?_ (Windows.ext ?_ ?_) ?_
  · rw [performAll_calls, hs.calls, perform_calls]
  · rw [performAll_keyWindow hinstall, hs.windows]
    rfl
  · rw [performAll_overlays, if_pos hhide, hs.windows]
    rfl
  · exact Nat.le_trans (Nat.le_of_eq hs.nextId.symm) (performAll_nextId settled)

/-- The app after the dashboard was installed while no other call waited. -/
theorem Matched.respond_installed (h : Matched app) (hs : Settled call response app settled)
    (hhide : .hide ∈ effects)
    (hinstall : .installDashBoardTabVC ∈ effects) (honly : app.calls = [call]) :
    Matched (settled.performAll call effects) := by
  obtain ⟨window, hw, -, hlt⟩ := performAll_installs settled call hinstall
  have hcalls : (settled.performAll call effects).calls = [] := by
    rw [performAll_calls, hs.calls]
    simp [App.settle, honly]
  -- The only overlay was that of the call, and it has been taken down
  have hoverlays : (settled.performAll call effects).windows.overlays = [] := by
    rw [performAll_overlays, if_pos hhide, hs.windows]
    apply List.filter_eq_nil_iff.mpr
    intro o ho
    have hmem : o.bar ∈ app.calls.map (·.bar) := h.bars ▸ List.mem_map_of_mem ho
    simpa [honly] using hmem
  apply Matched.mk
  case bars =>
    rw [hcalls, hoverlays]
    rfl
  case nodup =>
    rw [hcalls]
    exact List.nodup_nil
  case onKey =>
    simp [hoverlays]
  case keyWindow =>
    exact ⟨window, hw, hlt⟩
  case fresh =>
    rw [hcalls]
    simp

/-- A response that leaves its overlay up leaves one overlay too many. -/
theorem Matched.respond_unhandled (h : Matched app) (hs : Settled call response app settled)
    (hcall : call ∈ app.calls) (hhide : .hide ∉ effects)
    (hinstall : .installDashBoardTabVC ∉ effects) :
    ¬ OverlaysMatch (settled.performAll call effects) := by
  have hwindows : (settled.performAll call effects).windows = app.windows := by
    refine Windows.ext ?_ ?_
    · rw [performAll_keyWindow hinstall, hs.windows]
    · rw [performAll_overlays, if_neg hhide, hs.windows]
  -- One call fewer waits, while the windows are as they were
  have hfewer : (app.settle call.bar).calls.length < app.calls.length :=
    List.length_filter_lt_length_iff_exists.mpr ⟨call, hcall, by simp⟩
  have hmatch : app.windows.onKeyWindow.length = app.calls.length := h.overlaysMatch
  intro hafter
  rw [OverlaysMatch, hwindows, performAll_calls, hs.calls] at hafter
  omega

/-- The dashboard installed while another call waits leaves that call without its overlay. -/
theorem Matched.respond_replaced (h : Matched app) (hs : Settled call response app settled)
    (hcall : call ∈ app.calls)
    (hinstall : .installDashBoardTabVC ∈ effects) (hothers : app.calls ≠ [call]) :
    ¬ OverlaysMatch (settled.performAll call effects) := by
  obtain ⟨window, hw, hle, -⟩ := performAll_installs settled call hinstall
  obtain ⟨old, hold, hlt⟩ := h.keyWindow
  -- The overlays there are lie on the window that was the key window before
  have hnone : (settled.performAll call effects).windows.onKeyWindow = [] := by
    apply List.filter_eq_nil_iff.mpr
    intro o ho
    rw [performAll_overlays, hs.windows] at ho
    have hmem : o ∈ app.windows.overlays := by
      split at ho
      · exact (Windows.mem_hide.mp ho).1
      · exact ho
    have hwindow : o.window = old := by
      have hkey := h.onKey o hmem
      rw [hold, Option.some.injEq] at hkey
      exact hkey
    have hnext := hs.nextId
    simp only [hw, hwindow, Option.some.injEq, decide_eq_true_eq]
    omega
  have hsome : (app.settle call.bar).calls ≠ [] := by
    intro hnil
    exact hothers ((h.settle_eq_nil hcall).mp hnil)
  intro hafter
  rw [OverlaysMatch, hnone, performAll_calls, hs.calls] at hafter
  exact hsome (List.eq_nil_of_length_eq_zero hafter.symm)

end Response

/-- A step that meets the condition keeps the match. -/
theorem matched_step {e : CallEvent} (h : Matched app) (hgood : Handled P app e)
    (hstep : callStep P app e = some app') : Matched app' := by
  cases e with
  | LoginApiCalling reachability self vc =>
    exact h.start rfl (LoginApiCalling_outcome hstep)
  | sendOtpValidation reachability self vc =>
    exact (h.noteOTPRequest vc).start rfl (sendOtpValidation_outcome hstep)
  | REsendOtpValidation reachability self vc =>
    exact (h.noteOTPRequest vc).start rfl (REsendOtpValidation_outcome hstep)
  | EditUserProfileMethod self vc => exact h.start rfl (EditUserProfileMethod_outcome hstep)
  | DeleteProfilepicMthod reachability self =>
    exact h.start rfl (DeleteProfilepicMthod_outcome hstep)
  | respond bar response =>
    rcases respond_cases hstep with ⟨-, rfl⟩ |
      ⟨call, hcall, hbar, hreq, settled, hs, effects, heff, rfl⟩
    · exact h
    · obtain ⟨hhandles, honly⟩ := hgood call hcall hbar hreq
      obtain ⟨hhide, hinstall⟩ := Method.matches_effects heff
      -- With the dashboard the window changes, so no other overlay may be left behind
      by_cases hi : .installDashBoardTabVC ∈ effects
      · exact h.respond_installed hs (hhide.mp hhandles) hi
          (honly (hinstall.mpr hi))
      · exact h.respond_handled hs (hhide.mp hhandles) hi

/-- A step that does not breaks it. -/
theorem not_overlaysMatch_step {e : CallEvent} (h : Matched app) (hbad : ¬ Handled P app e)
    (hstep : callStep P app e = some app') : ¬ OverlaysMatch app' := by
  cases e with
  | respond bar response =>
    simp only [Handled, not_forall] at hbad
    obtain ⟨call, hcall, hbar, hreq, hbad⟩ := hbad
    rcases respond_cases hstep with ⟨hnone, -⟩ |
      ⟨call', hcall', hbar', -, settled, hs, effects, heff, rfl⟩
    · rw [hnone call hcall hbar] at hreq
      exact absurd hreq (by simp)
    -- The numbers of waiting calls differ, so the response answers this very call
    · have hsame : call' = call :=
        List.inj_on_of_nodup_map h.nodup hcall' hcall (hbar'.trans hbar.symm)
      subst hsame
      obtain ⟨hhide, hinstall⟩ := Method.matches_effects heff
      by_cases hhandles : call'.method.Handles response
      · have hreplaced : call'.method.Installs P response ∧ app.calls ≠ [call'] := by
          simpa [hhandles] using hbad
        exact h.respond_replaced hs hcall
          (hinstall.mp hreplaced.1) hreplaced.2
      · refine h.respond_unhandled hs hcall
          (mt hhide.mpr hhandles) ?_
        exact mt (fun hi => Method.handles_of_installs (hinstall.mpr hi)) hhandles
  | _ => exact absurd trivial hbad

/-- **When the overlays match the waiting calls**: exactly as long as every response takes the
overlay of its call down and installs the dashboard only while no other call waits. -/
theorem overlays_match_iff (P : Platform) (defaults : UserDefaults) (es : List CallEvent) :
    Always (callStep P) OverlaysMatch (launch defaults [] []) es ↔
      EachStep (callStep P) (Handled P) (launch defaults [] []) es :=
  always_iff_eachStep (fun _ h => h.overlaysMatch) (fun _ _ _ => matched_step)
    (fun _ _ _ => not_overlaysMatch_step) (matched_launch defaults [] []) es

/-- Three responses after which the window stays covered with no call waiting: a login answered
with a status the closure does not know, a verification answered 401, and a profile update
answered 200 without data. -/
theorem overlay_left_up :
    ∃ login verification update,
      run (callStep (.sample [])) initial
        [.LoginApiCalling (some (.reachable .ethernetOrWiFi)) 1
            { countryCodeLblref := "+1", mobileNumberTFref := "2025550100" },
          .respond 3 ⟨some 200, none, .success (.object [("status", .number ⟨422, 0⟩)])⟩] =
        some login ∧
      run (callStep (.sample [])) initial
        [.sendOtpValidation (some (.reachable .cellular)) 1 { CustomerID := "7" },
          .respond 3 ⟨some 401, none, .success .null⟩] = some verification ∧
      run (callStep (.sample [])) (launch { CustomerID := some "7" } [] [])
        [.EditUserProfileMethod 1 { Nametfref := "Ann" },
          .respond 3 ⟨some 200, none, .success .null⟩] = some update ∧
      (¬ OverlaysMatch login ∧ login.calls = []) ∧
      (¬ OverlaysMatch verification ∧ verification.calls = []) ∧
      (¬ OverlaysMatch update ∧ update.calls = []) :=
  ⟨_, _, _, rfl, rfl, rfl, ⟨by decide, rfl⟩, ⟨by decide, rfl⟩, ⟨by decide, rfl⟩⟩

end App

end ThorChat.SignIn
