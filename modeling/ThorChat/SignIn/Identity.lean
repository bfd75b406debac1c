import ThorChat.SignIn.Verified

/-!
# Customer Identity across the Sign-In Flow

The customer is kept in two places: in the one-time-code screen, and persisted by the login
before it is verified. While overlays take every touch the two agree: a login is the only call
that writes the persisted one, and it waits alone, on a stack without a one-time-code screen.
-/

namespace ThorChat.SignIn

open ThorChat.Auth
open ThorChat.Library
open ThorChat.Models
open ThorChat.Runtime
open ThorChat.Sources
open ThorChat.SupportFrameWorks

/-! ## The shape of the stack -/

/-- The screens of somebody who has not logged in: neither a one-time-code screen nor a profile
screen. -/
def BeforeLogin (stack : List Identity) : Prop :=
  .EditMyProfileVC ∉ stack ∧ ∀ CustomerID, .OTPVerificationVC CustomerID ∉ stack

/-- The screens of somebody who has logged in: one one-time-code screen, below profile screens
at most. -/
inductive AfterLogin : List Identity → Prop where
  | OTPVerificationVC {CustomerID : String} {below : List Identity} :
      BeforeLogin below → AfterLogin (.OTPVerificationVC CustomerID :: below)
  | EditMyProfileVC {below : List Identity} :
      AfterLogin below → AfterLogin (.EditMyProfileVC :: below)

section Stack

variable {stack : List Identity} {identity : Identity}

theorem BeforeLogin.tail (h : BeforeLogin stack) : BeforeLogin stack.tail :=
  ⟨fun hmem => h.1 (List.mem_of_mem_tail hmem),
    fun CustomerID hmem => h.2 CustomerID (List.mem_of_mem_tail hmem)⟩

theorem BeforeLogin.cons (h : BeforeLogin stack)
    (hidentity : identity = .PhoneNumberVerificationVC ∨ identity = .TermaAndPolicyVC) :
    BeforeLogin (identity :: stack) := by
  rcases hidentity with rfl | rfl
  · exact ⟨by simp [h.1], fun CustomerID => by simp [h.2 CustomerID]⟩
  · exact ⟨by simp [h.1], fun CustomerID => by simp [h.2 CustomerID]⟩

/-- A stack with another screen on top is that of somebody who has not logged in. -/
theorem beforeLogin_of_head (h : BeforeLogin stack ∨ AfterLogin stack)
    (hhead : stack.head? = some identity) (hprofile : identity ≠ .EditMyProfileVC)
    (hotp : ∀ CustomerID, identity ≠ .OTPVerificationVC CustomerID) : BeforeLogin stack := by
  rcases h with h | h
  · exact h
  · cases h with
    | OTPVerificationVC hbelow =>
      exact absurd (Option.some.inj hhead).symm (hotp _)
    | EditMyProfileVC hbelow =>
      exact absurd (Option.some.inj hhead).symm hprofile

theorem afterLogin_of_mem (h : BeforeLogin stack ∨ AfterLogin stack) {CustomerID : String}
    (hmem : .OTPVerificationVC CustomerID ∈ stack) : AfterLogin stack :=
  h.resolve_left fun hbefore => hbefore.2 CustomerID hmem

/-- Closing a one-time-code screen leads back to before the login. -/
theorem AfterLogin.tail {CustomerID : String} (h : AfterLogin stack)
    (hhead : stack.head? = some (.OTPVerificationVC CustomerID)) : BeforeLogin stack.tail := by
  cases h with
  | OTPVerificationVC hbelow => exact hbelow
  | EditMyProfileVC hbelow => simp at hhead

end Stack

/-- The call is a login. -/
def Call.IsLogin (call : Call) : Prop :=
  ∃ countryCode mobileNumber, call.method = .LoginApiCalling countryCode mobileNumber

namespace App

variable {P : Platform} {app app' : App} {call : Call}

/-! ## The invariant -/

/-- The credentials persisted are those of one verification answered with status 200, and the
customer persisted is the one it was sent for. -/
def CredentialsAgree (app : App) : Prop :=
  ∃ v ∈ app.verifications,
    app.defaults.auth_key = some v.answer.auth_key ∧
    app.defaults.client_service = some v.answer.client_service ∧
    app.defaults.CustomerID = some v.customer_id

/-- Where the customer is known from, and what can still change it. -/
structure Agreement (app : App) : Prop where
  keyWindow : ∃ window, app.windows.keyWindow = some window
  /-- As long as the sign-in screens are shown, the overlay of every waiting call covers them. -/
  covered : app.root ≠ .DashBoardTabVC → ∀ call ∈ app.calls, ∃ o ∈ app.windows.overlays,
    o.bar = call.bar ∧ some o.window = app.windows.keyWindow
  bars : ∀ call ∈ app.calls, call.bar < app.nextId
  shape : BeforeLogin app.stack ∨ AfterLogin app.stack
  screens : ∀ CustomerID, .OTPVerificationVC CustomerID ∈ app.stack →
    app.defaults.CustomerID = some CustomerID
  /-- A login waits alone. -/
  login : ∀ call ∈ app.calls, call.IsLogin → (∀ c ∈ app.calls, c.bar = call.bar) ∧
    app.root ≠ .DashBoardTabVC ∧ BeforeLogin app.stack
  /-- A verification waits for the persisted customer, and its screen stays. -/
  verification : ∀ call ∈ app.calls, ∀ customer_id, call.method = .sendOtpValidation customer_id →
    app.defaults.CustomerID = some customer_id ∧ (app.root = .DashBoardTabVC ∨
      (call.self, .OTPVerificationVC customer_id) ∈ app.identities)
  /-- A verified user is past the one-time-code screen. -/
  flag : app.defaults.isUserLogIned = true → CredentialsAgree app ∧
    (app.root = .DashBoardTabVC ∨ app.stack.head? = some .EditMyProfileVC)
  requests : ∀ r ∈ app.otpRequests, r.verifies = r.resendsTo

theorem CredentialsAgree.congr (h : CredentialsAgree app)
    (hdefaults : app'.defaults = app.defaults)
    (hverifications : ∀ v ∈ app.verifications, v ∈ app'.verifications) :
    CredentialsAgree app' := by
  obtain ⟨v, hv, hagree⟩ := h
  exact ⟨v, hverifications v hv, by rwa [hdefaults]⟩

/-- The invariant survives where the flow does not move, calls stop waiting at most, and the
overlays of those that wait stay. -/
theorem Agreement.congr (h : Agreement app)
    (hidentities : app'.identities = app.identities)
    (hdashboard : app'.root = .DashBoardTabVC ↔ app.root = .DashBoardTabVC)
    (hdefaults : app'.defaults = app.defaults)
    (hkey : app'.windows.keyWindow = app.windows.keyWindow)
    (hoverlays : ∀ c ∈ app'.calls, ∀ o ∈ app.windows.overlays, o.bar = c.bar →
      o ∈ app'.windows.overlays)
    (hcalls : ∀ c ∈ app'.calls, ∃ c' ∈ app.calls,
      c'.bar = c.bar ∧ c'.self = c.self ∧ c'.method = c.method)
    (hnextId : app'.nextId = app.nextId)
    (hverifications : ∀ v ∈ app.verifications, v ∈ app'.verifications)
    (hrequests : app'.otpRequests = app.otpRequests) : Agreement app' := by
  have hstack := stack_congr hidentities
  apply Agreement.mk
  case keyWindow =>
    rw [hkey]
    exact h.keyWindow
  case covered =>
    intro hroot c hc
    obtain ⟨c', hc', hbar, -, -⟩ := hcalls c hc
    obtain ⟨o, ho, hobar, hwindow⟩ := h.covered (mt hdashboard.mpr hroot) c' hc'
    exact ⟨o, hoverlays c hc o ho (hobar.trans hbar), hobar.trans hbar, hkey ▸ hwindow⟩
  case bars =>
    intro c hc
    obtain ⟨c', hc', hbar, -, -⟩ := hcalls c hc
    rw [← hbar, hnextId]
    exact h.bars c' hc'
  case shape =>
    rw [hstack]
    exact h.shape
  case screens =>
    rw [hstack, hdefaults]
    exact h.screens
  case login =>
    rintro c hc ⟨countryCode, mobileNumber, hm⟩
    obtain ⟨c', hc', hbar, -, hmethod⟩ := hcalls c hc
    obtain ⟨halone, hroot, hbefore⟩ := h.login c' hc' ⟨_, _, hmethod.trans hm⟩
    refine ⟨fun d hd => ?_, mt hdashboard.mp hroot, hstack ▸ hbefore⟩
    obtain ⟨d', hd', hdbar, -, -⟩ := hcalls d hd
    rw [← hdbar, halone d' hd', hbar]
  case verification =>
    intro c hc customer_id hm
    obtain ⟨c', hc', -, hself, hmethod⟩ := hcalls c hc
    rw [hdefaults, hdashboard, hidentities, ← hself]
    exact h.verification c' hc' customer_id (hmethod.trans hm)
  case flag =>
    rw [hdefaults, hdashboard, hstack]
    intro hflag
    exact ⟨(h.flag hflag).1.congr hdefaults hverifications, (h.flag hflag).2⟩
  case requests =>
    rw [hrequests]
    exact h.requests

theorem Agreement.unmoved {bar : Nat} (h : Agreement app) (hu : Unmoved bar app app')
    (hbar : ∀ c ∈ app.calls, c.bar ≠ bar) : Agreement app' :=
  h.congr hu.identities hu.dashboard hu.defaults hu.keyWindow
    (fun c hc o ho hobar => hu.overlays o ho (hobar ▸ hbar c (hu.calls ▸ hc)))
    (fun c hc => ⟨c, hu.calls ▸ hc, rfl, rfl, rfl⟩) hu.nextId
    (fun v hv => by rwa [hu.verifications]) hu.otpRequests

theorem Agreement.sameFlow (h : Agreement app) (hs : SameFlow app app') : Agreement app' :=
  h.unmoved (hs.unmoved app.nextId) fun c hc => Nat.ne_of_lt (h.bars c hc)

/-! ## Touches -/

/-- Where a touch reaches a sign-in screen, no call waits. -/
theorem Agreement.calls_eq_nil (h : Agreement app) (hroot : app.root ≠ .DashBoardTabVC)
    (hcovered : app.windows.covered = false) : app.calls = [] := by
  by_contra hne
  obtain ⟨call, hcall⟩ := List.exists_mem_of_ne_nil _ hne
  -- A waiting call would have its overlay on the key window
  obtain ⟨o, ho, -, hwindow⟩ := h.covered hroot call hcall
  rw [Windows.covered_of_mem ho hwindow] at hcovered
  exact absurd hcovered (by simp)

theorem root_ne_of_head {self : Nat} {identity : Identity}
    (hhead : app.identities.head? = some (self, identity)) : app.root ≠ .DashBoardTabVC := by
  intro hroot
  have hstack := stack_head hhead
  rw [stack_dashboard hroot] at hstack
  simp at hstack

/-- A user who sees another screen than the profile screen is not verified. -/
theorem Agreement.not_flag (h : Agreement app) {self : Nat} {identity : Identity}
    (hhead : app.identities.head? = some (self, identity))
    (hprofile : identity ≠ .EditMyProfileVC) : ¬ app.defaults.isUserLogIned = true := by
  intro hflag
  rcases (h.flag hflag).2 with hroot | htop
  · exact root_ne_of_head hhead hroot
  · rw [stack_head hhead] at htop
    exact hprofile (Option.some.inj htop)

/-- A user who is not verified opens and closes screens while no call waits. -/
theorem Agreement.moved (h : Agreement app) (hcalls : app'.calls = [])
    (hwindows : app'.windows = app.windows) (hdefaults : app'.defaults = app.defaults)
    (hflag : ¬ app.defaults.isUserLogIned = true)
    (hshape : BeforeLogin app'.stack ∨ AfterLogin app'.stack)
    (hscreens : ∀ CustomerID, .OTPVerificationVC CustomerID ∈ app'.stack →
      .OTPVerificationVC CustomerID ∈ app.stack)
    (hrequests : app'.otpRequests = app.otpRequests) : Agreement app' := by
  apply Agreement.mk
  case keyWindow =>
    rw [hwindows]
    exact h.keyWindow
  case covered =>
    simp [hcalls]
  case bars =>
    simp [hcalls]
  case shape =>
    exact hshape
  case screens =>
    intro CustomerID hmem
    rw [hdefaults]
    exact h.screens CustomerID (hscreens CustomerID hmem)
  case login =>
    simp [hcalls]
  case verification =>
    simp [hcalls]
  case flag =>
    rw [hdefaults]
    exact fun hf => absurd hf hflag
  case requests =>
    rw [hrequests]
    exact h.requests

theorem Agreement.opened {self : Nat} {screen : Screen} (h : Agreement app)
    (hcalls : app.calls = [])
    (hhead : app.identities.head? = some (self, .LounchScreenVC))
    (hscreen : screen.identity = .PhoneNumberVerificationVC ∨
      screen.identity = .TermaAndPolicyVC) : Agreement (app.push self screen) := by
  have hbefore : BeforeLogin app.stack :=
    beforeLogin_of_head h.shape (stack_head hhead) (by simp) (by simp)
  have hafter : BeforeLogin (app.push self screen).stack := by
    rcases push_stack app self screen with hstack | hstack
    · rw [hstack]
      exact hbefore.cons hscreen
    · rw [hstack]
      exact hbefore
  exact h.moved ((push_calls app self screen).trans hcalls) (push_windows app self screen)
    (push_defaults app self screen) (h.not_flag hhead (by simp)) (Or.inl hafter)
    (fun CustomerID hmem => absurd hmem (hafter.2 CustomerID)) (push_otpRequests app self screen)

theorem Agreement.called {self : Nat} {CustomerID : String} (h : Agreement app)
    (hcalls : app.calls = [])
    (hhead : app.identities.head? = some (self, .OTPVerificationVC CustomerID)) :
    Agreement (app.push self (.EditMyProfileVC .viewDidLoad)) := by
  have hafter : AfterLogin app.stack :=
    afterLogin_of_mem h.shape (List.mem_of_mem_head? (stack_head hhead))
  refine h.moved ((push_calls app self _).trans hcalls) (push_windows app self _)
    (push_defaults app self _) (h.not_flag hhead (by simp)) (Or.inr ?_)
    (fun CustomerID hmem => ?_) (push_otpRequests app self _)
  · rcases push_stack app self (.EditMyProfileVC .viewDidLoad) with hstack | hstack
    · rw [hstack]
      exact .EditMyProfileVC hafter
    · rw [hstack]
      exact hafter
  · rcases push_stack app self (.EditMyProfileVC .viewDidLoad) with hstack | hstack
    · rw [hstack] at hmem
      exact (List.mem_cons.mp hmem).resolve_left (by simp [Screen.identity])
    · exact hstack ▸ hmem

theorem Agreement.closed {self : Nat} {identity : Identity} (h : Agreement app)
    (hcalls : app.calls = []) (hhead : app.identities.head? = some (self, identity))
    (hscreen : identity = .TermaAndPolicyVC ∨
      ∃ CustomerID, identity = .OTPVerificationVC CustomerID) : Agreement app.pop := by
  obtain ⟨hdefaults, hwindows, hcalls', -, hrequests⟩ := pop_frame app
  have hflag : ¬ app.defaults.isUserLogIned = true := by
    rcases hscreen with rfl | ⟨CustomerID, rfl⟩
    · exact h.not_flag hhead (by simp)
    · exact h.not_flag hhead (by simp)
  rcases pop_stack app with hstack | hstack
  -- Below the terms and below the one-time-code screen nobody has logged in
  · have hbefore : BeforeLogin app.stack.tail := by
      rcases hscreen with rfl | ⟨CustomerID, rfl⟩
      · exact (beforeLogin_of_head h.shape (stack_head hhead) (by simp) (by simp)).tail
      · exact (afterLogin_of_mem h.shape (List.mem_of_mem_head? (stack_head hhead))).tail
          (stack_head hhead)
    refine h.moved (hcalls'.trans hcalls) hwindows hdefaults hflag (Or.inl (hstack ▸ hbefore))
      (fun CustomerID hmem => ?_) hrequests
    exact List.mem_of_mem_tail (hstack ▸ hmem)
  · exact h.moved (hcalls'.trans hcalls) hwindows hdefaults hflag (hstack ▸ h.shape)
      (fun CustomerID hmem => hstack ▸ hmem) hrequests

/-! ## Starting a call -/

/-- A call that starts puts its overlay up; a login starts alone, on a stack of somebody who
has not logged in, and a verification for the persisted customer. -/
theorem Agreement.begun (h : Agreement app) (hbar : call.bar = app.nextId)
    (hnologin : ∀ c ∈ app.calls, ¬ c.IsLogin)
    (hlogin : call.IsLogin → app.calls = [] ∧ app.root ≠ .DashBoardTabVC ∧
      BeforeLogin app.stack)
    (hverification : ∀ customer_id, call.method = .sendOtpValidation customer_id →
      (call.self, .OTPVerificationVC customer_id) ∈ app.identities) :
    Agreement (app.begin call) := by
  obtain ⟨window, hkey⟩ := h.keyWindow
  apply Agreement.mk
  case keyWindow =>
    exact ⟨window, by simp [App.begin, hkey]⟩
  case covered =>
    intro hroot c hc
    simp only [App.begin, Windows.mem_show hkey, Windows.show_keyWindow]
    rcases List.mem_cons.mp hc with rfl | hc
    · exact ⟨⟨c.bar, window⟩, Or.inl rfl, rfl, hkey.symm⟩
    · obtain ⟨o, ho, hobar, hwindow⟩ := h.covered hroot c hc
      -- `show` hides the overlay of its own `bar` only, and this one is new
      have hne : o.bar ≠ call.bar := by
        rw [hobar, hbar]
        exact Nat.ne_of_lt (h.bars c hc)
      exact ⟨o, Or.inr ⟨ho, hne⟩, hobar, hwindow⟩
  case bars =>
    intro c hc
    rcases List.mem_cons.mp hc with rfl | hc
    · exact hbar ▸ Nat.lt_succ_self app.nextId
    · exact Nat.lt_succ_of_lt (h.bars c hc)
  case shape =>
    exact h.shape
  case screens =>
    exact h.screens
  case login =>
    intro c hc hm
    rcases List.mem_cons.mp hc with rfl | hc
    · obtain ⟨hnil, hroot, hbefore⟩ := hlogin hm
      refine ⟨fun d hd => ?_, hroot, hbefore⟩
      simp only [App.begin, hnil, List.mem_singleton] at hd
      rw [hd]
    -- A login that waits would wait alone
    · exact absurd hm (hnologin c hc)
  case verification =>
    intro c hc customer_id hm
    rcases List.mem_cons.mp hc with rfl | hc
    · have hmem := hverification customer_id hm
      exact ⟨h.screens customer_id (List.mem_map.mpr ⟨_, hmem, rfl⟩), Or.inr hmem⟩
    · exact h.verification c hc customer_id hm
  case flag =>
    exact h.flag
  case requests =>
    exact h.requests

theorem Agreement.started (h : Agreement (app.begin call))
    (ho : StartOutcome call (app.begin call) app') : Agreement app' := by
  cases ho with
  | silent => exact h
  | refused =>
    have hsettled : Agreement ((app.begin call).settle call.bar) :=
      h.congr rfl Iff.rfl rfl rfl (fun _ _ o ho _ => ho)
        (fun c hc => ⟨c, (mem_settle.mp hc).1, rfl, rfl, rfl⟩) rfl (fun _ hv => hv) rfl
    exact hsettled.unmoved (perform_hide_unmoved _ call)
      fun c hc => (mem_settle.mp hc).2
  | sent request hsends =>
    refine h.congr rfl Iff.rfl rfl rfl (fun _ _ o ho _ => ho) (fun c hc => ?_) rfl
      (fun _ hv => hv) rfl
    exact (StartOutcome.sent request hsends).mem_calls hc

/-- The one-time-code screen on top starts its requests for the persisted customer. -/
theorem Agreement.otpRequested {self : Nat} {vc : Auth.OTPVerificationVC} {method : Method}
    (h : Agreement app)
    (hhead : app.identities.head? = some (self, .OTPVerificationVC vc.CustomerID))
    (hmethod : method = .sendOtpValidation vc.CustomerID ∨ method = .REsendOtpValidation)
    (ho : StartOutcome (app.newCall self method)
      ((app.noteOTPRequest vc).begin (app.newCall self method)) app') : Agreement app' := by
  have hscreen : .OTPVerificationVC vc.CustomerID ∈ app.stack :=
    List.mem_of_mem_head? (stack_head hhead)
  have hcustomer : app.defaults.CustomerID = some vc.CustomerID :=
    h.screens vc.CustomerID hscreen
  have hnoted : Agreement (app.noteOTPRequest vc) := by
    refine { h with requests := fun r hr => ?_ }
    rcases List.mem_cons.mp hr with rfl | hr
    · simp only [hcustomer, Option.getD_some]
    · exact h.requests r hr
  refine (hnoted.begun rfl (fun c hc hm => ?_) (fun hm => ?_) fun id hm => ?_).started ho
  · exact (h.login c hc hm).2.2.2 vc.CustomerID hscreen
  · obtain ⟨countryCode, mobileNumber, hm⟩ := hm
    rcases hmethod with rfl | rfl <;> simp [newCall] at hm
  · rcases hmethod with rfl | rfl
    · simp only [newCall, Method.sendOtpValidation.injEq] at hm
      exact hm ▸ List.mem_of_mem_head? hhead
    · simp [newCall] at hm

/-! ## Responses -/

theorem Agreement.settled {settled : App} {response : AFDataResponse} (h : Agreement app)
    (hs : Settled call response app settled) : Agreement settled := by
  refine h.congr hs.identities (by rw [hs.root]) hs.defaults (by rw [hs.windows])
    (fun c hc o ho hobar => by rwa [hs.windows]) (fun c hc => ?_) hs.nextId hs.kept
    hs.otpRequests
  rw [hs.calls] at hc
  exact ⟨c, (mem_settle.mp hc).1, rfl, rfl, rfl⟩

/-- With a login waiting, nothing else does. -/
theorem Agreement.settled_not_login {settled : App} {response : AFDataResponse}
    (h : Agreement app) (hcall : call ∈ app.calls) (hs : Settled call response app settled) :
    ∀ c ∈ settled.calls, ¬ c.IsLogin := by
  intro c hc hm
  rw [hs.calls] at hc
  -- A login still waiting had the answered call wait beside it
  obtain ⟨hc, hne⟩ := mem_settle.mp hc
  exact hne ((h.login c hc hm).1 call hcall).symm

/-- With the answer to a login no call waits any longer. -/
theorem Agreement.settled_nil {settled : App} {response : AFDataResponse}
    {countryCode mobileNumber : String} (h : Agreement app) (hcall : call ∈ app.calls)
    (hm : call.method = .LoginApiCalling countryCode mobileNumber)
    (hs : Settled call response app settled) : settled.calls = [] := by
  obtain ⟨halone, -, -⟩ := h.login call hcall ⟨countryCode, mobileNumber, hm⟩
  refine List.eq_nil_iff_forall_not_mem.mpr fun c hc => ?_
  rw [hs.calls] at hc
  obtain ⟨hc, hne⟩ := mem_settle.mp hc
  exact hne (halone c hc)

/-- Persisting the customer and opening the screen that verifies it, with no call waiting. -/
theorem Agreement.loggedIn {defaults : UserDefaults} (h : Agreement app) (hcalls : app.calls = [])
    (hbefore : BeforeLogin app.stack) (self : Nat) (vc : Auth.OTPVerificationVC)
    (hcustomer : defaults.CustomerID = some vc.CustomerID)
    (hflag : ¬ defaults.isUserLogIned = true) :
    Agreement (push self (.OTPVerificationVC vc) { app with defaults := defaults }) := by
  have hstack := push_stack { app with defaults := defaults } self (.OTPVerificationVC vc)
  apply Agreement.mk
  case keyWindow =>
    rw [push_windows]
    exact h.keyWindow
  case covered =>
    simp [hcalls]
  case bars =>
    simp [hcalls]
  case shape =>
    rcases hstack with hstack | hstack
    · exact hstack ▸ Or.inr (.OTPVerificationVC hbefore)
    · exact hstack ▸ Or.inl hbefore
  case screens =>
    intro CustomerID hmem
    rw [push_defaults, hcustomer]
    rcases hstack with hstack | hstack
    · rw [hstack] at hmem
      rcases List.mem_cons.mp hmem with heq | hmem
      · rw [Identity.OTPVerificationVC.inj heq]
      · exact absurd hmem (hbefore.2 CustomerID)
    · exact absurd (hstack ▸ hmem) (hbefore.2 CustomerID)
  case login =>
    simp [hcalls]
  case verification =>
    simp [hcalls]
  case flag =>
    rw [push_defaults]
    exact fun hf => absurd hf hflag
  case requests =>
    rw [push_otpRequests]
    exact h.requests

/-- A push of the profile screen by a screen of a customer who has logged in. -/
theorem push_profile_identities {self : Nat} {customer_id : String} (app : App)
    (vc : Auth.EditMyProfileVC) (hscreen : app.root = .DashBoardTabVC ∨
      (self, .OTPVerificationVC customer_id) ∈ app.identities) :
    (app.root = .DashBoardTabVC ∧
      (app.push self (.EditMyProfileVC vc)).identities = app.identities) ∨
    (.OTPVerificationVC customer_id ∈ app.stack ∧
      (app.push self (.EditMyProfileVC vc)).identities =
        (app.nextId, .EditMyProfileVC) :: app.identities) := by
  rw [push_identities]
  rcases hscreen with hroot | hscreen
  · have hempty : app.identities = [] := List.map_eq_nil_iff.mp (stack_dashboard hroot)
    refine Or.inl ⟨hroot, ?_⟩
    rw [hempty]
    rfl
  · have hself : self ∈ app.identities.map (·.1) := List.mem_map.mpr ⟨_, hscreen, rfl⟩
    rw [if_pos hself]
    exact Or.inr ⟨List.mem_map.mpr ⟨_, hscreen, rfl⟩, rfl⟩

/-- Persisting credentials that agree with the customer and opening the profile screen. -/
theorem Agreement.verified {defaults : UserDefaults} {self : Nat} {customer_id : String}
    (h : Agreement app) (hnologin : ∀ c ∈ app.calls, ¬ c.IsLogin)
    (hcustomer : defaults.CustomerID = app.defaults.CustomerID)
    (hagree : CredentialsAgree { app with defaults := defaults })
    (hscreen : app.root = .DashBoardTabVC ∨
      (self, .OTPVerificationVC customer_id) ∈ app.identities) (vc : Auth.EditMyProfileVC) :
    Agreement (push self (.EditMyProfileVC vc) { app with defaults := defaults }) := by
  have hidentities := push_profile_identities { app with defaults := defaults } vc hscreen
  have hdashboard := push_dashboard { app with defaults := defaults } self (.EditMyProfileVC vc)
  apply Agreement.mk
  case keyWindow =>
    rw [push_windows]
    exact h.keyWindow
  case covered =>
    rw [push_windows, push_calls]
    exact fun hroot => h.covered (mt hdashboard.mpr hroot)
  case bars =>
    rw [push_calls]
    exact fun c hc => Nat.lt_of_lt_of_le (h.bars c hc)
      (push_nextId { app with defaults := defaults } self _)
  case shape =>
    rcases hidentities with ⟨-, hsame⟩ | ⟨hotp, hpush⟩
    · exact stack_congr hsame ▸ h.shape
    · simp only [stack, hpush, List.map_cons]
      exact Or.inr (.EditMyProfileVC (afterLogin_of_mem h.shape hotp))
  case screens =>
    intro CustomerID hmem
    rw [push_defaults, hcustomer]
    apply h.screens CustomerID
    rcases hidentities with ⟨-, hsame⟩ | ⟨-, hpush⟩
    · exact stack_congr hsame ▸ hmem
    · simp only [stack, hpush, List.map_cons] at hmem
      exact (List.mem_cons.mp hmem).resolve_left (by simp)
  case login =>
    rw [push_calls]
    exact fun c hc hm => absurd hm (hnologin c hc)
  case verification =>
    intro c hc id hm
    rw [push_calls] at hc
    obtain ⟨hid, hwaits⟩ := h.verification c hc id hm
    rw [push_defaults, hcustomer, hdashboard]
    refine ⟨hid, hwaits.imp_right fun hmem => ?_⟩
    rcases hidentities with ⟨-, hsame⟩ | ⟨-, hpush⟩
    · exact hsame ▸ hmem
    · exact hpush ▸ List.mem_cons_of_mem _ hmem
  case flag =>
    rintro -
    refine ⟨hagree.congr (push_defaults _ _ _) fun v hv => by rwa [push_verifications], ?_⟩
    rcases hidentities with ⟨hroot, -⟩ | ⟨-, hpush⟩
    · exact Or.inl (hdashboard.mpr hroot)
    · apply Or.inr
      simp only [stack, hpush, List.map_cons, List.head?_cons]
  case requests =>
    rw [push_otpRequests]
    exact h.requests

/-- Installing the dashboard takes every screen away. -/
theorem Agreement.installed (h : Agreement app) (hnologin : ∀ c ∈ app.calls, ¬ c.IsLogin) :
    Agreement app.installDashBoardTabVC where
  keyWindow := ⟨app.nextId, rfl⟩
  covered := fun hroot => absurd rfl hroot
  bars := fun c hc => Nat.lt_succ_of_lt (h.bars c hc)
  shape := Or.inl (by simp [BeforeLogin, stack_dashboard, installDashBoardTabVC])
  screens := by simp [stack_dashboard, installDashBoardTabVC]
  login := fun c hc hm => absurd hm (hnologin c hc)
  verification := fun c hc customer_id hm => ⟨(h.verification c hc customer_id hm).1, Or.inl rfl⟩
  flag := fun hflag => ⟨(h.flag hflag).1, Or.inl rfl⟩
  requests := h.requests

theorem Agreement.responded {bar : Nat} {response : AFDataResponse} (h : Agreement app)
    (hr : app.respond P bar response = some app') : Agreement app' := by
  rcases respond_outcome hr with rfl | ⟨call, hcall, settled, hs, houtcome⟩
  · exact h
  have hsettled : Agreement settled := h.settled hs
  have hnologin : ∀ c ∈ settled.calls, ¬ c.IsLogin := h.settled_not_login hcall hs
  have hbar : ∀ c ∈ settled.calls, c.bar ≠ call.bar := by
    intro c hc
    rw [hs.calls] at hc
    exact (mem_settle.mp hc).2
  cases houtcome with
  | unmoved hu => exact hsettled.unmoved hu hbar
  | @loggedIn countryCode mobileNumber json hm ha h200 =>
    -- The login waited alone, so it is over with every call, on the stack it started from
    obtain ⟨-, hroot, hbefore⟩ := h.login call hcall ⟨countryCode, mobileNumber, hm⟩
    have hnil : settled.calls = [] := h.settled_nil hcall hm hs
    have hflag : ¬ settled.defaults.isUserLogIned = true := by
      intro hflag
      rcases (hsettled.flag hflag).2 with hdashboard | hhead
      · exact hroot (hs.root ▸ hdashboard)
      · rw [stack_congr hs.identities] at hhead
        exact hbefore.1 (List.mem_of_mem_head? hhead)
    have hpushed : Agreement (push call.self
        (.OTPVerificationVC (.viewDidLoad (countryCode ++ " " ++ mobileNumber)
          (LoginModel.map json).customer_id))
        { settled with
          defaults := (settled.defaults.set (.Mobilenumber (countryCode ++ mobileNumber))).set
            (.CustomerID (LoginModel.map json).customer_id) }) :=
      hsettled.loggedIn hnil (stack_congr hs.identities ▸ hbefore) call.self _ rfl hflag
    apply hpushed.unmoved (perform_hide_unmoved _ call)
    rw [push_calls]
    exact hbar
  | @verified customer_id json hm ha h200 =>
    obtain ⟨hcustomer, hscreen⟩ := h.verification call hcall customer_id hm
    -- The answer is for the persisted customer, and the screen that asked is still there
    have hhidden : Agreement (settled.perform call .hide) :=
      hsettled.unmoved (perform_hide_unmoved settled call) hbar
    have hagree : CredentialsAgree { settled.perform call .hide with
        defaults := ((settled.defaults.set (.auth_key (RegisterModel.map json).auth_key)).set
          (.client_service (RegisterModel.map json).client_service)).set
          (.Str_Global_IsUserLogIned true) } :=
      ⟨⟨customer_id, RegisterModel.map json⟩, hs.verified customer_id json hm ha h200, rfl, rfl,
        hs.defaults ▸ hcustomer⟩
    have hwaited : (settled.perform call .hide).root = .DashBoardTabVC ∨
        (call.self, .OTPVerificationVC customer_id) ∈
          (settled.perform call .hide).identities :=
      hscreen.imp (fun hroot => hs.root ▸ hroot) (fun hmem => hs.identities ▸ hmem)
    refine hhidden.verified hnologin ?_ hagree hwaited .viewDidLoad
    rfl
  | installed hm heffects =>
    rcases heffects with rfl | rfl
    -- The two callers take the overlay down before or after they install the dashboard
    · exact (hsettled.unmoved (perform_hide_unmoved settled call) hbar).installed hnologin
    · exact (hsettled.installed hnologin).unmoved (perform_hide_unmoved _ call) hbar

/-! ## The steps -/

theorem agreement_launch {defaults : UserDefaults} {verifications : List Verification}
    {otpRequests : List OTPRequest}
    (hflag : defaults.isUserLogIned = true →
      CredentialsAgree (launch defaults verifications otpRequests))
    (hrequests : ∀ r ∈ otpRequests, r.verifies = r.resendsTo) :
    Agreement (launch defaults verifications otpRequests) := by
  obtain ⟨hdefaults, hcalls, hkey, -, hrequests'⟩ :=
    launch_frame defaults verifications otpRequests
  have hbefore : BeforeLogin (launch defaults verifications otpRequests).stack := by
    rw [launch_stack]
    split <;> simp [BeforeLogin]
  apply Agreement.mk
  case keyWindow =>
    exact hkey
  case covered =>
    simp [hcalls]
  case bars =>
    simp [hcalls]
  case shape =>
    exact Or.inl hbefore
  case screens =>
    exact fun CustomerID hmem => absurd hmem (hbefore.2 CustomerID)
  case login =>
    simp [hcalls]
  case verification =>
    simp [hcalls]
  case flag =>
    intro hf
    rw [hdefaults] at hf
    exact ⟨hflag hf, Or.inl ((launch_dashboard _ _ _).mpr hf)⟩
  case requests =>
    rw [hrequests']
    exact hrequests

/-- A step keeps the invariant, if a touch only happens where no overlay covers the screens. -/
theorem agreement_step {e : Event} (h : Agreement app)
    (htouch : e.isTouch = true → app.windows.covered = false)
    (hstep : app.step P e = some app') : Agreement app' := by
  cases step_cases hstep with
  | same hs => exact h.sameFlow hs
  | opened hTouch hhead hscreen =>
    exact h.opened (h.calls_eq_nil (root_ne_of_head hhead) (htouch hTouch)) hhead hscreen
  | called hhead =>
    exact h.called (h.calls_eq_nil (root_ne_of_head hhead) (htouch rfl)) hhead
  | closed hTouch hhead hscreen =>
    exact h.closed (h.calls_eq_nil (root_ne_of_head hhead) (htouch hTouch)) hhead hscreen
  | login hTouch hhead ho =>
    -- The tap got through, so no call waits
    have hnil : app.calls = [] := h.calls_eq_nil (root_ne_of_head hhead) (htouch hTouch)
    have hbefore : BeforeLogin app.stack :=
      beforeLogin_of_head h.shape (stack_head hhead) (by simp) (by simp)
    refine (h.begun rfl (by simp [hnil]) (fun _ => ⟨hnil, root_ne_of_head hhead, hbefore⟩)
      ?_).started ho
    simp [newCall]
  | verification hhead hs ho =>
    exact (h.sameFlow hs).otpRequested (hs.identities ▸ hhead) (Or.inl rfl) ho
  | resend hhead hs ho =>
    exact (h.sameFlow hs).otpRequested (hs.identities ▸ hhead) (Or.inr rfl) ho
  | profile hTouch hhead ho =>
    have hnil : app.calls = [] := h.calls_eq_nil (root_ne_of_head hhead) (htouch hTouch)
    refine (h.begun rfl (by simp [hnil]) ?_ ?_).started ho
    · simp [newCall, Call.IsLogin]
    · simp [newCall]
  | responded hr => exact h.responded hr
  | relaunched =>
    -- Only the persisted keys outlive the process
    refine agreement_launch (fun hflag => ?_) h.requests
    obtain ⟨hdefaults, -, -, hverifications, -⟩ :=
      launch_frame app.defaults app.verifications app.otpRequests
    exact (h.flag hflag).1.congr hdefaults fun v hv => by rwa [hverifications]

theorem agreement_shieldedStep {e : Event} (h : Agreement app)
    (hstep : app.shieldedStep P e = some app') : Agreement app' := by
  unfold shieldedStep at hstep
  split at hstep
  · rw [Option.some.injEq] at hstep
    exact hstep ▸ h
  · rename_i hfree
    refine agreement_step h (fun htouch => ?_) hstep
    simpa [htouch] using hfree

/-! ## Every run -/

theorem agreement_initial : Agreement initial :=
  agreement_launch (by simp [UserDefaults.empty, UserDefaults.isUserLogIned]) (by simp)

end App

end ThorChat.SignIn
