import ThorChat.SignIn.Responses

/-!
# The Dashboard and Verification

Whether the dashboard is shown to verified users only. The one edge of the navigation graph that
skips the verification is `CallMebtnref`; in runs that do not take it too early, the flag that a
verification persists holds wherever the profile screen or the dashboard can be reached.
-/

namespace ThorChat.SignIn

open ThorChat.Auth
open ThorChat.Library
open ThorChat.Models
open ThorChat.Runtime
open ThorChat.Sources
open ThorChat.SupportFrameWorks

namespace App

variable {P : Platform} {app app' : App} {call : Call}

/-- The dashboard is shown to verified users only. -/
def DashboardVerified (app : App) : Prop :=
  app.root = .DashBoardTabVC → app.defaults.isUserLogIned = true ∧ app.verifications ≠ []

instance : Decidable (DashboardVerified app) := inferInstanceAs (Decidable (_ → _))

/-- The user sees a one-time-code screen. -/
def onOTPScreen (app : App) : Bool :=
  match app.top with
  | some ⟨_, .OTPVerificationVC _⟩ => true
  | _ => false

/-- `CallMebtnref` is not used on a one-time-code screen before a code was verified. -/
def NotCalledEarly (app : App) (e : Event) : Prop :=
  match e with
  | .CallMebtnref => app.onOTPScreen = true → app.defaults.isUserLogIned = true
  | _ => True

instance (e : Event) : Decidable (NotCalledEarly app e) :=
  match e with
  | .CallMebtnref => inferInstanceAs (Decidable (_ → _))
  | .agreeContinueBtnref _ | .policyBtnref | .termaBtnref | .BackBtnref | .didSelectCountry _
  | .editMobileNumber _ _ | .SubmitMobileNumber _ | .editOTP _ _ _ _ | .tapField _ | .backbtnref
  | .ResendOtpbtnref _ | .fire _ _ | .editName _ | .pickedImage _ | .SubmitProfile
  | .respond _ _ | .relaunch => isTrue trivial

/-- The first identity of the stack is that of the screen the user sees. -/
theorem onOTPScreen_of_head {self : Nat} {CustomerID : String}
    (h : app.identities.head? = some (self, .OTPVerificationVC CustomerID)) :
    app.onOTPScreen = true := by
  simp only [identities, List.head?_map, Option.map_eq_some_iff, Prod.mk.injEq] at h
  obtain ⟨⟨id, screen⟩, htop, -, hscreen⟩ := h
  -- Of the five screens one has this identity
  cases screen <;> simp_all [onOTPScreen, top, Screen.identity]

/-! ## The invariant -/

/-- Wherever the dashboard is one step away, a code was verified. -/
structure VerifiedOnly (app : App) : Prop where
  dashboard : app.root = .DashBoardTabVC → app.defaults.isUserLogIned = true
  profile : .EditMyProfileVC ∈ app.stack → app.defaults.isUserLogIned = true
  update : ∀ call ∈ app.calls,
    call.method = .EditUserProfileMethod ∨ call.method = .DeleteProfilepicMthod →
      app.defaults.isUserLogIned = true
  noted : app.defaults.isUserLogIned = true → app.verifications ≠ []

/-- The invariant says what is wanted of the dashboard, and more. -/
theorem VerifiedOnly.dashboardVerified (h : VerifiedOnly app) : DashboardVerified app :=
  fun hroot => ⟨h.dashboard hroot, h.noted (h.dashboard hroot)⟩

/-- Once a code was verified, nothing can break the invariant. -/
theorem VerifiedOnly.of_flag (hflag : app.defaults.isUserLogIned = true)
    (hnoted : app.verifications ≠ []) : VerifiedOnly app :=
  ⟨fun _ => hflag, fun _ => hflag, fun _ _ _ => hflag, fun _ => hnoted⟩

/-- A process that starts at the dashboard found the flag set. -/
theorem verifiedOnly_launch {defaults : UserDefaults} {verifications : List Verification}
    {otpRequests : List OTPRequest}
    (h : defaults.isUserLogIned = true → verifications ≠ []) :
    VerifiedOnly (launch defaults verifications otpRequests) := by
  obtain ⟨hdefaults, hcalls, -, hverifications, -⟩ :=
    launch_frame defaults verifications otpRequests
  apply VerifiedOnly.mk
  case dashboard =>
    intro hroot
    rw [hdefaults]
    exact (launch_dashboard _ _ _).mp hroot
  -- Neither stack of a new process has the profile screen
  case profile =>
    intro hmem
    rw [launch_stack] at hmem
    split at hmem <;> simp at hmem
  case update =>
    simp [hcalls]
  case noted =>
    rwa [hdefaults, hverifications]

/-- A state that agrees on the flow, with calls that waited before, is as good. -/
theorem VerifiedOnly.congr (h : VerifiedOnly app)
    (hroot : app'.root = .DashBoardTabVC → app.root = .DashBoardTabVC)
    (hidentities : .EditMyProfileVC ∈ app'.stack →
      .EditMyProfileVC ∈ app.stack)
    (hcalls : ∀ c ∈ app'.calls, ∃ c' ∈ app.calls, c'.method = c.method)
    (hdefaults : app'.defaults.isUserLogIned = app.defaults.isUserLogIned)
    (hnoted : app.verifications ≠ [] → app'.verifications ≠ []) : VerifiedOnly app' := by
  apply VerifiedOnly.mk
  case dashboard =>
    exact fun hr => hdefaults ▸ h.dashboard (hroot hr)
  case profile =>
    exact fun hp => hdefaults ▸ h.profile (hidentities hp)
  case update =>
    intro c hc hm
    obtain ⟨c', hc', hsame⟩ := hcalls c hc
    exact hdefaults ▸ h.update c' hc' (hsame ▸ hm)
  case noted =>
    exact fun hflag => hnoted (h.noted (hdefaults ▸ hflag))

/-! ## The steps -/

/-- Changes of what the screens hold do not matter. -/
theorem VerifiedOnly.sameFlow (h : VerifiedOnly app) (hs : SameFlow app app') :
    VerifiedOnly app' :=
  h.congr hs.dashboard.mp (fun hp => stack_congr hs.identities ▸ hp)
    (fun c hc => ⟨c, hs.calls ▸ hc, rfl⟩) (by rw [hs.defaults])
    (fun hn => by rwa [hs.verifications])

/-- A response that moves nothing in the flow is as good as none. -/
theorem VerifiedOnly.unmoved {bar : Nat} (h : VerifiedOnly app) (hu : Unmoved bar app app') :
    VerifiedOnly app' :=
  h.congr hu.dashboard.mp (fun hp => stack_congr hu.identities ▸ hp)
    (fun c hc => ⟨c, hu.calls ▸ hc, rfl⟩) (by rw [hu.defaults])
    (fun hn => by rwa [hu.verifications])

/-- A start keeps the invariant, if a profile update is started by a verified user. -/
theorem VerifiedOnly.started (h : VerifiedOnly app)
    (hupdate : call.method = .EditUserProfileMethod ∨ call.method = .DeleteProfilepicMthod →
      app.defaults.isUserLogIned = true)
    (ho : StartOutcome call (app.begin call) app') : VerifiedOnly app' := by
  -- The new call is the only one to check; the outcome of the start adds none
  have hbegin : VerifiedOnly (app.begin call) := by
    refine ⟨h.dashboard, h.profile, fun c hc hm => ?_, h.noted⟩
    rcases List.mem_cons.mp hc with rfl | hc
    · exact hupdate hm
    · exact h.update c hc hm
  obtain ⟨hroot, hdefaults, -, hverifications, -, -⟩ := ho.frame
  refine hbegin.congr (fun hr => hroot ▸ hr) (fun hp => ?_) (fun c hc => ?_)
    (by rw [hdefaults]) (fun hn => by rwa [hverifications])
  · rwa [stack, identities, viewControllers, hroot] at hp
  · obtain ⟨c', hc', -, -, hmethod⟩ := ho.mem_calls hc
    exact ⟨c', hc', hmethod⟩

/-- The screens a push leaves are those there were, and the new one at most. -/
theorem VerifiedOnly.pushed {self : Nat} {screen : Screen} (h : VerifiedOnly app)
    (hscreen : screen.identity = .EditMyProfileVC → app.defaults.isUserLogIned = true) :
    VerifiedOnly (app.push self screen) := by
  apply VerifiedOnly.mk
  case dashboard =>
    intro hr
    rw [push_defaults]
    exact h.dashboard ((push_dashboard app self screen).mp hr)
  case profile =>
    intro hp
    rw [push_defaults]
    rcases push_stack app self screen with hstack | hstack
    · rw [hstack] at hp
      rcases List.mem_cons.mp hp with hp | hp
      · exact hscreen hp.symm
      · exact h.profile hp
    · exact h.profile (hstack ▸ hp)
  case update =>
    rw [push_calls, push_defaults]
    exact h.update
  case noted =>
    rw [push_defaults, push_verifications]
    exact h.noted

/-- A pop opens nothing that was not on the stack. -/
theorem VerifiedOnly.popped (h : VerifiedOnly app) : VerifiedOnly app.pop := by
  obtain ⟨hdefaults, -, hcalls, hverifications, -⟩ := pop_frame app
  refine h.congr (pop_dashboard app).mp (fun hp => ?_) (fun c hc => ⟨c, hcalls ▸ hc, rfl⟩)
    (by rw [hdefaults]) (fun hn => by rwa [hverifications])
  rcases pop_stack app with htail | hsame
  · rw [htail] at hp
    exact List.mem_of_mem_tail hp
  · rwa [hsame] at hp

/-- Answering a call keeps the invariant: a verification sets the flag before it pushes the
profile screen, and the calls that install the dashboard were started by a verified user. -/
theorem VerifiedOnly.responded {bar : Nat} {response : AFDataResponse} (h : VerifiedOnly app)
    (hr : app.respond P bar response = some app') : VerifiedOnly app' := by
  rcases respond_outcome hr with rfl | ⟨call, hcall, settled, hs, houtcome⟩
  · exact h
  -- Ending the call changes no screen and forgets no verification
  have hsettled : VerifiedOnly settled := by
    refine h.congr (fun hroot => hs.root ▸ hroot) (fun hp => stack_congr hs.identities ▸ hp)
      (fun c hc => ?_) (by rw [hs.defaults]) (fun hn => ?_)
    · rw [hs.calls] at hc
      exact ⟨c, (mem_settle.mp hc).1, rfl⟩
    · obtain ⟨v, hv⟩ := List.exists_mem_of_ne_nil _ hn
      exact List.ne_nil_of_mem (hs.kept v hv)
  cases houtcome with
  | unmoved hu => exact hsettled.unmoved hu
  | @loggedIn countryCode mobileNumber json hm ha h200 =>
    -- A login persists the customer before anything is verified, but not the flag
    have hset : VerifiedOnly { settled with
        defaults := (settled.defaults.set (.Mobilenumber (countryCode ++ mobileNumber))).set
          (.CustomerID (LoginModel.map json).customer_id) } :=
      hsettled.congr id id (fun c hc => ⟨c, hc, rfl⟩) rfl id
    exact (hset.pushed (by simp [Screen.identity])).unmoved
      (perform_hide_unmoved _ call)
  | @verified customer_id json hm ha h200 =>
    -- The flag is set before the profile screen is pushed
    have hnoted : settled.verifications ≠ [] :=
      List.ne_nil_of_mem (hs.verified customer_id json hm ha h200)
    exact VerifiedOnly.pushed (.of_flag rfl hnoted) (fun _ => rfl)
  | installed hm heffects =>
    -- Only a verified user could start the call that installs the dashboard
    have hflag : settled.defaults.isUserLogIned = true := hs.defaults ▸ h.update call hcall hm
    rcases heffects with rfl | rfl
    · exact .of_flag hflag (hsettled.noted hflag)
    · exact .of_flag hflag (hsettled.noted hflag)

/-- Every step keeps the invariant, if it does not take the edge past the verification. -/
theorem verifiedOnly_step {e : Event} (h : VerifiedOnly app) (hearly : NotCalledEarly app e)
    (hstep : app.step P e = some app') : VerifiedOnly app' := by
  cases step_cases hstep with
  | same hs => exact h.sameFlow hs
  | opened hTouch hhead hscreen =>
    apply h.pushed
    intro hprofile
    rw [hprofile] at hscreen
    simp at hscreen
  -- The edge past the verification: here the condition on the run is needed
  | called hhead => exact h.pushed fun _ => hearly (onOTPScreen_of_head hhead)
  | closed hTouch hhead hscreen => exact h.popped
  | login hTouch hhead ho => exact h.started (by simp [newCall]) ho
  -- The request is noted before the call starts, which is nothing to the invariant
  | @verification _ self vc app₁ _ hhead hs ho =>
    have hnoted : VerifiedOnly (app₁.noteOTPRequest vc) :=
      (h.sameFlow hs).congr id id (fun c hc => ⟨c, hc, rfl⟩) rfl id
    exact hnoted.started (by simp [newCall]) ho
  | @resend _ self vc app₁ _ hhead hs ho =>
    have hnoted : VerifiedOnly (app₁.noteOTPRequest vc) :=
      (h.sameFlow hs).congr id id (fun c hc => ⟨c, hc, rfl⟩) rfl id
    exact hnoted.started (by simp [newCall]) ho
  -- The update is started on the profile screen, which only a verified user reaches
  | profile hTouch hhead ho =>
    exact h.started (fun _ => h.profile (List.mem_of_mem_head? (stack_head hhead))) ho
  | responded hr => exact h.responded hr
  -- The new process keeps the verifications, so the flag stays backed by one
  | relaunched => exact verifiedOnly_launch h.noted

/-! ## Whole runs -/

/-- **Verified-only dashboard.** In a run that does not use `CallMebtnref` before a code was
verified, the dashboard is only ever installed after a verification answered with status 200. -/
theorem dashboard_verified_of_notCalledEarly (P : Platform) (es : List Event)
    (h : EachStep (step P) NotCalledEarly initial es) :
    Always (step P) DashboardVerified initial es :=
  (always_of_eachStep (fun _ _ _ hI hearly hstep => verifiedOnly_step hI hearly hstep)
    (verifiedOnly_launch (by simp [UserDefaults.empty, UserDefaults.isUserLogIned])) h).mono
    fun _ hI => hI.dashboardVerified

/-- A server whose profile updates succeed. -/
def samplePlatform : Platform := .sample [([0], .object [("status", .number ⟨200, 0⟩)])]

/-- A sign-in: a number is entered, its code is verified, and a name is saved. -/
def signInEvents : List Event :=
  [.agreeContinueBtnref ⟨"United States", "+1"⟩, .editMobileNumber ⟨0, 0⟩ "2025550100",
    .SubmitMobileNumber (some (.reachable .ethernetOrWiFi)),
    .respond 4 ⟨some 200, none, .success (.object
      [("status", .number ⟨200, 0⟩), ("customer_id", .string "7")])⟩,
    .editOTP (some (.reachable .ethernetOrWiFi)) 1 ⟨0, 0⟩ "4321",
    .respond 6 ⟨some 200, none, .success (.object [("status", .number ⟨200, 0⟩),
      ("auth_key", .string "k"), ("client_service", .string "c")])⟩,
    .editName "Ann", .SubmitProfile, .respond 8 ⟨some 200, some [0], .success .null⟩]

theorem dashboard_verified_typed :
    ∃ app, run (step samplePlatform) initial signInEvents = some app ∧
      app.root = .DashBoardTabVC ∧ DashboardVerified app :=
  ⟨_, rfl, rfl,
    (dashboard_verified_of_notCalledEarly samplePlatform signInEvents (by decide)).last rfl⟩

/-- The number of a registered phone is enough to reach the dashboard: after the login is
answered, `CallMebtnref` opens the profile screen, whose update installs the dashboard. -/
theorem dashboard_unverified :
    ∃ app, run (step samplePlatform) initial
      [.agreeContinueBtnref ⟨"United States", "+1"⟩, .editMobileNumber ⟨0, 0⟩ "2025550100",
        .SubmitMobileNumber (some (.reachable .ethernetOrWiFi)),
        .respond 4 ⟨some 200, none, .success (.object
          [("status", .number ⟨200, 0⟩), ("customer_id", .string "7")])⟩,
        .CallMebtnref, .editName "Ann", .SubmitProfile,
        .respond 7 ⟨some 200, some [0], .success .null⟩] = some app ∧
      app.root = .DashBoardTabVC ∧ ¬ DashboardVerified app :=
  ⟨_, rfl, rfl, by decide⟩

end App

end ThorChat.SignIn
