import ThorChat.Library.Transition
import ThorChat.SignIn.Navigation
import ThorChat.SignIn.Outcomes

/-!
# The Sign-In Flow

The events of the sign-in screens and what the app does on each. The user reaches the screen on
top only; timers fire for every one-time-code screen on the stack. A press of the delete key in
a code field is two edits of it.

`step_cases` is the inversion lemma of the flow: it says what a step can do to the navigation
stack and to the calls, and forgets everything about the screens but who they are.
-/

namespace ThorChat.SignIn

open ThorChat.Auth
open ThorChat.Library
open ThorChat.Library.Utf16
open ThorChat.Runtime
open ThorChat.Sources
open ThorChat.SupportFrameWorks

/-! ## Events -/

/-- What can happen during sign-in. An action that may start a call comes with the reachability
status the call meets. -/
inductive Event where
  | agreeContinueBtnref (selectedCountry : Country)
  | policyBtnref
  | termaBtnref
  /-- `BackBtnref` of the terms screen. -/
  | BackBtnref
  | didSelectCountry (country : Country)
  | editMobileNumber (range : NSRange) (string : String)
  /-- `Submitbtnref` of the phone number screen. -/
  | SubmitMobileNumber (reachability : Option NetworkReachabilityStatus)
  | editOTP (reachability : Option NetworkReachabilityStatus) (tag : Nat) (range : NSRange)
      (string : String)
  | tapField (tag : Nat)
  /-- `backbtnref` of the one-time-code screen. -/
  | backbtnref
  | ResendOtpbtnref (reachability : Option NetworkReachabilityStatus)
  | CallMebtnref
  | fire (self timer : Nat)
  | editName (text : String)
  | pickedImage (jpegData : Option Data)
  /-- `Submitbtnref` of the profile screen. -/
  | SubmitProfile
  | respond (bar : Nat) (response : AFDataResponse)
  /-- The process ends and is started again. -/
  | relaunch

/-- The event is a touch, which an overlay takes. -/
def Event.isTouch : Event → Bool
  | .editMobileNumber _ _ => false
  | .editOTP _ _ _ _ => false
  | .editName _ => false
  | .fire _ _ => false
  | .respond _ _ => false
  | .relaunch => false
  | _ => true

namespace App

/-- Change the screen on top. -/
def setTop (screen : Screen) (app : App) : App :=
  match app.root with
  | .UINavigationController (controller :: rest) =>
    { app with root := .UINavigationController ({ controller with screen := screen } :: rest) }
  | _ => app

/-- Carry out what an action of the one-time-code screen starts. -/
def actOTP (P : Platform) (reachability : Option NetworkReachabilityStatus) (self : Nat)
    (vc : Auth.OTPVerificationVC) (app : App) : Action → Option App
  | .sendOtpValidation => app.sendOtpValidation P reachability self vc
  | .REsendOtpValidation => app.REsendOtpValidation P reachability self vc
  | _ => some app

/-- Handle an event of the launch screen. -/
def stepLounch (self : Nat) (app : App) : Event → Option App
  | .agreeContinueBtnref selectedCountry =>
    some (app.push self (.PhoneNumberVerificationVC (.viewDidLoad selectedCountry)))
  | .policyBtnref => some (app.push self (.TermaAndPolicyVC "Privacy Policy"))
  | .termaBtnref => some (app.push self (.TermaAndPolicyVC "Terms of Services"))
  | _ => some app

/-- Handle an event of the phone number screen. -/
def stepPhone (P : Platform) (self : Nat) (vc : Auth.PhoneNumberVerificationVC) (app : App) :
    Event → Option App
  | .didSelectCountry country =>
    some (app.setTop (.PhoneNumberVerificationVC (vc.didSelectCountry country)))
  | .editMobileNumber range string =>
    (vc.edit range string).map fun vc => app.setTop (.PhoneNumberVerificationVC vc)
  | .SubmitMobileNumber reachability =>
    match vc.Submitbtnref P with
    | .LoginApiCalling => app.LoginApiCalling P reachability self vc
    | _ => some app
  | _ => some app

/-- Handle an event of the one-time-code screen. -/
def stepOTP (P : Platform) (self : Nat) (vc : Auth.OTPVerificationVC) (app : App) :
    Event → Option App
  | .editOTP reachability tag range string =>
    (vc.edit P tag range string).bind fun (vc, action) =>
      (app.setTop (.OTPVerificationVC vc)).actOTP P reachability self vc action
  | .tapField tag => some (app.setTop (.OTPVerificationVC (vc.tapField tag)))
  | .backbtnref => some app.pop
  | .ResendOtpbtnref reachability =>
    -- A hidden button takes no tap
    if vc.resendbtnref.isHidden then some app
    else
      let (vc, action) := vc.ResendOtpbtnref
      (app.setTop (.OTPVerificationVC vc)).actOTP P reachability self vc action
  | .CallMebtnref => some (app.push self (.EditMyProfileVC .viewDidLoad))
  | _ => some app

/-- Handle an event of the profile screen. -/
def stepProfile (self : Nat) (vc : Auth.EditMyProfileVC) (app : App) : Event → Option App
  | .editName text => some (app.setTop (.EditMyProfileVC { vc with Nametfref := text }))
  | .pickedImage jpegData => some (app.setTop (.EditMyProfileVC (vc.pickedImage jpegData)))
  | .SubmitProfile =>
    match vc.Submitbtnref with
    | .EditUserProfileMethod => app.EditUserProfileMethod self vc
    | _ => some app
  | _ => some app

/-- Handle an event of the screen on top. -/
def stepTop (P : Platform) (app : App) (e : Event) : Option App :=
  match app.top with
  | some ⟨self, .LounchScreenVC⟩ => app.stepLounch self e
  | some ⟨_, .TermaAndPolicyVC _⟩ =>
    match e with
    | .BackBtnref => some app.pop
    | _ => some app
  | some ⟨self, .PhoneNumberVerificationVC vc⟩ => app.stepPhone P self vc e
  | some ⟨self, .OTPVerificationVC vc⟩ => app.stepOTP P self vc e
  | some ⟨self, .EditMyProfileVC vc⟩ => app.stepProfile self vc e
  | none => some app

/-- A timer fires the `action` of a one-time-code screen. -/
def fire (self timer : Nat) (app : App) : App :=
  app.update self fun
    | .OTPVerificationVC vc =>
      if timer ∈ vc.runLoop then .OTPVerificationVC vc.action else .OTPVerificationVC vc
    | screen => screen

/-- Handle one event. -/
def step (P : Platform) (app : App) (e : Event) : Option App :=
  match e with
  | .fire self timer => some (app.fire self timer)
  | .respond bar response => app.respond P bar response
  | .relaunch => some (launch app.defaults app.verifications app.otpRequests)
  | e => app.stepTop P e

/-- Handle one event while the overlays on the key window take every touch. -/
def shieldedStep (P : Platform) (app : App) (e : Event) : Option App :=
  if e.isTouch && app.windows.covered then some app else app.step P e

end App

/-! ## Who is on the stack -/

/-- What a screen is, and for the one-time-code screen whom it verifies. -/
inductive Identity where
  | LounchScreenVC
  | TermaAndPolicyVC
  | PhoneNumberVerificationVC
  | OTPVerificationVC (CustomerID : String)
  | EditMyProfileVC
  deriving DecidableEq, Repr

/-- The identity of a screen. -/
def Screen.identity : Screen → Identity
  | .LounchScreenVC => .LounchScreenVC
  | .TermaAndPolicyVC _ => .TermaAndPolicyVC
  | .PhoneNumberVerificationVC _ => .PhoneNumberVerificationVC
  | .OTPVerificationVC vc => .OTPVerificationVC vc.CustomerID
  | .EditMyProfileVC _ => .EditMyProfileVC

namespace App

variable {P : Platform} {app app' : App} {call : Call}

/-- The stack, by the numbers and identities of its view controllers. -/
def identities (app : App) : List (Nat × Identity) :=
  app.viewControllers.map fun controller => (controller.id, controller.screen.identity)

/-- The screen on top is the first of the stack. -/
theorem identities_head {controller : Controller} (h : app.top = some controller) :
    app.identities.head? = some (controller.id, controller.screen.identity) := by
  simp only [top] at h
  simp only [identities, List.head?_map, h, Option.map_some]

/-- A push reaches the stack if the screen that pushes is still on it. -/
theorem push_identities (app : App) (self : Nat) (screen : Screen) :
    (app.push self screen).identities =
      if self ∈ app.identities.map (·.1) then (app.nextId, screen.identity) :: app.identities
      else app.identities := by
  have hids : app.identities.map (·.1) = app.viewControllers.map (·.id) := by
    simp only [identities, List.map_map]
    rfl
  rw [hids]
  -- Both tests read the stack by its numbers, so they go the same way
  unfold push
  split <;> rfl

/-- The identities of the screens on the stack. -/
def stack (app : App) : List Identity := app.identities.map (·.2)

theorem stack_congr (h : app'.identities = app.identities) : app'.stack = app.stack := by
  simp only [stack, h]

theorem stack_head {self : Nat} {identity : Identity}
    (h : app.identities.head? = some (self, identity)) : app.stack.head? = some identity := by
  simp only [stack, List.head?_map, h, Option.map_some]

/-- A push puts one more screen on the stack or none. -/
theorem push_stack (app : App) (self : Nat) (screen : Screen) :
    (app.push self screen).stack = screen.identity :: app.stack ∨
      (app.push self screen).stack = app.stack := by
  simp only [stack, push_identities]
  split
  · exact Or.inl rfl
  · exact Or.inr rfl

/-- A pop takes the screen on top, but never the last one. -/
theorem pop_stack (app : App) : app.pop.stack = app.stack.tail ∨ app.pop.stack = app.stack := by
  unfold pop
  split
  · rename_i heq
    apply Or.inl
    simp [stack, identities, viewControllers, heq]
  · exact Or.inr rfl

/-- Behind the dashboard there is no stack to go back to. -/
theorem stack_dashboard (h : app.root = .DashBoardTabVC) : app.stack = [] := by
  simp only [stack, identities, viewControllers, h, List.map_nil]

/-- A user who is logged in starts at the dashboard. -/
theorem launch_stack (defaults : UserDefaults) (verifications : List Verification)
    (otpRequests : List OTPRequest) : (launch defaults verifications otpRequests).stack =
      if defaults.isUserLogIned then [] else [.LounchScreenVC, .LounchScreenVC] := by
  unfold launch
  split <;> rfl

/-! ## Steps that only change a screen -/

/-- The two states differ in what the screens hold at most, not in who they are. -/
structure SameFlow (app app' : App) : Prop where
  identities : app'.identities = app.identities
  dashboard : app'.root = .DashBoardTabVC ↔ app.root = .DashBoardTabVC
  defaults : app'.defaults = app.defaults
  windows : app'.windows = app.windows
  calls : app'.calls = app.calls
  nextId : app'.nextId = app.nextId
  verifications : app'.verifications = app.verifications
  otpRequests : app'.otpRequests = app.otpRequests

theorem SameFlow.refl (app : App) : SameFlow app app :=
  ⟨rfl, Iff.rfl, rfl, rfl, rfl, rfl, rfl, rfl⟩

/-- The screen on top may change in everything but who it is. -/
theorem setTop_sameFlow {controller : Controller} {screen : Screen}
    (h : app.top = some controller) (hs : screen.identity = controller.screen.identity) :
    SameFlow app (app.setTop screen) := by
  unfold top viewControllers at h
  unfold setTop
  split
  -- The controller keeps its number, and the new screen has the identity of the old
  · rename_i controller' rest hroot
    rw [hroot, List.head?_cons, Option.some.injEq] at h
    subst h
    refine ⟨?_, by simp [hroot], rfl, rfl, rfl, rfl, rfl, rfl⟩
    simp [identities, viewControllers, hroot, hs]
  · exact SameFlow.refl app

/-- A screen somewhere on the stack may change in everything but who it is. -/
theorem update_sameFlow {self : Nat} {f : Screen → Screen}
    (hf : ∀ screen, (f screen).identity = screen.identity) : SameFlow app (app.update self f) := by
  unfold update
  -- Behind the dashboard there is no screen to change
  split
  · rename_i viewControllers hroot
    refine ⟨?_, by simp [hroot], rfl, rfl, rfl, rfl, rfl, rfl⟩
    simp only [identities, App.viewControllers, hroot, List.map_map]
    apply List.map_congr_left
    -- The change is made to the controller with the number of `self`, if there is one
    intro controller _
    simp only [Function.comp_apply]
    split
    · rw [hf]
    · rfl
  · exact SameFlow.refl app

/-! ## The inversion lemma -/

/-- What a step can do. -/
inductive StepOutcome (P : Platform) (app : App) : Event → App → Prop where
  /-- No screen is opened or closed, and no call starts or ends. -/
  | same {e : Event} {app' : App} : SameFlow app app' → StepOutcome P app e app'
  /-- The launch screen opens another screen. -/
  | opened {e : Event} {self : Nat} {screen : Screen} (hTouch : e.isTouch = true) :
      app.identities.head? = some (self, .LounchScreenVC) →
      screen.identity = .PhoneNumberVerificationVC ∨ screen.identity = .TermaAndPolicyVC →
      StepOutcome P app e (app.push self screen)
  /-- The one-time-code screen opens the profile screen. -/
  | called {self : Nat} {CustomerID : String} :
      app.identities.head? = some (self, .OTPVerificationVC CustomerID) →
      StepOutcome P app .CallMebtnref (app.push self (.EditMyProfileVC .viewDidLoad))
  /-- The screen on top is closed. -/
  | closed {e : Event} {self : Nat} {identity : Identity} (hTouch : e.isTouch = true) :
      app.identities.head? = some (self, identity) →
      identity = .TermaAndPolicyVC ∨ (∃ CustomerID, identity = .OTPVerificationVC CustomerID) →
      StepOutcome P app e app.pop
  | login {e : Event} {self : Nat} {countryCode mobileNumber : String} {app' : App}
      (hTouch : e.isTouch = true) :
      app.identities.head? = some (self, .PhoneNumberVerificationVC) →
      StartOutcome (app.newCall self (.LoginApiCalling countryCode mobileNumber))
        (app.begin (app.newCall self (.LoginApiCalling countryCode mobileNumber))) app' →
      StepOutcome P app e app'
  | verification {e : Event} {self : Nat} {vc : Auth.OTPVerificationVC} {app₁ app' : App} :
      app.identities.head? = some (self, .OTPVerificationVC vc.CustomerID) →
      SameFlow app app₁ →
      StartOutcome (app₁.newCall self (.sendOtpValidation vc.CustomerID))
        ((app₁.noteOTPRequest vc).begin (app₁.newCall self (.sendOtpValidation vc.CustomerID)))
        app' →
      StepOutcome P app e app'
  | resend {e : Event} {self : Nat} {vc : Auth.OTPVerificationVC} {app₁ app' : App} :
      app.identities.head? = some (self, .OTPVerificationVC vc.CustomerID) →
      SameFlow app app₁ →
      StartOutcome (app₁.newCall self .REsendOtpValidation)
        ((app₁.noteOTPRequest vc).begin (app₁.newCall self .REsendOtpValidation)) app' →
      StepOutcome P app e app'
  | profile {e : Event} {self : Nat} {app' : App} (hTouch : e.isTouch = true) :
      app.identities.head? = some (self, .EditMyProfileVC) →
      StartOutcome (app.newCall self .EditUserProfileMethod)
        (app.begin (app.newCall self .EditUserProfileMethod)) app' →
      StepOutcome P app e app'
  | responded {bar : Nat} {response : AFDataResponse} {app' : App} :
      app.respond P bar response = some app' → StepOutcome P app (.respond bar response) app'
  | relaunched :
      StepOutcome P app .relaunch (launch app.defaults app.verifications app.otpRequests)

/-- The launch screen opens the phone number screen or one of the two texts. -/
theorem stepOutcome_lounch {self : Nat} {e : Event}
    (htop : app.top = some ⟨self, .LounchScreenVC⟩) (h : app.stepLounch self e = some app') :
    StepOutcome P app e app' := by
  have hhead := identities_head htop
  cases e with
  | agreeContinueBtnref selectedCountry =>
    simp only [stepLounch, Option.some.injEq] at h
    exact h ▸ .opened rfl hhead (Or.inl rfl)
  | policyBtnref =>
    simp only [stepLounch, Option.some.injEq] at h
    exact h ▸ .opened rfl hhead (Or.inr rfl)
  | termaBtnref =>
    simp only [stepLounch, Option.some.injEq] at h
    exact h ▸ .opened rfl hhead (Or.inr rfl)
  | _ =>
    simp only [stepLounch, Option.some.injEq] at h
    exact .same (h ▸ SameFlow.refl app)

/-- The phone number screen takes edits until a valid number is submitted. -/
theorem stepOutcome_phone {self : Nat} {vc : Auth.PhoneNumberVerificationVC} {e : Event}
    (htop : app.top = some ⟨self, .PhoneNumberVerificationVC vc⟩)
    (h : app.stepPhone P self vc e = some app') : StepOutcome P app e app' := by
  cases e with
  | didSelectCountry country =>
    simp only [stepPhone, Option.some.injEq] at h
    exact .same (h ▸ setTop_sameFlow htop rfl)
  | editMobileNumber range string =>
    -- An edit outside the text would have trapped
    obtain ⟨vc', -, rfl⟩ := Option.map_eq_some_iff.mp h
    exact .same (setTop_sameFlow htop rfl)
  | SubmitMobileNumber reachability =>
    simp only [stepPhone] at h
    split at h
    · exact .login rfl (identities_head htop) (LoginApiCalling_outcome h)
    · rw [Option.some.injEq] at h
      exact .same (h ▸ SameFlow.refl app)
  | _ =>
    simp only [stepPhone, Option.some.injEq] at h
    exact .same (h ▸ SameFlow.refl app)

/-- An action of the one-time-code screen, after the screen itself was changed. -/
theorem stepOutcome_actOTP {self : Nat} {vc vc' : Auth.OTPVerificationVC} {action : Action}
    {reachability : Option NetworkReachabilityStatus} {e : Event}
    (htop : app.top = some ⟨self, .OTPVerificationVC vc⟩) (hvc : vc'.CustomerID = vc.CustomerID)
    (h : (app.setTop (.OTPVerificationVC vc')).actOTP P reachability self vc' action = some app') :
    StepOutcome P app e app' := by
  -- The screen is changed first, and the call starts from the changed screen
  have hsame : SameFlow app (app.setTop (.OTPVerificationVC vc')) :=
    setTop_sameFlow htop (by simp only [Screen.identity, hvc])
  have hhead : app.identities.head? = some (self, .OTPVerificationVC vc'.CustomerID) := by
    rw [identities_head htop, hvc]
    rfl
  cases action with
  | sendOtpValidation => exact .verification hhead hsame (sendOtpValidation_outcome h)
  | REsendOtpValidation => exact .resend hhead hsame (REsendOtpValidation_outcome h)
  | _ =>
    simp only [actOTP, Option.some.injEq] at h
    exact .same (h ▸ hsame)

/-- Whatever is typed into the code fields, the screen verifies the same customer. -/
theorem edit_CustomerID {vc vc' : Auth.OTPVerificationVC} {tag : Nat} {range : NSRange}
    {string : String} {action : Action}
    (h : vc.edit P tag range string = some (vc', action)) : vc'.CustomerID = vc.CustomerID := by
  simp only [Auth.OTPVerificationVC.edit, Option.map_eq_some_iff] at h
  obtain ⟨⟨view, otpString⟩, -, h⟩ := h
  -- The code view reports a string to the screen when a field was filled or emptied
  cases otpString with
  | none =>
    simp only [Prod.mk.injEq] at h
    exact h.1 ▸ rfl
  | some otpString =>
    simp only [Auth.OTPVerificationVC.enteredOTP, Prod.mk.injEq] at h
    exact h.1 ▸ rfl

/-- The one-time-code screen: edits and taps, and the four ways on from it. -/
theorem stepOutcome_otp {self : Nat} {vc : Auth.OTPVerificationVC} {e : Event}
    (htop : app.top = some ⟨self, .OTPVerificationVC vc⟩)
    (h : app.stepOTP P self vc e = some app') : StepOutcome P app e app' := by
  have hhead := identities_head htop
  cases e with
  | editOTP reachability tag range string =>
    obtain ⟨⟨vc', action⟩, hedit, h⟩ := Option.bind_eq_some_iff.mp h
    exact stepOutcome_actOTP htop (edit_CustomerID hedit) h
  | tapField tag =>
    simp only [stepOTP, Option.some.injEq] at h
    exact .same (h ▸ setTop_sameFlow htop rfl)
  | backbtnref =>
    simp only [stepOTP, Option.some.injEq] at h
    exact h ▸ .closed rfl hhead (Or.inr ⟨_, rfl⟩)
  | ResendOtpbtnref reachability =>
    simp only [stepOTP] at h
    split at h
    · rw [Option.some.injEq] at h
      exact .same (h ▸ SameFlow.refl app)
    -- The tap changes the button, not the customer
    · have hvc : vc.ResendOtpbtnref.1.CustomerID = vc.CustomerID := rfl
      exact stepOutcome_actOTP htop hvc h
  | CallMebtnref =>
    simp only [stepOTP, Option.some.injEq] at h
    exact h ▸ .called hhead
  | _ =>
    simp only [stepOTP, Option.some.injEq] at h
    exact .same (h ▸ SameFlow.refl app)

/-- The profile screen takes edits until a name is submitted. -/
theorem stepOutcome_profile {self : Nat} {vc : Auth.EditMyProfileVC} {e : Event}
    (htop : app.top = some ⟨self, .EditMyProfileVC vc⟩)
    (h : app.stepProfile self vc e = some app') : StepOutcome P app e app' := by
  cases e with
  | editName text =>
    simp only [stepProfile, Option.some.injEq] at h
    exact .same (h ▸ setTop_sameFlow htop rfl)
  | pickedImage jpegData =>
    simp only [stepProfile, Option.some.injEq] at h
    exact .same (h ▸ setTop_sameFlow htop rfl)
  | SubmitProfile =>
    simp only [stepProfile] at h
    split at h
    · exact .profile rfl (identities_head htop) (EditUserProfileMethod_outcome h)
    · rw [Option.some.injEq] at h
      exact .same (h ▸ SameFlow.refl app)
  | _ =>
    simp only [stepProfile, Option.some.injEq] at h
    exact .same (h ▸ SameFlow.refl app)

/-- An event goes to the screen on top, and to no screen behind the dashboard. -/
theorem stepOutcome_top {e : Event} (h : app.stepTop P e = some app') :
    StepOutcome P app e app' := by
  unfold stepTop at h
  split at h
  · rename_i htop
    exact stepOutcome_lounch htop h
  · rename_i htop
    split at h
    · rw [Option.some.injEq] at h
      exact h ▸ .closed rfl (identities_head htop) (Or.inl rfl)
    · rw [Option.some.injEq] at h
      exact .same (h ▸ SameFlow.refl app)
  · rename_i htop
    exact stepOutcome_phone htop h
  · rename_i htop
    exact stepOutcome_otp htop h
  · rename_i htop
    exact stepOutcome_profile htop h
  · rw [Option.some.injEq] at h
    exact .same (h ▸ SameFlow.refl app)

/-- A timer changes the countdown of its screen, wherever that is on the stack. -/
theorem fire_sameFlow (self timer : Nat) : SameFlow app (app.fire self timer) := by
  apply update_sameFlow
  intro screen
  -- Only a one-time-code screen has a timer, and one that was invalidated fires no more
  cases screen with
  | OTPVerificationVC vc =>
    dsimp only
    split
    · simp only [Screen.identity, Auth.OTPVerificationVC.action_CustomerID]
    · rfl
  | _ => rfl

/-- The inversion lemma of the flow: every step that does not trap is one of the ten outcomes. -/
theorem step_cases {e : Event} (h : app.step P e = some app') : StepOutcome P app e app' := by
  -- Timers, responses and the end of the process reach the app whichever screen is on top
  cases e with
  | fire self timer =>
    simp only [step, Option.some.injEq] at h
    exact .same (h ▸ fire_sameFlow self timer)
  | respond bar response => exact .responded h
  | relaunch =>
    simp only [step, Option.some.injEq] at h
    exact h ▸ .relaunched
  | _ => exact stepOutcome_top h

/-- A touch that an overlay takes changes nothing. -/
theorem shieldedStep_cases {e : Event} (h : app.shieldedStep P e = some app') :
    app' = app ∨ app.step P e = some app' := by
  unfold shieldedStep at h
  split at h
  · exact Or.inl (Option.some.inj h).symm
  · exact Or.inr h

end App

end ThorChat.SignIn
