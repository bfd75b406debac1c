import ThorChat.Auth.CodeEntry
import ThorChat.Auth.PhoneNumberEntry
import ThorChat.SignIn.Flow

/-!
# The Screens of the App

What holds of a screen on its own holds of every screen of the app, in whatever order the screens,
the timers and the responses of all calls take their turns: a property that every screen has when
it is opened and that no operation on it breaks (`ScreenInvariant.reachable`). The one-time-code
screens are in order for this reason (`otp_screens_orderly`), and a phone number screen holds what
selections and edits led to (`phone_screens_entered`).
-/

namespace ThorChat.SignIn

open ThorChat.Auth
open ThorChat.Library
open ThorChat.Library.Utf16
open ThorChat.Runtime
open ThorChat.Sources
open ThorChat.SupportFrameWorks

/-- The effect sets the countdown to a full minute, if it sets it at all. -/
def Resets (e : Effect) : Prop := ∀ value, e = .setSessionTimer value → value = 60

/-- A property that a screen has when it is opened, and that whatever happens to it keeps. -/
structure ScreenInvariant (P : Platform) (I : Screen → Prop) : Prop where
  LounchScreenVC : I .LounchScreenVC
  TermaAndPolicyVC : ∀ titleStr, I (.TermaAndPolicyVC titleStr)
  EditMyProfileVC : ∀ vc, I (.EditMyProfileVC vc)
  /-- A phone number screen is opened. -/
  openPhone : ∀ selectedCountry, I (.PhoneNumberVerificationVC (.viewDidLoad selectedCountry))
  input : ∀ vc input vc', I (.PhoneNumberVerificationVC vc) → vc.handle input = some vc' →
    I (.PhoneNumberVerificationVC vc')
  /-- A one-time-code screen is opened. -/
  openOTP : ∀ mobileNumber CustomerID,
    I (.OTPVerificationVC (.viewDidLoad mobileNumber CustomerID))
  edit : ∀ vc tag range string vc' action, I (.OTPVerificationVC vc) →
    vc.edit P tag range string = some (vc', action) → I (.OTPVerificationVC vc')
  tapField : ∀ vc tag, I (.OTPVerificationVC vc) → I (.OTPVerificationVC (vc.tapField tag))
  ResendOtpbtnref : ∀ vc, I (.OTPVerificationVC vc) →
    I (.OTPVerificationVC vc.ResendOtpbtnref.1)
  action : ∀ vc timer, I (.OTPVerificationVC vc) → timer ∈ vc.runLoop →
    I (.OTPVerificationVC vc.action)
  perform : ∀ vc e, I (.OTPVerificationVC vc) → Resets e → I (.OTPVerificationVC (vc.perform e))

/-! ## The effects of the closures -/

theorem resets_of_isNotice {e : Effect} (h : e.isNotice = true) : Resets e := by
  rintro value rfl
  exact absurd h Bool.false_ne_true

/-- No closure sets the countdown to anything else. -/
theorem Method.effects_resets {P : Platform} {response : AFDataResponse} {method : Method}
    {effects : List Effect} (h : method.effects P response = some effects) :
    ∀ e ∈ effects, Resets e := by
  have hhide : Resets .hide := fun _ h => by cases h
  have hinit : Resets .initializeUI := fun _ h => by cases h
  have hnotices : ∀ {notices : List Effect}, (∀ e ∈ notices, e.isNotice = true) →
      ∀ e ∈ .hide :: notices, Resets e := fun hn =>
    List.forall_mem_cons.mpr ⟨hhide, fun e he => resets_of_isNotice (hn e he)⟩
  by_cases hedit : method = .EditUserProfileMethod
  · rw [hedit] at h
    rcases Auth.EditUserProfileMethod.handler_cases h with ⟨-, rfl⟩ | ⟨-, -, notices, rfl, hn⟩ |
        ⟨-, -, rfl⟩
    · simp [Resets]
    · exact hnotices hn
    · simp
  cases ha : answerOf response with
  | none =>
    rw [Method.effects_dropped hedit ha, Option.some.injEq] at h
    simp [← h]
  | some answer =>
    rw [Method.effects_answered hedit ha] at h
    cases method with
    | EditUserProfileMethod => exact absurd rfl hedit
    | LoginApiCalling countryCode mobileNumber =>
      rcases Auth.LoginApiCalling.completion_cases h with ⟨json, -, rfl⟩ |
          ⟨-, notices, rfl, hn⟩ | ⟨json, -, -, -, rfl⟩
      · simp [Resets]
      · exact hnotices hn
      · simp
    | sendOtpValidation customer_id =>
      rcases Auth.sendOtpValidation.completion_cases h with ⟨json, -, rfl⟩ | ⟨-, rest, rfl, hrest⟩
      · simp [Resets]
      · refine List.forall_mem_cons.mpr ⟨hhide, fun e he => ?_⟩
        rcases hrest e he with rfl | rfl | hn
        · exact hinit
        · exact hhide
        · exact resets_of_isNotice hn
    | REsendOtpValidation =>
      rcases Auth.REsendOtpValidation.completion_cases h with ⟨-, rfl⟩ | ⟨-, notices, rfl, hn⟩
      -- The one closure that sets the countdown
      · simp [Resets]
      · exact hnotices hn
    | DeleteProfilepicMthod =>
      rcases Auth.DeleteProfilepicMthod.completion_cases h with ⟨-, -, rfl⟩ |
          ⟨-, -, -, hkind⟩ | ⟨-, -, rfl⟩
      · simp [Resets]
      · intro e he
        rcases hkind e he with rfl | hn
        · exact hhide
        · exact resets_of_isNotice hn
      · simp

namespace App

variable {P : Platform} {I : Screen → Prop} {app app' : App} {call : Call}

/-- The property holds of every screen on the stack. -/
def Screens (I : Screen → Prop) (app : App) : Prop :=
  ∀ controller ∈ app.viewControllers, I controller.screen

/-! ## Operations on the stack -/

/-- The screens are those of the root. -/
theorem Screens.congr (h : Screens I app) (hroot : app'.root = app.root) : Screens I app' := by
  have heq : app'.viewControllers = app.viewControllers := by rw [viewControllers, hroot]; rfl
  rw [Screens, heq]
  exact h

/-- A push adds one screen or none. -/
theorem Screens.push (h : Screens I app) (self : Nat) {screen : Screen} (hscreen : I screen) :
    Screens I (app.push self screen) := by
  rcases push_root app self screen with hroot | hroot
  · exact h.congr hroot
  · rw [Screens, viewControllers, hroot]
    exact List.forall_mem_cons.mpr ⟨hscreen, h⟩

theorem Screens.pop (h : Screens I app) : Screens I app.pop := by
  unfold App.pop
  split
  · rename_i hroot
    rw [Screens, viewControllers, hroot] at h
    exact (List.forall_mem_cons.mp h).2
  · exact h

theorem Screens.update (h : Screens I app) (self : Nat) {f : Screen → Screen}
    (hf : ∀ screen, I screen → I (f screen)) : Screens I (app.update self f) := by
  unfold App.update
  split
  · rename_i hroot
    rw [Screens, viewControllers, hroot] at h
    -- The screen of `self`, wherever it is, and the others stay
    refine List.forall_mem_map.mpr fun controller hcontroller => ?_
    split
    · exact hf controller.screen (h controller hcontroller)
    · exact h controller hcontroller
  · exact h

theorem Screens.setTop (h : Screens I app) {screen : Screen} (hscreen : I screen) :
    Screens I (app.setTop screen) := by
  unfold App.setTop
  split
  · rename_i hroot
    rw [Screens, viewControllers, hroot] at h
    exact List.forall_mem_cons.mpr ⟨hscreen, (List.forall_mem_cons.mp h).2⟩
  · exact h

theorem Screens.top (h : Screens I app) {controller : Controller}
    (htop : app.top = some controller) : I controller.screen :=
  h controller (List.mem_of_mem_head? htop)

theorem Screens.launch (hI : ScreenInvariant P I) (defaults : UserDefaults)
    (verifications : List Verification) (otpRequests : List OTPRequest) :
    Screens I (App.launch defaults verifications otpRequests) := by
  -- The navigation controller starts with one screen, and the dashboard takes its place or a second
  -- is pushed
  have hfirst : Screens I { defaults := defaults
                            windows := { keyWindow := some 0, overlays := [] }
                            root := .UINavigationController [⟨1, .LounchScreenVC⟩]
                            nextId := 2
                            verifications := verifications
                            otpRequests := otpRequests } := by
    intro controller hcontroller
    rw [List.mem_singleton.mp hcontroller]
    exact hI.LounchScreenVC
  unfold App.launch
  split
  · exact fun controller hcontroller => absurd hcontroller List.not_mem_nil
  · exact hfirst.push 1 hI.LounchScreenVC

/-! ## Steps -/

/-- An effect opens a screen, or changes the one-time-code screen that its closure captured. -/
theorem Screens.perform (hI : ScreenInvariant P I) (h : Screens I app) {e : Effect}
    (he : Resets e) : Screens I (app.perform call e) := by
  cases e with
  | hide => exact h.congr rfl
  | set entry => exact h.congr rfl
  | pushOTPVerificationVC mobileNumber CustomerID =>
    exact h.push call.self (hI.openOTP mobileNumber CustomerID)
  | pushEditMyProfileVC => exact h.push call.self (hI.EditMyProfileVC .viewDidLoad)
  | installDashBoardTabVC => exact fun controller hcontroller => absurd hcontroller List.not_mem_nil
  | makeToast message => exact h
  | ShowAlert message => exact h
  | _ =>
    -- The closure captured a one-time-code screen
    refine h.update call.self fun screen hscreen => ?_
    cases screen with
    | OTPVerificationVC vc => exact hI.perform vc _ hscreen he
    | _ => exact hscreen

theorem Screens.performAll (hI : ScreenInvariant P I) (h : Screens I app) {effects : List Effect}
    (he : ∀ e ∈ effects, Resets e) : Screens I (app.performAll call effects) := by
  -- On the effects; each leaves the screens as the next needs them
  induction effects generalizing app with
  | nil => exact h
  | cons e effects ih =>
    obtain ⟨hfirst, hrest⟩ := List.forall_mem_cons.mp he
    exact ih (h.perform hI hfirst) hrest

/-- The closure of a call is all that a response runs. -/
theorem Screens.respond (hI : ScreenInvariant P I) (h : Screens I app) {bar : Nat}
    {response : AFDataResponse} (hr : app.respond P bar response = some app') :
    Screens I app' := by
  rcases respond_cases hr with ⟨-, rfl⟩ |
    ⟨call, -, -, -, settled, hs, effects, heffects, rfl⟩
  · exact h
  · exact (h.congr hs.root).performAll hI (Method.effects_resets heffects)

/-- A method that starts a call changes no screen. -/
theorem Screens.start {begun : App} (h : Screens I app) (hstart : StartOutcome call begun app')
    (hbegun : begun.root = app.root) : Screens I app' :=
  h.congr (hstart.frame.1.trans hbegun)

theorem Screens.actOTP (h : Screens I app) {self : Nat} {vc : Auth.OTPVerificationVC}
    {action : Action} {reachability : Option NetworkReachabilityStatus}
    (hact : app.actOTP P reachability self vc action = some app') : Screens I app' := by
  cases action with
  | sendOtpValidation => exact h.start (sendOtpValidation_outcome hact) rfl
  | REsendOtpValidation => exact h.start (REsendOtpValidation_outcome hact) rfl
  | _ =>
    obtain rfl := Option.some.inj hact
    exact h

theorem Screens.stepLounch (hI : ScreenInvariant P I) (h : Screens I app) {self : Nat} {e : Event}
    (hstep : app.stepLounch self e = some app') : Screens I app' := by
  cases e with
  | agreeContinueBtnref selectedCountry =>
    obtain rfl := Option.some.inj hstep
    exact h.push self (hI.openPhone selectedCountry)
  | policyBtnref =>
    obtain rfl := Option.some.inj hstep
    exact h.push self (hI.TermaAndPolicyVC _)
  | termaBtnref =>
    obtain rfl := Option.some.inj hstep
    exact h.push self (hI.TermaAndPolicyVC _)
  | _ =>
    obtain rfl := Option.some.inj hstep
    exact h

theorem Screens.stepPhone (hI : ScreenInvariant P I) (h : Screens I app) {self : Nat}
    {vc : Auth.PhoneNumberVerificationVC}
    (htop : app.top = some ⟨self, .PhoneNumberVerificationVC vc⟩) {e : Event}
    (hstep : app.stepPhone P self vc e = some app') : Screens I app' := by
  -- The input goes to the screen on top, which has the property like every other
  have hvc : I (.PhoneNumberVerificationVC vc) := h.top htop
  cases e with
  | didSelectCountry country =>
    obtain rfl := Option.some.inj hstep
    exact h.setTop (hI.input vc (.didSelectCountry country) _ hvc rfl)
  | editMobileNumber range string =>
    obtain ⟨vc', hedit, rfl⟩ := Option.map_eq_some_iff.mp hstep
    exact h.setTop (hI.input vc (.edit range string) vc' hvc hedit)
  | SubmitMobileNumber reachability =>
    simp only [App.stepPhone] at hstep
    split at hstep
    · exact h.start (LoginApiCalling_outcome hstep) rfl
    · obtain rfl := Option.some.inj hstep
      exact h
  | _ =>
    obtain rfl := Option.some.inj hstep
    exact h

/-- The one-time-code screen is changed before what it starts. -/
theorem Screens.stepOTP (hI : ScreenInvariant P I) (h : Screens I app) {self : Nat}
    {vc : Auth.OTPVerificationVC} (htop : app.top = some ⟨self, .OTPVerificationVC vc⟩) {e : Event}
    (hstep : app.stepOTP P self vc e = some app') : Screens I app' := by
  have hvc : I (.OTPVerificationVC vc) := h.top htop
  cases e with
  | editOTP reachability tag range string =>
    obtain ⟨⟨vc', action⟩, hedit, hact⟩ := Option.bind_eq_some_iff.mp hstep
    exact (h.setTop (hI.edit vc tag range string vc' action hvc hedit)).actOTP hact
  | tapField tag =>
    obtain rfl := Option.some.inj hstep
    exact h.setTop (hI.tapField vc tag hvc)
  | backbtnref =>
    obtain rfl := Option.some.inj hstep
    exact h.pop
  | ResendOtpbtnref reachability =>
    simp only [App.stepOTP] at hstep
    split at hstep
    · obtain rfl := Option.some.inj hstep
      exact h
    · exact (h.setTop (hI.ResendOtpbtnref vc hvc)).actOTP hstep
  | CallMebtnref =>
    obtain rfl := Option.some.inj hstep
    exact h.push self (hI.EditMyProfileVC .viewDidLoad)
  | _ =>
    obtain rfl := Option.some.inj hstep
    exact h

theorem Screens.stepProfile (hI : ScreenInvariant P I) (h : Screens I app) {self : Nat}
    {vc : Auth.EditMyProfileVC} {e : Event} (hstep : app.stepProfile self vc e = some app') :
    Screens I app' := by
  cases e with
  | editName text =>
    obtain rfl := Option.some.inj hstep
    exact h.setTop (hI.EditMyProfileVC _)
  | pickedImage jpegData =>
    obtain rfl := Option.some.inj hstep
    exact h.setTop (hI.EditMyProfileVC _)
  | SubmitProfile =>
    simp only [App.stepProfile] at hstep
    split at hstep
    · exact h.start (EditUserProfileMethod_outcome hstep) rfl
    · obtain rfl := Option.some.inj hstep
      exact h
  | _ =>
    obtain rfl := Option.some.inj hstep
    exact h

theorem Screens.stepTop (hI : ScreenInvariant P I) (h : Screens I app) {e : Event}
    (hstep : app.stepTop P e = some app') : Screens I app' := by
  -- One case for each kind of screen that can be on top, and none behind the dashboard
  unfold App.stepTop at hstep
  split at hstep
  · exact h.stepLounch hI hstep
  · split at hstep
    · obtain rfl := Option.some.inj hstep
      exact h.pop
    · obtain rfl := Option.some.inj hstep
      exact h
  · rename_i htop
    exact h.stepPhone hI htop hstep
  · rename_i htop
    exact h.stepOTP hI htop hstep
  · exact h.stepProfile hI hstep
  · obtain rfl := Option.some.inj hstep
    exact h

/-- Every event keeps a property of the screens that openings and inputs keep. -/
theorem Screens.step (hI : ScreenInvariant P I) (h : Screens I app) {e : Event}
    (hstep : app.step P e = some app') : Screens I app' := by
  cases e with
  | fire self timer =>
    obtain rfl := Option.some.inj hstep
    refine h.update self fun screen hscreen => ?_
    cases screen with
    | OTPVerificationVC vc =>
      -- A timer that is off the run loop does not fire
      dsimp only
      split
      · rename_i hlive
        exact hI.action vc timer hscreen hlive
      · exact hscreen
    | _ => exact hscreen
  | respond bar response => exact h.respond hI hstep
  | relaunch =>
    obtain rfl := Option.some.inj hstep
    exact Screens.launch hI app.defaults app.verifications app.otpRequests
  | _ => exact h.stepTop hI hstep

end App

section Invariant

variable {P : Platform} {I : Screen → Prop} {app : App}

/-- The property holds of every screen of the app, in every state the app gets to. -/
theorem ScreenInvariant.reachable (hI : ScreenInvariant P I)
    (h : Reachable (App.step P) App.initial app) : app.Screens I :=
  h.invariant (App.Screens.launch hI .empty [] []) fun _ _ _ hscreens hstep =>
    hscreens.step hI hstep

/-- The same where overlays take every touch. -/
theorem ScreenInvariant.shielded (hI : ScreenInvariant P I)
    (h : Reachable (App.shieldedStep P) App.initial app) : app.Screens I := by
  refine h.invariant (App.Screens.launch hI .empty [] []) fun app e app' hscreens hstep => ?_
  rcases App.shieldedStep_cases hstep with rfl | hstep
  · exact hscreens
  · exact hscreens.step hI hstep

end Invariant

/-! ## What holds of every one-time-code screen -/

/-- The fields and the countdown of a one-time-code screen are in order. -/
structure OrderlyScreen (vc : Auth.OTPVerificationVC) : Prop where
  synced : vc.vpmOtpViewref.Synced
  runLoop : vc.runLoop = [] ∨ ∃ timer, vc.timer = some timer ∧ vc.runLoop = [timer]
  nonneg : 0 ≤ vc.sessionTimer
  le_sixty : vc.sessionTimer ≤ 60

namespace OrderlyScreen

variable {vc : Auth.OTPVerificationVC}

/-- A timer is scheduled only when none is live. -/
theorem start (h : OrderlyScreen vc) : OrderlyScreen vc.start := by
  apply OrderlyScreen.mk
  case synced =>
    rw [OTPVerificationVC.start_vpmOtpViewref]
    exact h.synced
  case runLoop =>
    unfold OTPVerificationVC.start
    split
    case isTrue hinvalid =>
      rcases h.runLoop with hnone | ⟨timer, htimer, hlive⟩
      · exact Or.inr ⟨vc.nextTimer, rfl, by rw [hnone]⟩
      · simp [OTPVerificationVC.timerIsValid, htimer, hlive] at hinvalid
    case isFalse => exact h.runLoop
  case nonneg =>
    rw [OTPVerificationVC.start_sessionTimer]
    exact h.nonneg
  case le_sixty =>
    rw [OTPVerificationVC.start_sessionTimer]
    exact h.le_sixty

/-- A screen that was opened counts down from 60 with one timer. -/
theorem viewDidLoad (mobileNumber CustomerID : String) :
    OrderlyScreen (.viewDidLoad mobileNumber CustomerID) := by
  have hsynced : (OTPVerificationVC.viewDidLoad mobileNumber CustomerID).vpmOtpViewref.Synced :=
    OTPScreen.synced_load mobileNumber CustomerID
  rw [OTPVerificationVC.viewDidLoad, OTPVerificationVC.OtpValidationInit,
    OTPVerificationVC.start_vpmOtpViewref] at hsynced
  rw [OTPVerificationVC.viewDidLoad, OTPVerificationVC.OtpValidationInit]
  apply start
  apply OrderlyScreen.mk
  case synced => exact hsynced
  case runLoop => exact Or.inl rfl
  case nonneg => exact (by decide : (0 : Int) ≤ 60)
  case le_sixty => exact Int.le_refl 60

theorem edit {P : Platform} {tag : Nat} {range : NSRange} {string : String}
    {vc' : Auth.OTPVerificationVC} {action : Action} (h : OrderlyScreen vc)
    (hedit : vc.edit P tag range string = some (vc', action)) : OrderlyScreen vc' := by
  obtain ⟨⟨view, otpString⟩, htext, hvc⟩ := Option.map_eq_some_iff.mp hedit
  have hsynced : view.Synced := (h.synced.textField_cases htext).1
  -- Whether or not a code is reported, the countdown is not touched
  cases otpString with
  | none =>
    obtain ⟨rfl, -⟩ := Prod.mk.inj hvc
    exact ⟨hsynced, h.runLoop, h.nonneg, h.le_sixty⟩
  | some otpString =>
    obtain ⟨rfl, -⟩ := Prod.mk.inj hvc
    exact ⟨hsynced, h.runLoop, h.nonneg, h.le_sixty⟩

theorem action (h : OrderlyScreen vc) : OrderlyScreen vc.action := by
  have hsynced : vc.action.vpmOtpViewref.Synced := by
    rw [OTPVerificationVC.action_vpmOtpViewref]
    exact h.synced
  have hle := h.le_sixty
  -- Above zero a tick counts down by one, and at zero it pauses the timer
  by_cases hpos : vc.sessionTimer > 0
  · rw [OTPVerificationVC.action, if_pos hpos] at hsynced ⊢
    refine ⟨hsynced, h.runLoop, ?_, ?_⟩
    · show 0 ≤ vc.sessionTimer - 1
      omega
    · show vc.sessionTimer - 1 ≤ 60
      omega
  · rw [OTPVerificationVC.action, if_neg hpos] at hsynced ⊢
    refine ⟨hsynced, Or.inl ?_, h.nonneg, h.le_sixty⟩
    -- The timer that is paused is the only one
    show vc.runLoop.filter (fun timer => some timer ≠ vc.timer) = []
    rcases h.runLoop with hnone | ⟨timer, htimer, hlive⟩
    · rw [hnone]
      rfl
    · simp [htimer, hlive]

theorem perform {e : Effect} (h : OrderlyScreen vc) (he : Resets e) :
    OrderlyScreen (vc.perform e) := by
  cases e with
  | initializeUI => exact ⟨h.synced.initializeUI_again, h.runLoop, h.nonneg, h.le_sixty⟩
  | setSessionTimer value =>
    -- A closure sets the countdown to 60 only
    obtain rfl := he value rfl
    exact ⟨h.synced, h.runLoop, (by decide : (0 : Int) ≤ 60), Int.le_refl 60⟩
  | hideResendbtnref => exact ⟨h.synced, h.runLoop, h.nonneg, h.le_sixty⟩
  | start => exact h.start
  | _ => exact h

end OrderlyScreen

/-- The screen is in order, if it is a one-time-code screen. -/
def Screen.Orderly (screen : Screen) : Prop :=
  ∀ vc, screen = .OTPVerificationVC vc → OrderlyScreen vc

theorem Screen.orderly_OTPVerificationVC {vc : Auth.OTPVerificationVC} :
    Screen.Orderly (.OTPVerificationVC vc) ↔ OrderlyScreen vc := by
  simp [Screen.Orderly]

/-- Each way to open or change a screen leaves it in order. -/
theorem screenInvariant_orderly (P : Platform) : ScreenInvariant P Screen.Orderly := by
  apply ScreenInvariant.mk
  case LounchScreenVC => simp [Screen.Orderly]
  case TermaAndPolicyVC => simp [Screen.Orderly]
  case EditMyProfileVC => simp [Screen.Orderly]
  case openPhone => simp [Screen.Orderly]
  case input => simp [Screen.Orderly]
  -- What is left concerns the one-time-code screens
  all_goals simp only [Screen.orderly_OTPVerificationVC]
  case openOTP => exact OrderlyScreen.viewDidLoad
  case edit => exact fun _ _ _ _ _ _ h hedit => h.edit hedit
  case tapField =>
    exact fun _ tag h => ⟨h.synced.becomeFirstResponder tag, h.runLoop, h.nonneg, h.le_sixty⟩
  case ResendOtpbtnref => exact fun _ h => ⟨h.synced, h.runLoop, h.nonneg, h.le_sixty⟩
  case action => exact fun _ _ h _ => h.action
  case perform => exact fun _ _ h he => h.perform he

namespace App

/-- **Every one-time-code screen of the app is in order.** Whatever runs of logins, verifications,
resends, timers, relaunches and answers lead there, each such screen has at most one live timer,
which is its own, a countdown between 0 and 60, and four fields that display what the entry
buffer holds. -/
theorem otp_screens_orderly (P : Platform) (app : App) (h : Reachable (step P) initial app)
    (self : Nat) (vc : Auth.OTPVerificationVC)
    (hvc : ⟨self, .OTPVerificationVC vc⟩ ∈ app.viewControllers) :
    (vc.runLoop = [] ∨ ∃ timer, vc.timer = some timer ∧ vc.runLoop = [timer]) ∧
      0 ≤ vc.sessionTimer ∧ vc.sessionTimer ≤ 60 ∧
      vc.vpmOtpViewref.fields.length = 4 ∧
      vc.vpmOtpViewref.secureEntryData = vc.vpmOtpViewref.fields := by
  have horderly : OrderlyScreen vc := (screenInvariant_orderly P).reachable h _ hvc vc rfl
  exact ⟨horderly.runLoop, horderly.nonneg, horderly.le_sixty, horderly.synced.length,
    horderly.synced.entries⟩

/-- A login, two ticks of the timer, and two digits of the code. -/
theorem otp_screens_orderly_ticked :
    ∃ app vc, run (step (.sample [])) initial
        [.agreeContinueBtnref ⟨"United States", "+1"⟩, .editMobileNumber ⟨0, 0⟩ "2025550100",
          .SubmitMobileNumber (some (.reachable .ethernetOrWiFi)),
          .respond 4 ⟨some 200, none, .success (.object
            [("status", .number ⟨200, 0⟩), ("customer_id", .string "7")])⟩,
          .fire 5 0, .fire 5 0, .editOTP none 1 ⟨0, 0⟩ "4", .editOTP none 2 ⟨0, 0⟩ "3"] =
        some app ∧
      ⟨5, .OTPVerificationVC vc⟩ ∈ app.viewControllers ∧ vc.sessionTimer = 58 ∧
      vc.vpmOtpViewref.secureEntryData = vc.vpmOtpViewref.fields := by
  have hrun : ∃ app vc, run (step (.sample [])) initial
      [.agreeContinueBtnref ⟨"United States", "+1"⟩, .editMobileNumber ⟨0, 0⟩ "2025550100",
        .SubmitMobileNumber (some (.reachable .ethernetOrWiFi)),
        .respond 4 ⟨some 200, none, .success (.object
          [("status", .number ⟨200, 0⟩), ("customer_id", .string "7")])⟩,
        .fire 5 0, .fire 5 0, .editOTP none 1 ⟨0, 0⟩ "4", .editOTP none 2 ⟨0, 0⟩ "3"] =
      some app ∧ ⟨5, .OTPVerificationVC vc⟩ ∈ app.viewControllers ∧ vc.sessionTimer = 58 :=
    ⟨_, _, rfl, List.mem_cons_self, rfl⟩
  obtain ⟨app, vc, hreach, hmem, htimer⟩ := hrun
  exact ⟨app, vc, hreach, hmem, htimer,
    (otp_screens_orderly (.sample []) app ⟨_, hreach⟩ 5 vc hmem).2.2.2.2⟩

end App

/-! ## What holds of every phone number screen -/

/-- The screen holds what selections and edits led to, if it is a phone number screen. -/
def Screen.Entered (screen : Screen) : Prop :=
  ∀ vc, screen = .PhoneNumberVerificationVC vc → ∃ selectedCountry inputs,
    run PhoneNumberVerificationVC.handle (.viewDidLoad selectedCountry) inputs = some vc

theorem Screen.entered_PhoneNumberVerificationVC {vc : Auth.PhoneNumberVerificationVC} :
    Screen.Entered (.PhoneNumberVerificationVC vc) ↔ ∃ selectedCountry inputs,
      run PhoneNumberVerificationVC.handle (.viewDidLoad selectedCountry) inputs = some vc := by
  simp [Screen.Entered]

/-- An input is one more at the end of those since the screen was opened. -/
theorem screenInvariant_entered (P : Platform) : ScreenInvariant P Screen.Entered := by
  apply ScreenInvariant.mk
  case openPhone =>
    exact fun selectedCountry =>
      Screen.entered_PhoneNumberVerificationVC.mpr ⟨selectedCountry, [], rfl⟩
  case input =>
    intro vc input vc' h hinput
    obtain ⟨selectedCountry, inputs, hrun⟩ := Screen.entered_PhoneNumberVerificationVC.mp h
    apply Screen.entered_PhoneNumberVerificationVC.mpr
    refine ⟨selectedCountry, inputs ++ [input], run_append_eq_some.mpr ⟨vc, hrun, ?_⟩⟩
    rw [run_cons hinput, run_nil]
  -- The other screens are none
  all_goals simp [Screen.Entered]

namespace App

/-- Every phone number screen of the app holds what selections and edits led to since it was
opened. -/
theorem phone_screens_entered {P : Platform} {app : App}
    (h : Reachable (shieldedStep P) initial app) {self : Nat}
    {vc : Auth.PhoneNumberVerificationVC}
    (hvc : ⟨self, .PhoneNumberVerificationVC vc⟩ ∈ app.viewControllers) :
    ∃ selectedCountry inputs,
      run PhoneNumberVerificationVC.handle (.viewDidLoad selectedCountry) inputs = some vc :=
  (screenInvariant_entered P).shielded h _ hvc vc rfl

end App

end ThorChat.SignIn
