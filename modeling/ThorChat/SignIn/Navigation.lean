import ThorChat.SignIn.App

/-!
# Navigation and Starting

What `push`, `pop`, `update`, `launch` and the effects of a closure leave alone.
-/

namespace ThorChat.SignIn

open ThorChat.Auth
open ThorChat.Runtime
open ThorChat.SupportFrameWorks

namespace App

/-! ## Pushes -/

section Push

variable (app : App) (self : Nat) (screen : Screen)

@[simp] theorem push_defaults : (app.push self screen).defaults = app.defaults := by
  unfold push
  split <;> rfl

@[simp] theorem push_windows : (app.push self screen).windows = app.windows := by
  unfold push
  split <;> rfl

@[simp] theorem push_calls : (app.push self screen).calls = app.calls := by
  unfold push
  split <;> rfl

@[simp] theorem push_verifications :
    (app.push self screen).verifications = app.verifications := by
  unfold push
  split <;> rfl

@[simp] theorem push_otpRequests : (app.push self screen).otpRequests = app.otpRequests := by
  unfold push
  split <;> rfl

/-- Numbers of screens are given out once. -/
theorem push_nextId : app.nextId ≤ (app.push self screen).nextId := by
  unfold push
  split
  · exact Nat.le_succ _
  · exact Nat.le_refl _

/-- A push leaves the root as it was, or puts one more view controller on the stack. -/
theorem push_root : (app.push self screen).root = app.root ∨
    (app.push self screen).root =
      .UINavigationController (⟨app.nextId, screen⟩ :: app.viewControllers) := by
  unfold push
  split
  · exact Or.inr rfl
  · exact Or.inl rfl

@[simp] theorem push_dashboard :
    (app.push self screen).root = .DashBoardTabVC ↔ app.root = .DashBoardTabVC := by
  unfold push
  split
  -- The pusher is on a stack, so the root is a navigation controller
  · rename_i hmem
    constructor
    · simp
    · intro hroot
      simp [viewControllers, hroot] at hmem
  · exact Iff.rfl

end Push

/-! ## Pops and changes of a screen -/

/-- A pop changes the stack only. -/
theorem pop_frame (app : App) : app.pop.defaults = app.defaults ∧
    app.pop.windows = app.windows ∧ app.pop.calls = app.calls ∧
    app.pop.verifications = app.verifications ∧ app.pop.otpRequests = app.otpRequests := by
  unfold pop
  split <;> exact ⟨rfl, rfl, rfl, rfl, rfl⟩

/-- A pop never leads to the dashboard or away from it. -/
theorem pop_dashboard (app : App) :
    app.pop.root = .DashBoardTabVC ↔ app.root = .DashBoardTabVC := by
  unfold pop
  split
  -- There was a screen to pop, so the root was a navigation controller and still is
  · rename_i hroot
    simp [hroot]
  · exact Iff.rfl

section Update

variable (app : App) (self : Nat) (f : Screen → Screen)

@[simp] theorem update_calls : (app.update self f).calls = app.calls := by
  unfold update
  split <;> rfl

@[simp] theorem update_verifications :
    (app.update self f).verifications = app.verifications := by
  unfold update
  split <;> rfl

@[simp] theorem update_windows : (app.update self f).windows = app.windows := by
  unfold update
  split <;> rfl

@[simp] theorem update_nextId : (app.update self f).nextId = app.nextId := by
  unfold update
  split <;> rfl

end Update

/-! ## Effects -/

section Effects

variable {app : App} {call : Call} {effects : List Effect}

/-- No effect makes a call wait or ends its wait. -/
@[simp] theorem perform_calls (e : Effect) : (app.perform call e).calls = app.calls := by
  cases e <;> simp [perform, installDashBoardTabVC]

/-- Closures of a response run to their end before anything else is started. -/
@[simp] theorem performAll_calls : (app.performAll call effects).calls = app.calls := by
  unfold performAll
  -- On the effects, the state carried along
  induction effects generalizing app with
  | nil => rfl
  | cons e rest ih => rw [List.foldl_cons, ih, perform_calls]

/-- Of the flow a response can only change the stack, the persisted values and the root. -/
theorem perform_verifications (e : Effect) :
    (app.perform call e).verifications = app.verifications := by
  cases e <;> simp [perform, installDashBoardTabVC]

/-- The effects of a response note nothing down; that was done before. -/
theorem performAll_verifications :
    (app.performAll call effects).verifications = app.verifications := by
  unfold performAll
  -- On the effects, the state carried along
  induction effects generalizing app with
  | nil => rfl
  | cons e rest ih => rw [List.foldl_cons, ih, perform_verifications]

end Effects

/-! ## A start of the process -/

section Launch

variable (defaults : UserDefaults) (verifications : List Verification)
  (otpRequests : List OTPRequest)

/-- A start of the process keeps what was persisted and forgets every call. -/
theorem launch_frame : (launch defaults verifications otpRequests).defaults = defaults ∧
    (launch defaults verifications otpRequests).calls = [] ∧
    (∃ w, (launch defaults verifications otpRequests).windows.keyWindow = some w) ∧
    (launch defaults verifications otpRequests).verifications = verifications ∧
    (launch defaults verifications otpRequests).otpRequests = otpRequests := by
  unfold launch
  split <;> exact ⟨rfl, rfl, ⟨_, rfl⟩, rfl, rfl⟩

/-- The flag alone decides whether the process starts at the dashboard. -/
theorem launch_dashboard : (launch defaults verifications otpRequests).root = .DashBoardTabVC ↔
    defaults.isUserLogIned = true := by
  unfold launch
  split
  · rename_i hflag
    simp only [hflag, iff_true]
    rfl
  · rename_i hflag
    simp [hflag]

end Launch

end App

end ThorChat.SignIn
