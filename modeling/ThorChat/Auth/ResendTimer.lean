import ThorChat.Auth.OTPScreen

/-!
# The Resend Countdown

What the one-time-code screen shows of its countdown, and when a new code can be asked for.

One inversion lemma says what a step can do to the countdown (`step_countdown`); the invariant
`Countdown` follows from it, and the two main results from the invariant.

## Main results

- `resend_rate_limited`: one timer, one unanswered request, and 61 ticks before each request.
- `way_to_new_code_iff`: the screen keeps a way to a new code exactly as long as every resend
  request is answered with a success of status 200.
-/

namespace ThorChat.Auth

open ThorChat.Library
open ThorChat.Runtime
open ThorChat.Sources
open ThorChat.SupportFrameWorks

namespace OTPScreen

variable {P : Platform} {s s' : OTPScreen}

/-! ## What a step does to the countdown -/

/-- The two states agree on everything the countdown consists of. -/
structure SameCountdown (s s' : OTPScreen) : Prop where
  timer : s'.vc.timer = s.vc.timer
  sessionTimer : s'.vc.sessionTimer = s.vc.sessionTimer
  runLoop : s'.vc.runLoop = s.vc.runLoop
  resendbtnref : s'.vc.resendbtnref = s.vc.resendbtnref
  timerLblref : s'.vc.timerLblref = s.vc.timerLblref
  mobileNumberlblref : s'.vc.mobileNumberlblref = s.vc.mobileNumberlblref
  resends : s'.resends = s.resends

theorem SameCountdown.refl (s : OTPScreen) : SameCountdown s s :=
  ⟨rfl, rfl, rfl, rfl, rfl, rfl, rfl⟩

theorem SameCountdown.trans {s₁ s₂ s₃ : OTPScreen} (h₁ : SameCountdown s₁ s₂)
    (h₂ : SameCountdown s₂ s₃) : SameCountdown s₁ s₃ where
  timer := h₂.timer.trans h₁.timer
  sessionTimer := h₂.sessionTimer.trans h₁.sessionTimer
  runLoop := h₂.runLoop.trans h₁.runLoop
  resendbtnref := h₂.resendbtnref.trans h₁.resendbtnref
  timerLblref := h₂.timerLblref.trans h₁.timerLblref
  mobileNumberlblref := h₂.mobileNumberlblref.trans h₁.mobileNumberlblref
  resends := h₂.resends.trans h₁.resends

/-- The action of an edit is never a resend. -/
theorem edit_action {vc vc' : OTPVerificationVC} {tag : Nat} {range : Utf16.NSRange}
    {string : String} {action : Action} (h : vc.edit P tag range string = some (vc', action)) :
    action ≠ .REsendOtpValidation ∧ ∃ view otpString,
      vc' = { vc with vpmOtpViewref := view, enteredOtp := otpString } := by
  simp only [OTPVerificationVC.edit, Option.map_eq_some_iff] at h
  obtain ⟨⟨view, otpString⟩, -, h⟩ := h
  -- The delegate is called with a code, or not at all
  cases otpString with
  | none =>
    simp only [Prod.mk.injEq] at h
    obtain ⟨rfl, rfl⟩ := h
    exact ⟨by simp, view, vc.enteredOtp, rfl⟩
  | some otpString =>
    simp only [OTPVerificationVC.enteredOTP, OTPVerificationVC.verifybtnref,
      Prod.mk.injEq] at h
    obtain ⟨rfl, rfl⟩ := h
    exact ⟨by split <;> simp, view, otpString, rfl⟩

theorem edit_sameCountdown {tag : Nat} {range : Utf16.NSRange} {string : String}
    (h : s.edit P tag range string = some s') : SameCountdown s s' := by
  simp only [OTPScreen.edit, Option.map_eq_some_iff] at h
  obtain ⟨⟨vc, action⟩, hedit, rfl⟩ := h
  obtain ⟨hne, view, otpString, rfl⟩ := edit_action hedit
  cases action with
  | REsendOtpValidation => exact absurd rfl hne
  | _ => exact ⟨rfl, rfl, rfl, rfl, rfl, rfl, rfl⟩

theorem deleteBackward_sameCountdown {tag : Nat} {deleted : Option Utf16.NSRange}
    (h : s.deleteBackward P tag deleted = some s') : SameCountdown s s' := by
  cases deleted with
  | none => exact edit_sameCountdown h
  | some range =>
    -- The delete key makes two delegate calls
    obtain ⟨s₁, h₁, h₂⟩ := Option.bind_eq_some_iff.mp h
    exact (edit_sameCountdown h₁).trans (edit_sameCountdown h₂)

theorem foldl_sameCountdown {bar : Nat} {effects : List Effect}
    (h : ∀ e ∈ effects, ∀ t : OTPScreen, SameCountdown t (t.perform bar e)) (t : OTPScreen) :
    SameCountdown t (effects.foldl (perform bar) t) := by
  induction effects generalizing t with
  | nil => exact SameCountdown.refl t
  | cons e rest ih =>
    exact (h e (by simp) t).trans (ih (fun e he => h e (List.mem_cons_of_mem _ he)) _)

theorem verification_sameCountdown {bar : Nat} {answer : Answer} {effects : List Effect}
    (h : sendOtpValidation.completion answer = some effects) (t : OTPScreen) :
    SameCountdown t (effects.foldl (perform bar) t) := by
  rcases sendOtpValidation.completion_cases h with ⟨json, -, rfl⟩ | ⟨-, rest, rfl, hrest⟩
  · exact ⟨rfl, rfl, rfl, rfl, rfl, rfl, rfl⟩
  · refine foldl_sameCountdown (fun e he t => ?_) t
    have hkind : e = .initializeUI ∨ e = .hide ∨ e.isNotice = true := by
      rcases List.mem_cons.mp he with rfl | he
      · exact Or.inr (Or.inl rfl)
      · exact hrest e he
    rcases hkind with rfl | rfl | hnotice
    · exact ⟨rfl, rfl, rfl, rfl, rfl, rfl, rfl⟩
    · exact ⟨rfl, rfl, rfl, rfl, rfl, rfl, rfl⟩
    · rw [perform_notice hnotice]
      exact SameCountdown.refl t

theorem step_tapResend (h : s.vc.resendbtnref.isHidden = false) :
    step P s .tapResend =
      some (OTPScreen.act { s with vc := s.vc.ResendOtpbtnref.1 } s.vc.ResendOtpbtnref.2) := by
  simp only [step, h, Bool.false_eq_true, if_false]

/-- What the answer to an unanswered resend request does. -/
theorem step_resendAnswered {bar : Nat} {answer : Answer} (hb : bar ∈ s.resends)
    (h : step P s (.resendAnswered bar answer) = some s') :
    (REsendOtpValidation.Resent answer ∧
      s' = { s with
        windows := s.windows.hide bar
        resends := s.resends.filter (· ≠ bar)
        vc := OTPVerificationVC.start
          { s.vc with
            sessionTimer := 60
            resendbtnref := { s.vc.resendbtnref with isHidden := true } } }) ∨
    (¬ REsendOtpValidation.Resent answer ∧
      s' = { s with
        windows := s.windows.hide bar
        resends := s.resends.filter (· ≠ bar) }) := by
  simp only [step, hb, if_true, Option.map_eq_some_iff] at h
  obtain ⟨effects, hc, rfl⟩ := h
  rcases REsendOtpValidation.completion_cases hc with ⟨hr, rfl⟩ | ⟨hr, notices, rfl, hn⟩
  · exact Or.inl ⟨hr, rfl⟩
  · refine Or.inr ⟨hr, ?_⟩
    rw [List.foldl_cons, foldl_perform_notices hn]
    rfl

/-- What a step can do to the countdown: a tick, a resend, an answer to one, or nothing. -/
theorem step_countdown {e : OTPEvent} (h : step P s e = some s') :
    SameCountdown s s' ∨
    (∃ timer ∈ s.vc.runLoop, e = .fire timer ∧ s' = { s with vc := s.vc.action }) ∨
    (e = .tapResend ∧ s.vc.resendbtnref.isHidden = false ∧
      s' = OTPScreen.act { s with vc := s.vc.ResendOtpbtnref.1 } s.vc.ResendOtpbtnref.2) ∨
    (∃ bar answer, e = .resendAnswered bar answer ∧ bar ∈ s.resends ∧
      ((REsendOtpValidation.Resent answer ∧
          s' = { s with
            windows := s.windows.hide bar
            resends := s.resends.filter (· ≠ bar)
            vc := OTPVerificationVC.start
              { s.vc with
                sessionTimer := 60
                resendbtnref := { s.vc.resendbtnref with isHidden := true } } }) ∨
        (¬ REsendOtpValidation.Resent answer ∧
          s' = { s with
            windows := s.windows.hide bar
            resends := s.resends.filter (· ≠ bar) }))) := by
  cases e with
  | fire timer =>
    -- A timer that was invalidated is off the run loop and does not fire
    simp only [step] at h
    split at h <;> rw [Option.some.injEq] at h <;> subst h
    · rename_i hlive
      exact Or.inr (Or.inl ⟨timer, hlive, rfl, rfl⟩)
    · exact Or.inl (SameCountdown.refl s)
  | tapResend =>
    simp only [step] at h
    split at h <;> rw [Option.some.injEq] at h <;> subst h
    · exact Or.inl (SameCountdown.refl s)
    · rename_i hvisible
      exact Or.inr (Or.inr (Or.inl ⟨rfl, by simpa using hvisible, rfl⟩))
  | tapField tag =>
    simp only [step, Option.some.injEq] at h
    subst h
    exact Or.inl ⟨rfl, rfl, rfl, rfl, rfl, rfl, rfl⟩
  | edit tag range string => exact Or.inl (edit_sameCountdown h)
  | deleteBackward tag deleted => exact Or.inl (deleteBackward_sameCountdown h)
  | verificationAnswered bar answer =>
    simp only [step] at h
    split at h
    · obtain ⟨effects, hc, rfl⟩ := Option.map_eq_some_iff.mp h
      -- A verification changes the fields and the overlays only
      have hsettled : SameCountdown s
          { s with verifications := s.verifications.filter (· ≠ bar) } :=
        ⟨rfl, rfl, rfl, rfl, rfl, rfl, rfl⟩
      exact Or.inl (hsettled.trans (verification_sameCountdown hc _))
    · rw [Option.some.injEq] at h
      exact Or.inl (h ▸ SameCountdown.refl s)
  | resendAnswered bar answer =>
    by_cases hb : bar ∈ s.resends
    · exact Or.inr (Or.inr (Or.inr ⟨bar, answer, rfl, hb, step_resendAnswered hb h⟩))
    · simp only [step, hb, if_false, Option.some.injEq] at h
      exact Or.inl (h ▸ SameCountdown.refl s)

/-! ## The invariant -/

/-- A scheduled timer of the screen is live. -/
def Live (s : OTPScreen) : Prop := s.vc.runLoop ≠ []

/-- The resend button is visible. -/
def ResendVisible (s : OTPScreen) : Prop := s.vc.resendbtnref.isHidden = false

instance : Decidable (Live s) := inferInstanceAs (Decidable (_ ≠ _))

instance : Decidable (ResendVisible s) := inferInstanceAs (Decidable (_ = _))

/-- The resend button, a live timer and an unanswered resend request exclude each other. -/
structure Countdown (s : OTPScreen) : Prop where
  runLoop : s.vc.runLoop = [] ∨ ∃ timer, s.vc.timer = some timer ∧ s.vc.runLoop = [timer]
  nonneg : 0 ≤ s.vc.sessionTimer
  le_sixty : s.vc.sessionTimer ≤ 60
  resends_le_one : s.resends.length ≤ 1
  live_hidden : Live s → ¬ ResendVisible s
  live_answered : Live s → s.resends = []
  waiting_hidden : s.resends ≠ [] → ¬ ResendVisible s
  label : s.vc.timerLblref.isHidden = false →
    Live s ∧ s.vc.timerLblref.text = OTPVerificationVC.countdownText s.vc.sessionTimer

theorem Countdown.visible_not_live (h : Countdown s) (hv : ResendVisible s) :
    s.vc.runLoop = [] := by
  by_contra hlive
  exact h.live_hidden hlive hv

theorem Countdown.visible_answered (h : Countdown s) (hv : ResendVisible s) :
    s.resends = [] := by
  by_contra hwait
  exact h.waiting_hidden hwait hv

theorem Countdown.waiting_not_live (h : Countdown s) (hw : s.resends ≠ []) :
    s.vc.runLoop = [] := by
  by_contra hlive
  exact hw (h.live_answered hlive)

theorem Countdown.label_hidden (h : Countdown s) (hl : s.vc.runLoop = []) :
    s.vc.timerLblref.isHidden = true := by
  by_contra hshown
  exact (h.label (by simpa using hshown)).1 hl

theorem Countdown.resends_eq (h : Countdown s) {bar : Nat} (hb : bar ∈ s.resends) :
    s.resends = [bar] :=
  eq_singleton_of_mem h.resends_le_one hb

theorem Countdown.congr (h : Countdown s) (hs : SameCountdown s s') : Countdown s' where
  runLoop := by simpa only [hs.runLoop, hs.timer] using h.runLoop
  nonneg := by simpa only [hs.sessionTimer] using h.nonneg
  le_sixty := by simpa only [hs.sessionTimer] using h.le_sixty
  resends_le_one := by simpa only [hs.resends] using h.resends_le_one
  live_hidden := by
    simpa only [Live, ResendVisible, hs.runLoop, hs.resendbtnref] using h.live_hidden
  live_answered := by simpa only [Live, hs.runLoop, hs.resends] using h.live_answered
  waiting_hidden := by
    simpa only [ResendVisible, hs.resends, hs.resendbtnref] using h.waiting_hidden
  label := by
    simpa only [Live, hs.runLoop, hs.timerLblref, hs.sessionTimer] using h.label

theorem live_load (mobileNumber CustomerID : String) : Live (load mobileNumber CustomerID) :=
  List.cons_ne_nil 0 []

theorem countdown_load (mobileNumber CustomerID : String) :
    Countdown (load mobileNumber CustomerID) := by
  have hhidden : ¬ ResendVisible (load mobileNumber CustomerID) := by
    show ¬ true = false
    decide
  apply Countdown.mk
  case runLoop =>
    exact Or.inr ⟨0, rfl, rfl⟩
  case nonneg =>
    show (0 : Int) ≤ 60
    decide
  case le_sixty =>
    show (60 : Int) ≤ 60
    decide
  case resends_le_one =>
    exact Nat.zero_le 1
  case live_hidden =>
    exact fun _ => hhidden
  case live_answered =>
    exact fun _ => rfl
  case waiting_hidden =>
    exact fun _ => hhidden
  case label =>
    intro hshown
    exact absurd (show true = false from hshown) (by decide)

/-- A tick counts down, or stops the timer and shows the button. -/
theorem Countdown.tick (h : Countdown s) (hlive : Live s) :
    Countdown { s with vc := s.vc.action } := by
  obtain ⟨timer, ht, hr⟩ := h.runLoop.resolve_left hlive
  -- Above zero the tick counts down; the tick after zero stops the timer
  by_cases hpos : s.vc.sessionTimer > 0
  · have haction : s.vc.action =
        { s.vc with
          sessionTimer := s.vc.sessionTimer - 1
          resendbtnref := { s.vc.resendbtnref with isHidden := true }
          timerLblref :=
            { isHidden := false
              text := OTPVerificationVC.countdownText (s.vc.sessionTimer - 1) } } := by
      simp only [OTPVerificationVC.action, hpos, if_true]
    have hle := h.le_sixty
    rw [haction]
    apply Countdown.mk
    case runLoop =>
      exact Or.inr ⟨timer, ht, hr⟩
    case nonneg =>
      show 0 ≤ s.vc.sessionTimer - 1
      omega
    case le_sixty =>
      show s.vc.sessionTimer - 1 ≤ 60
      omega
    case resends_le_one =>
      exact h.resends_le_one
    case live_hidden =>
      exact fun _ hv => absurd hv (by simp [ResendVisible])
    case live_answered =>
      exact fun _ => h.live_answered hlive
    case waiting_hidden =>
      exact fun _ hv => absurd hv (by simp [ResendVisible])
    case label =>
      exact fun _ => ⟨hlive, rfl⟩
  · have hpaused : s.vc.action.runLoop = [] := by
      simp [OTPVerificationVC.action, hpos, OTPVerificationVC.pause, hr, ht]
    have hnot : ¬ Live { s with vc := s.vc.action } := fun hl => hl hpaused
    have hsession : s.vc.action.sessionTimer = s.vc.sessionTimer := by
      simp [OTPVerificationVC.action, hpos, OTPVerificationVC.pause]
    have hlabel : s.vc.action.timerLblref.isHidden = true := by
      simp [OTPVerificationVC.action, hpos]
    apply Countdown.mk
    case runLoop =>
      exact Or.inl hpaused
    case nonneg =>
      exact hsession ▸ h.nonneg
    case le_sixty =>
      exact hsession ▸ h.le_sixty
    case resends_le_one =>
      exact h.resends_le_one
    case live_hidden =>
      exact fun hl => absurd hl hnot
    case live_answered =>
      exact fun hl => absurd hl hnot
    case waiting_hidden =>
      exact fun hw => absurd (h.live_answered hlive) hw
    case label =>
      intro hshown
      exact absurd hshown (by rw [hlabel]; decide)

/-- A tap on the visible button hides it and sends a request, or shows an alert. -/
theorem Countdown.tap (h : Countdown s) (hv : ResendVisible s) :
    Countdown (OTPScreen.act { s with vc := s.vc.ResendOtpbtnref.1 } s.vc.ResendOtpbtnref.2) ∧
    ¬ Live (OTPScreen.act { s with vc := s.vc.ResendOtpbtnref.1 } s.vc.ResendOtpbtnref.2) ∧
    ¬ ResendVisible
      (OTPScreen.act { s with vc := s.vc.ResendOtpbtnref.1 } s.vc.ResendOtpbtnref.2) := by
  -- The button is visible, so no timer is live and no request waits
  have hrun : s.vc.runLoop = [] := h.visible_not_live hv
  have hanswered : s.resends = [] := h.visible_answered hv
  have hlabel : s.vc.timerLblref.isHidden = true := h.label_hidden hrun
  cases hvalid : s.vc.validateSignupCredentials with
  | valid =>
    simp only [OTPVerificationVC.ResendOtpbtnref, hvalid, OTPScreen.act]
    refine ⟨⟨Or.inl hrun, h.nonneg, h.le_sixty, ?_, ?_, ?_, ?_, ?_⟩, ?_, ?_⟩
    · simp [hanswered]
    · exact fun hl => absurd hrun hl
    · exact fun hl => absurd hrun hl
    · exact fun _ hvis => absurd hvis (by simp [ResendVisible])
    · intro hshown
      exact absurd hshown (by simp [hlabel])
    · exact fun hl => hl hrun
    · simp [ResendVisible]
  | invalid message =>
    simp only [OTPVerificationVC.ResendOtpbtnref, hvalid, OTPScreen.act]
    refine ⟨⟨Or.inl hrun, h.nonneg, h.le_sixty, h.resends_le_one, ?_, ?_, ?_, ?_⟩, ?_, ?_⟩
    · exact fun hl => absurd hrun hl
    · exact fun hl => absurd hrun hl
    · exact fun hw => absurd hanswered hw
    · intro hshown
      exact absurd hshown (by simp [hlabel])
    · exact fun hl => hl hrun
    · simp [ResendVisible]

/-- The state after the answer to the only resend request, when a new code was sent. -/
theorem Countdown.resent (h : Countdown s) {bar : Nat} (hb : bar ∈ s.resends) :
    Countdown { s with
      windows := s.windows.hide bar
      resends := s.resends.filter (· ≠ bar)
      vc := OTPVerificationVC.start
        { s.vc with
          sessionTimer := 60
          resendbtnref := { s.vc.resendbtnref with isHidden := true } } } := by
  have hresends : s.resends = [bar] := h.resends_eq hb
  have hrun : s.vc.runLoop = [] := h.waiting_not_live (List.ne_nil_of_mem hb)
  have hlabel : s.vc.timerLblref.isHidden = true := h.label_hidden hrun
  have hstart : OTPVerificationVC.start
      { s.vc with
        sessionTimer := 60
        resendbtnref := { s.vc.resendbtnref with isHidden := true } } =
      { s.vc with
        sessionTimer := 60
        resendbtnref := { s.vc.resendbtnref with isHidden := true }
        timer := some s.vc.nextTimer
        runLoop := [s.vc.nextTimer]
        nextTimer := s.vc.nextTimer + 1 } := by
    unfold OTPVerificationVC.start OTPVerificationVC.timerIsValid
    cases ht : s.vc.timer with
    | none => simp [hrun]
    | some timer => simp [hrun]
  rw [hstart]
  apply Countdown.mk
  case runLoop =>
    exact Or.inr ⟨s.vc.nextTimer, rfl, rfl⟩
  case nonneg =>
    show (0 : Int) ≤ 60
    decide
  case le_sixty =>
    show (60 : Int) ≤ 60
    decide
  case resends_le_one =>
    simp [hresends]
  case live_hidden =>
    exact fun _ hv => absurd hv (by simp [ResendVisible])
  case live_answered =>
    intro _
    simp [hresends]
  case waiting_hidden =>
    exact fun _ hv => absurd hv (by simp [ResendVisible])
  case label =>
    intro hshown
    exact absurd hshown (by simp [hlabel])

/-- The state after the answer to the only resend request, when no code was sent: nothing
brings the button back. -/
theorem Countdown.not_resent (h : Countdown s) {bar : Nat} (hb : bar ∈ s.resends) :
    Countdown { s with
      windows := s.windows.hide bar
      resends := s.resends.filter (· ≠ bar) } := by
  have hresends : s.resends = [bar] := h.resends_eq hb
  have hrun : s.vc.runLoop = [] := h.waiting_not_live (List.ne_nil_of_mem hb)
  apply Countdown.mk
  case runLoop =>
    exact Or.inl hrun
  case nonneg =>
    exact h.nonneg
  case le_sixty =>
    exact h.le_sixty
  case resends_le_one =>
    simp [hresends]
  case live_hidden =>
    exact fun hl => absurd hrun hl
  case live_answered =>
    exact fun hl => absurd hrun hl
  case waiting_hidden =>
    intro _
    exact h.waiting_hidden (List.ne_nil_of_mem hb)
  case label =>
    intro hshown
    exact absurd hrun (h.label hshown).1

theorem countdown_step {e : OTPEvent} (h : Countdown s) (hstep : step P s e = some s') :
    Countdown s' := by
  rcases step_countdown hstep with hsame | ⟨timer, ht, -, rfl⟩ | ⟨-, hv, rfl⟩ |
      ⟨bar, answer, -, hb, ⟨-, rfl⟩ | ⟨-, rfl⟩⟩
  · exact h.congr hsame
  · exact h.tick (List.ne_nil_of_mem ht)
  · exact (h.tap hv).1
  · exact h.resent hb
  · exact h.not_resent hb

theorem countdown_reachable {mobileNumber CustomerID : String}
    (h : Reachable (step P) (load mobileNumber CustomerID) s) : Countdown s :=
  h.invariant (countdown_load mobileNumber CustomerID) fun _ _ _ => countdown_step

/-! ## How often a new code can be asked for -/

/-- The step sends a resend request. -/
def SendsResend (P : Platform) (s : OTPScreen) (e : OTPEvent) (s' : OTPScreen) : Prop :=
  step P s e = some s' ∧ s.resends.length < s'.resends.length

/-- A resend request is sent by a tap on the visible button only. -/
theorem SendsResend.tap {e : OTPEvent} (h : SendsResend P s e s') :
    e = .tapResend ∧ ResendVisible s := by
  obtain ⟨hstep, hmore⟩ := h
  rcases step_countdown hstep with hsame | ⟨timer, -, -, rfl⟩ | ⟨rfl, hv, -⟩ |
      ⟨bar, answer, -, -, ⟨-, rfl⟩ | ⟨-, rfl⟩⟩
  · rw [hsame.resends] at hmore
    exact absurd hmore (Nat.lt_irrefl _)
  · exact absurd hmore (Nat.lt_irrefl _)
  · exact ⟨rfl, hv⟩
  · exact absurd hmore (Nat.not_lt.mpr (List.length_filter_le _ _))
  · exact absurd hmore (Nat.not_lt.mpr (List.length_filter_le _ _))

/-- The ticks of an event: one, when a scheduled timer fires. -/
def ticks (s : OTPScreen) : OTPEvent → Nat
  | .fire timer => if timer ∈ s.vc.runLoop then 1 else 0
  | _ => 0

/-- The ticks it takes at least until the resend button is visible. -/
def ticksNeeded (s : OTPScreen) : Nat :=
  if ResendVisible s then 0
  else if Live s then s.vc.sessionTimer.toNat + 1
  else 61

theorem ticksNeeded_of_visible (h : ResendVisible s) : ticksNeeded s = 0 := by
  simp only [ticksNeeded, h, if_true]

theorem ticksNeeded_of_idle (hv : ¬ ResendVisible s) (hl : ¬ Live s) : ticksNeeded s = 61 := by
  simp only [ticksNeeded, hv, hl, if_false]

theorem Countdown.ticksNeeded_of_live (h : Countdown s) (hl : Live s) :
    ticksNeeded s = s.vc.sessionTimer.toNat + 1 := by
  simp only [ticksNeeded, h.live_hidden hl, hl, if_false, if_true]

theorem ticksNeeded_congr (hs : SameCountdown s s') : ticksNeeded s' = ticksNeeded s := by
  have hv : ResendVisible s' ↔ ResendVisible s := by
    simp only [ResendVisible, hs.resendbtnref]
  have hl : Live s' ↔ Live s := by
    simp only [Live, hs.runLoop]
  simp only [ticksNeeded, hv, hl, hs.sessionTimer]

theorem Countdown.ticksNeeded_le (h : Countdown s) : ticksNeeded s ≤ 61 := by
  have hle := h.le_sixty
  unfold ticksNeeded
  split_ifs <;> omega

/-- No event brings the button closer by more than its ticks. -/
theorem ticksNeeded_step {e : OTPEvent} (h : Countdown s) (hstep : step P s e = some s') :
    ticksNeeded s ≤ ticks s e + ticksNeeded s' := by
  rcases step_countdown hstep with hsame | ⟨timer, ht, rfl, rfl⟩ | ⟨-, hv, rfl⟩ |
      ⟨bar, answer, -, hb, ⟨-, rfl⟩ | ⟨-, rfl⟩⟩
  · rw [ticksNeeded_congr hsame]
    exact Nat.le_add_left _ _
  -- A tick: the potential drops by one, and the tick costs one
  · have hlive : Live s := List.ne_nil_of_mem ht
    have htick : ticks s (.fire timer) = 1 := by simp only [ticks, ht, if_true]
    rw [h.ticksNeeded_of_live hlive, htick]
    by_cases hpos : s.vc.sessionTimer > 0
    · have hafter : Live { s with vc := s.vc.action } := by
        show s.vc.action.runLoop ≠ []
        simp only [OTPVerificationVC.action, hpos, if_true]
        exact hlive
      have hsession : s.vc.action.sessionTimer = s.vc.sessionTimer - 1 := by
        simp only [OTPVerificationVC.action, hpos, if_true]
      rw [(h.tick hlive).ticksNeeded_of_live hafter]
      show s.vc.sessionTimer.toNat + 1 ≤ 1 + (s.vc.action.sessionTimer.toNat + 1)
      rw [hsession]
      omega
    · have hnonneg := h.nonneg
      omega
  -- A tap: nothing is needed before it
  · rw [ticksNeeded_of_visible hv]
    exact Nat.zero_le _
  -- A resent code: the potential is back at its maximum
  · refine le_trans h.ticksNeeded_le (le_trans (le_of_eq ?_) (Nat.le_add_left _ _))
    simp [ticksNeeded, ResendVisible]
  -- A failed resend: neither button nor timer, before or after
  · have hidle : ¬ Live s := fun hl => hl (h.waiting_not_live (List.ne_nil_of_mem hb))
    have hhidden : ¬ ResendVisible s := h.waiting_hidden (List.ne_nil_of_mem hb)
    refine le_trans (le_of_eq ?_) (Nat.le_add_left _ _)
    rw [ticksNeeded_of_idle hhidden hidle]
    exact (ticksNeeded_of_idle hhidden hidle).symm

theorem ticksNeeded_le_spent {es : List OTPEvent} {t : OTPScreen} (h : Countdown s)
    (hrun : run (step P) s es = some t) :
    ticksNeeded s ≤ spent (step P) ticks s es + ticksNeeded t :=
  need_le_spent (fun _ _ _ => countdown_step) (fun _ _ _ => ticksNeeded_step) h hrun

/-- After a resend request 61 ticks are needed for the next. -/
theorem SendsResend.ticksNeeded {e : OTPEvent} (hs : Countdown s) (h : SendsResend P s e s') :
    ticksNeeded s' = 61 := by
  obtain ⟨rfl, hv⟩ := h.tap
  obtain ⟨-, hlive, hhidden⟩ := hs.tap hv
  have hstep := h.1
  rw [step_tapResend hv, Option.some.injEq] at hstep
  exact hstep ▸ ticksNeeded_of_idle hhidden hlive

/-- **The resend rate limit.** In every state the screen gets to there is at most one live
timer and one unanswered resend request, the countdown lies between 0 and 60, and a visible
timer label shows it while a timer is live. Before the first resend request, and between any
two, at least 61 ticks happen. -/
theorem resend_rate_limited (P : Platform) (mobileNumber CustomerID : String)
    (es : List OTPEvent) (s : OTPScreen)
    (h : run (step P) (load mobileNumber CustomerID) es = some s) :
    (s.vc.runLoop.length ≤ 1 ∧ s.resends.length ≤ 1 ∧
      0 ≤ s.vc.sessionTimer ∧ s.vc.sessionTimer ≤ 60 ∧
      (s.vc.timerLblref.isHidden = false →
        Live s ∧ s.vc.timerLblref.text =
          "Resend code in " ++ (StopWatch.mk s.vc.sessionTimer).simpleTimeString)) ∧
    (∀ e s₁, SendsResend P s e s₁ →
      61 ≤ spent (step P) ticks (load mobileNumber CustomerID) es) ∧
    (∀ e s₁ es' t e' t', SendsResend P s e s₁ → run (step P) s₁ es' = some t →
      SendsResend P t e' t' → 61 ≤ spent (step P) ticks s₁ es') := by
  have hload : Countdown (load mobileNumber CustomerID) := countdown_load _ _
  have hs : Countdown s := countdown_reachable ⟨es, h⟩
  have hlabel : s.vc.timerLblref.isHidden = false → Live s ∧ s.vc.timerLblref.text =
      "Resend code in " ++ (StopWatch.mk s.vc.sessionTimer).simpleTimeString := hs.label
  refine ⟨⟨?_, hs.resends_le_one, hs.nonneg, hs.le_sixty, hlabel⟩, ?_, ?_⟩
  · rcases hs.runLoop with hr | ⟨timer, -, hr⟩ <;> simp [hr]
  · intro e s₁ hsend
    have hstart : ticksNeeded (load mobileNumber CustomerID) = 61 :=
      hload.ticksNeeded_of_live (live_load _ _)
    have hend : ticksNeeded s = 0 := ticksNeeded_of_visible hsend.tap.2
    -- The run paid for the whole potential, from 61 to 0
    have hspent := ticksNeeded_le_spent hload h
    omega
  · intro e s₁ es' t e' t' hsend hrun hsend'
    have hstart : ticksNeeded s₁ = 61 := hsend.ticksNeeded hs
    have hend : ticksNeeded t = 0 := ticksNeeded_of_visible hsend'.tap.2
    have hspent := ticksNeeded_le_spent (countdown_step hs hsend.1) hrun
    omega

/-- After 61 ticks the first resend request is sent. -/
theorem resend_rate_limited_at_61 :
    ∃ s s₁, run (step (.sample [])) (load "+1 2025550100" "7") (List.replicate 61 (.fire 0)) =
        some s ∧
      SendsResend (.sample []) s .tapResend s₁ ∧
      61 ≤ spent (step (.sample [])) ticks (load "+1 2025550100" "7")
        (List.replicate 61 (.fire 0)) := by
  have hrun : ∃ s s₁, run (step (.sample [])) (load "+1 2025550100" "7")
      (List.replicate 61 (.fire 0)) = some s ∧ SendsResend (.sample []) s .tapResend s₁ :=
    ⟨_, _, rfl, rfl, by decide⟩
  obtain ⟨s, s₁, hs, hsend⟩ := hrun
  exact ⟨s, s₁, hs, hsend,
    (resend_rate_limited (.sample []) "+1 2025550100" "7" _ s hs).2.1 _ _ hsend⟩

/-! ## The way to a new code -/

/-- The resend button is visible, or a timer is live that will show it, or a resend request is
still unanswered. -/
def WayToNewCode (s : OTPScreen) : Prop :=
  ResendVisible s ∨ Live s ∨ s.resends ≠ []

instance : Decidable (WayToNewCode s) := inferInstanceAs (Decidable (_ ∨ _ ∨ _))

/-- The event does not spoil the way to a new code: an answer to a resend request is a success
whose body has status 200, and the button is not tapped while the number label is empty. -/
def KeepsWay (s : OTPScreen) : OTPEvent → Prop
  | .resendAnswered bar answer => bar ∈ s.resends → REsendOtpValidation.Resent answer
  | .tapResend => ResendVisible s → s.vc.mobileNumberlblref.text ≠ ""
  | _ => True

theorem validateSignupCredentials_eq_valid {vc : OTPVerificationVC} :
    vc.validateSignupCredentials = .valid ↔ vc.mobileNumberlblref.text ≠ "" := by
  unfold OTPVerificationVC.validateSignupCredentials
  split <;> simp_all

theorem wayToNewCode_congr (hs : SameCountdown s s') : WayToNewCode s' ↔ WayToNewCode s := by
  simp only [WayToNewCode, ResendVisible, Live, hs.resendbtnref, hs.runLoop, hs.resends]

/-- A live timer keeps ticking until it shows the button. -/
theorem Countdown.wayToNewCode_tick (hlive : Live s) :
    WayToNewCode { s with vc := s.vc.action } := by
  by_cases hpos : s.vc.sessionTimer > 0
  · refine Or.inr (Or.inl ?_)
    show s.vc.action.runLoop ≠ []
    simp only [OTPVerificationVC.action, hpos, if_true]
    exact hlive
  · apply Or.inl
    show s.vc.action.resendbtnref.isHidden = false
    simp only [OTPVerificationVC.action, hpos, if_false]

theorem live_start (vc : OTPVerificationVC) (h : vc.runLoop = []) : vc.start.runLoop ≠ [] := by
  -- `start` schedules a timer unless the one it knows is on the run loop
  have hinvalid : vc.timerIsValid = false := by
    unfold OTPVerificationVC.timerIsValid
    cases vc.timer <;> simp [h]
  simp [OTPVerificationVC.start, hinvalid]

/-- An event that does not spoil the way keeps it. -/
theorem wayToNewCode_step {e : OTPEvent} (hs : Countdown s) (hw : WayToNewCode s)
    (hgood : KeepsWay s e) (hstep : step P s e = some s') : WayToNewCode s' := by
  rcases step_countdown hstep with hsame | ⟨timer, ht, -, rfl⟩ | ⟨rfl, hv, rfl⟩ |
      ⟨bar, answer, rfl, hb, ⟨-, rfl⟩ | ⟨hr, -⟩⟩
  · exact (wayToNewCode_congr hsame).mpr hw
  · exact Countdown.wayToNewCode_tick (List.ne_nil_of_mem ht)
  · have hvalid : s.vc.validateSignupCredentials = .valid :=
      validateSignupCredentials_eq_valid.mpr (hgood hv)
    refine Or.inr (Or.inr ?_)
    simp [OTPVerificationVC.ResendOtpbtnref, hvalid, OTPScreen.act]
  · exact Or.inr (Or.inl (live_start _ (hs.waiting_not_live (List.ne_nil_of_mem hb))))
  · exact absurd (hgood hb) hr

/-- An event that spoils the way leaves none at once. -/
theorem not_wayToNewCode_step {e : OTPEvent} (hs : Countdown s) (hbad : ¬ KeepsWay s e)
    (hstep : step P s e = some s') : ¬ WayToNewCode s' := by
  cases e with
  | resendAnswered bar answer =>
    simp only [KeepsWay, Classical.not_imp] at hbad
    obtain ⟨hb, hnot⟩ := hbad
    have hwait : s.resends ≠ [] := List.ne_nil_of_mem hb
    obtain ⟨hr, -⟩ | ⟨-, rfl⟩ := step_resendAnswered hb hstep
    · exact absurd hr hnot
    · rintro (hv | hl | hw)
      · exact hs.waiting_hidden hwait hv
      · exact hl (hs.waiting_not_live hwait)
      · exact hw (by simp [hs.resends_eq hb])
  | tapResend =>
    simp only [KeepsWay, Classical.not_imp, not_not] at hbad
    obtain ⟨hv, hempty⟩ := hbad
    -- The tap hides the button before the number is validated
    obtain ⟨-, hlive, hhidden⟩ := hs.tap hv
    rw [step_tapResend hv, Option.some.injEq] at hstep
    subst hstep
    rintro (hv' | hl | hw)
    · exact hhidden hv'
    · exact hlive hl
    · have hvalid : s.vc.validateSignupCredentials = .invalid "Something went Wrong" := by
        simp [OTPVerificationVC.validateSignupCredentials, hempty]
      simp only [OTPVerificationVC.ResendOtpbtnref, hvalid, OTPScreen.act] at hw
      exact hw (hs.visible_answered hv)
  | _ => exact absurd trivial hbad

/-- From a live timer's next ticks alone the button becomes visible. -/
theorem Countdown.run_fires {timer : Nat} (hs : Countdown s) (ht : timer ∈ s.vc.runLoop) :
    ∃ t, run (step P) s (List.replicate (s.vc.sessionTimer.toNat + 1) (.fire timer)) = some t ∧
      ResendVisible t := by
  -- Induction on the seconds left; the last tick of the run is the one after zero
  generalize hn : s.vc.sessionTimer.toNat = n
  induction n generalizing s with
  | zero =>
    have hzero : ¬ s.vc.sessionTimer > 0 := by omega
    refine ⟨{ s with vc := s.vc.action }, ?_, ?_⟩
    · simp [run, step, ht]
    · show s.vc.action.resendbtnref.isHidden = false
      simp only [OTPVerificationVC.action, hzero, if_false]
  | succ n ih =>
    have hpos : s.vc.sessionTimer > 0 := by omega
    have hsession : s.vc.action.sessionTimer = s.vc.sessionTimer - 1 := by
      simp only [OTPVerificationVC.action, hpos, if_true]
    have hrunLoop : s.vc.action.runLoop = s.vc.runLoop := by
      simp only [OTPVerificationVC.action, hpos, if_true]
    have hstep : step P s (.fire timer) = some { s with vc := s.vc.action } := by
      simp only [step, ht, if_true]
    obtain ⟨t, hrun, hv⟩ := ih (s := { s with vc := s.vc.action })
      (hs.tick (List.ne_nil_of_mem ht)) (by rw [hrunLoop]; exact ht)
      (by rw [hsession]; omega)
    refine ⟨t, ?_, hv⟩
    rw [List.replicate_succ, run_cons hstep]
    exact hrun

/-- **When the screen keeps a way to a new code**: exactly as long as every answer to a resend
request is a success whose body has status 200, and the button is not tapped under an empty
number label. A live timer does show the button. -/
theorem way_to_new_code_iff (P : Platform) (mobileNumber CustomerID : String)
    (es : List OTPEvent) :
    (Always (step P) WayToNewCode (load mobileNumber CustomerID) es ↔
      EachStep (step P) KeepsWay (load mobileNumber CustomerID) es) ∧
    (∀ s, run (step P) (load mobileNumber CustomerID) es = some s →
      ∀ timer ∈ s.vc.runLoop, ∃ t,
        run (step P) s (List.replicate (s.vc.sessionTimer.toNat + 1) (.fire timer)) = some t ∧
          ResendVisible t) := by
  constructor
  -- The countdown invariant rides along: the step that spoils the way needs it
  · refine always_iff_eachStep (I := fun s => Countdown s ∧ WayToNewCode s) (fun s h => h.2)
      ?_ ?_ ⟨countdown_load _ _, Or.inr (Or.inl (live_load _ _))⟩ es
    · exact fun s e s' h hgood hstep =>
        ⟨countdown_step h.1 hstep, wayToNewCode_step h.1 h.2 hgood hstep⟩
    · exact fun s e s' h hbad hstep => not_wayToNewCode_step h.1 hbad hstep
  · intro s hrun timer ht
    exact (countdown_reachable ⟨es, hrun⟩).run_fires ht

/-- A resend request that fails once the countdown has run out takes the way away: no button,
no timer, no request. -/
theorem way_to_new_code_lost :
    ∃ s, run (step (.sample [])) (load "+1 2025550100" "7")
        (List.replicate 61 (.fire 0) ++
          [.tapResend, .resendAnswered 0 ⟨false, .string "", "check_Your_Internet_Connection"⟩]) =
        some s ∧
      ¬ WayToNewCode s :=
  ⟨_, rfl, by decide⟩

end OTPScreen

end ThorChat.Auth
