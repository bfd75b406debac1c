import Mathlib.Order.Basic
import Mathlib.Data.List.Basic
import Mathlib.Data.List.Induction

/-!
# Event-Driven Systems with Traps

A deterministic system consumes events one at a time: `step s e = some s'` when the
event is handled, `step s e = none` when handling it traps, so that the run ends there.

## What is proved once here

- **Invariants**: a predicate kept by every step holds in every reachable state.
- **Histories**: so does one that also speaks of the events so far (`run_history`).
- **Conditional invariants**: a predicate kept by the steps that meet a condition holds
  along every run whose steps meet it (`always_of_eachStep`).
- **Exact conditions**: if moreover every step that misses the condition breaks the
  property at once, the condition is exact (`always_iff_eachStep`).
- **Totality**: a run of events that do not trap in the states of an invariant has an end
  (`run_total`).
- **Costs**: a need that no step lowers by more than its cost bounds the cost of a run
  (`need_le_spent`).
-/

namespace ThorChat.Library

universe u v

variable {σ : Type u} {ε : Type v}

/-! ## Runs -/

/-- The state after a list of events, `none` as soon as one of them traps. -/
def run (step : σ → ε → Option σ) (s : σ) : List ε → Option σ
  | [] => some s
  | e :: es => (step s e).bind fun s' => run step s' es

@[simp] theorem run_nil (step : σ → ε → Option σ) (s : σ) : run step s [] = some s := rfl

theorem run_cons {step : σ → ε → Option σ} {s s' : σ} {e : ε} (h : step s e = some s')
    (es : List ε) : run step s (e :: es) = run step s' es := by
  simp only [run, h, Option.bind_some]

theorem run_cons_eq_some {step : σ → ε → Option σ} {s t : σ} {e : ε} {es : List ε} :
    run step s (e :: es) = some t ↔ ∃ s', step s e = some s' ∧ run step s' es = some t := by
  simp only [run, Option.bind_eq_some_iff]

/-- A state some list of events leads to. -/
def Reachable (step : σ → ε → Option σ) (s₀ s : σ) : Prop :=
  ∃ es, run step s₀ es = some s

/-- A predicate that holds initially and is kept by every step holds in every reachable
state. -/
theorem Reachable.invariant {step : σ → ε → Option σ} {I : σ → Prop} {s₀ s : σ}
    (hr : Reachable step s₀ s) (h₀ : I s₀)
    (hstep : ∀ s e s', I s → step s e = some s' → I s') : I s := by
  obtain ⟨es, hes⟩ := hr
  induction es generalizing s₀ with
  | nil =>
    simp only [run_nil, Option.some.injEq] at hes
    exact hes ▸ h₀
  | cons e es ih =>
    obtain ⟨s', hs', hes'⟩ := run_cons_eq_some.mp hes
    exact ih (hstep s₀ e s' h₀ hs') hes'

/-! ## Histories -/

theorem run_append_eq_some {step : σ → ε → Option σ} {s t : σ} {es es' : List ε} :
    run step s (es ++ es') = some t ↔
      ∃ s', run step s es = some s' ∧ run step s' es' = some t := by
  induction es generalizing s with
  | nil => simp
  | cons e es ih =>
    rw [List.cons_append, run_cons_eq_some]
    constructor
    · rintro ⟨s₁, hs₁, hrest⟩
      obtain ⟨s', hs', ht⟩ := ih.mp hrest
      exact ⟨s', by rw [run_cons hs₁, hs'], ht⟩
    · rintro ⟨s', hs', ht⟩
      obtain ⟨s₁, hs₁, hrest⟩ := run_cons_eq_some.mp hs'
      exact ⟨s₁, hs₁, ih.mpr ⟨s', hrest, ht⟩⟩

/-- A predicate of the events so far and of the state they led to holds at the end of a run, if
it holds before the first event and every step of the run keeps it. -/
theorem run_history {step : σ → ε → Option σ} {I : List ε → σ → Prop} {s₀ t : σ} {es : List ε}
    (hrun : run step s₀ es = some t) (h₀ : I [] s₀)
    (hstep : ∀ es s e s', run step s₀ es = some s → I es s → step s e = some s' →
      I (es ++ [e]) s') : I es t := by
  -- Induction from the last event back, so that what came before it is a run again
  induction es using List.reverseRecOn generalizing t with
  | nil =>
    rw [run_nil, Option.some.injEq] at hrun
    exact hrun ▸ h₀
  | append_singleton es e ih =>
    obtain ⟨s, hs, hlast⟩ := run_append_eq_some.mp hrun
    obtain ⟨s', hs', hnil⟩ := run_cons_eq_some.mp hlast
    rw [run_nil, Option.some.injEq] at hnil
    exact hnil ▸ hstep es s e s' hs (ih hs) hs'

/-! ## Properties of all states and conditions on all steps of a run -/

/-- `P` holds in every state of the run. -/
def Always (step : σ → ε → Option σ) (P : σ → Prop) (s : σ) : List ε → Prop
  | [] => P s
  | e :: es => P s ∧ ∀ s', step s e = some s' → Always step P s' es

/-- Every step the run takes meets the condition `good`, stated about the state before the
step and its event. -/
def EachStep (step : σ → ε → Option σ) (good : σ → ε → Prop) (s : σ) : List ε → Prop
  | [] => True
  | e :: es => ∀ s', step s e = some s' → good s e ∧ EachStep step good s' es

/-- Along a given run both can be evaluated. -/
instance Always.decide (step : σ → ε → Option σ) (P : σ → Prop) [DecidablePred P] :
    ∀ (s : σ) (es : List ε), Decidable (Always step P s es)
  | s, [] => inferInstanceAs (Decidable (P s))
  | s, e :: es =>
    match hs : step s e with
    | none => decidable_of_iff (P s) (by simp [Always, hs])
    | some s' =>
      have := Always.decide step P s' es
      decidable_of_iff (P s ∧ Always step P s' es) (by simp [Always, hs])

instance EachStep.decide (step : σ → ε → Option σ) (good : σ → ε → Prop)
    [∀ s e, Decidable (good s e)] : ∀ (s : σ) (es : List ε), Decidable (EachStep step good s es)
  | _, [] => isTrue trivial
  | s, e :: es =>
    match hs : step s e with
    | none => isTrue (by simp [EachStep, hs])
    | some s' =>
      have := EachStep.decide step good s' es
      decidable_of_iff (good s e ∧ EachStep step good s' es) (by simp [EachStep, hs])

/-- `Always` speaks of exactly the states that the prefixes of the run lead to. -/
theorem always_iff_prefix {step : σ → ε → Option σ} {P : σ → Prop} {s : σ} {es : List ε} :
    Always step P s es ↔ ∀ es' t, es' <+: es → run step s es' = some t → P t := by
  induction es generalizing s with
  | nil =>
    constructor
    · intro h es' t hp ht
      rw [List.prefix_nil.mp hp, run_nil, Option.some.injEq] at ht
      exact ht ▸ h
    · intro h
      exact h [] s (List.prefix_refl _) rfl
  | cons e es ih =>
    constructor
    · rintro ⟨hs, hrest⟩ es' t hp ht
      rcases es' with _ | ⟨e', es'⟩
      · rw [run_nil, Option.some.injEq] at ht
        exact ht ▸ hs
      · obtain ⟨rfl, hp'⟩ := List.cons_prefix_cons.mp hp
        obtain ⟨s', hs', ht'⟩ := run_cons_eq_some.mp ht
        exact ih.mp (hrest s' hs') es' t hp' ht'
    · intro h
      refine ⟨h [] s List.nil_prefix rfl, fun s' hs' => ih.mpr ?_⟩
      intro es' t hp ht
      exact h (e :: es') t (List.cons_prefix_cons.mpr ⟨rfl, hp⟩) (by rw [run_cons hs', ht])

/-- The last state of a run is one of its states. -/
theorem Always.last {step : σ → ε → Option σ} {P : σ → Prop} {s t : σ} {es : List ε}
    (h : Always step P s es) (ht : run step s es = some t) : P t :=
  always_iff_prefix.mp h es t (List.prefix_refl _) ht

/-- An invariant of the steps that meet `good` holds in every state of a run whose steps
all meet it. -/
theorem always_of_eachStep {step : σ → ε → Option σ} {good : σ → ε → Prop} {I : σ → Prop}
    (hstep : ∀ s e s', I s → good s e → step s e = some s' → I s')
    {s : σ} (h₀ : I s) {es : List ε} (h : EachStep step good s es) : Always step I s es := by
  induction es generalizing s with
  | nil => exact h₀
  | cons e es ih =>
    refine ⟨h₀, fun s' hs' => ?_⟩
    obtain ⟨hgood, hrest⟩ := h s' hs'
    exact ih (hstep s e s' h₀ hgood hs') hrest

theorem Always.mono {step : σ → ε → Option σ} {P Q : σ → Prop} (hPQ : ∀ s, P s → Q s)
    {s : σ} {es : List ε} (h : Always step P s es) : Always step Q s es := by
  induction es generalizing s with
  | nil => exact hPQ s h
  | cons e es ih => exact ⟨hPQ s h.1, fun s' hs' => ih (h.2 s' hs')⟩

/-- **Exact conditions.** If steps that meet `good` keep the invariant `I`, which implies `P`,
and a step from an `I` state that misses `good` breaks `P`, then `P` holds throughout a run
exactly when all its steps meet `good`. -/
theorem always_iff_eachStep {step : σ → ε → Option σ} {good : σ → ε → Prop} {I P : σ → Prop}
    (hP : ∀ s, I s → P s)
    (hstep : ∀ s e s', I s → good s e → step s e = some s' → I s')
    (hbreak : ∀ s e s', I s → ¬ good s e → step s e = some s' → ¬ P s')
    {s : σ} (h₀ : I s) (es : List ε) : Always step P s es ↔ EachStep step good s es := by
  constructor
  · intro h
    induction es generalizing s with
    | nil => exact trivial
    | cons e es ih =>
      intro s' hs'
      -- A step that missed the condition would break `P` right here
      have htail : Always step P s' es := h.2 s' hs'
      have hnow : P s' := always_iff_prefix.mp htail [] s' List.nil_prefix rfl
      have hgood : good s e := by
        by_contra hbad
        exact hbreak s e s' h₀ hbad hs' hnow
      exact ⟨hgood, ih (hstep s e s' h₀ hgood hs') htail⟩
  · intro h
    exact (always_of_eachStep hstep h₀ h).mono hP

/-! ## Runs that do not trap -/

/-- Every event of a run meets `possible` in the state in which it happens. -/
def Throughout (step : σ → ε → Option σ) (possible : σ → ε → Prop) (s : σ) : List ε → Prop
  | [] => True
  | e :: es => possible s e ∧ ∀ s', step s e = some s' → Throughout step possible s' es

/-- If no possible event traps in a state of an invariant it keeps, no run of possible events
traps. -/
theorem run_total {step : σ → ε → Option σ} {possible : σ → ε → Prop} {I : σ → Prop}
    (hstep : ∀ s e, I s → possible s e → ∃ s', step s e = some s' ∧ I s')
    {s : σ} (h₀ : I s) {es : List ε} (h : Throughout step possible s es) :
    ∃ t, run step s es = some t ∧ I t := by
  induction es generalizing s with
  | nil => exact ⟨s, rfl, h₀⟩
  | cons e es ih =>
    obtain ⟨hpossible, hrest⟩ := h
    obtain ⟨s', hs', hI⟩ := hstep s e h₀ hpossible
    rw [run_cons hs']
    exact ih hI (hrest s' hs')

/-! ## Costs along a run -/

/-- The cost of a run: the sum of the costs of its steps. -/
def spent (step : σ → ε → Option σ) (cost : σ → ε → Nat) (s : σ) : List ε → Nat
  | [] => 0
  | e :: es => cost s e + (match step s e with
    | some s' => spent step cost s' es
    | none => 0)

/-- If no step lowers `need` by more than its cost, the need at the start of a run is met by
what the run spends and what is still needed at its end. -/
theorem need_le_spent {step : σ → ε → Option σ} {cost : σ → ε → Nat} {need : σ → Nat}
    {I : σ → Prop} (hstep : ∀ s e s', I s → step s e = some s' → I s')
    (hneed : ∀ s e s', I s → step s e = some s' → need s ≤ cost s e + need s')
    {s t : σ} (h₀ : I s) {es : List ε} (ht : run step s es = some t) :
    need s ≤ spent step cost s es + need t := by
  induction es generalizing s with
  | nil =>
    rw [run_nil, Option.some.injEq] at ht
    simp only [ht, spent, Nat.zero_add, Nat.le_refl]
  | cons e es ih =>
    obtain ⟨s', hs', ht'⟩ := run_cons_eq_some.mp ht
    -- The step pays for what it takes off the need, the rest of the run for the rest
    have hhere : need s ≤ cost s e + need s' := hneed s e s' h₀ hs'
    have hthere : need s' ≤ spent step cost s' es + need t := ih (hstep s e s' h₀ hs') ht'
    simp only [spent, hs']
    omega

end ThorChat.Library
