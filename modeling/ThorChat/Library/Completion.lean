import Mathlib.Logic.Basic

/-!
# Procedures that Answer through a Completion Closure

A procedure of this kind returns nothing: it reports to its caller by running a closure
it was given. The closure works on a state of the caller's choice, so the procedure is
polymorphic in that state; `none` stands for a trap.

Running the procedure with the closure that only records what it is given tells how often
and with what the closure is run (`Procedure.calls`).
-/

namespace ThorChat.Library

/-- A procedure reporting values of type `α` through a completion closure. -/
def Procedure (α : Type) : Type 1 :=
  (σ : Type) → (α → σ → Option σ) → σ → Option σ

namespace Procedure

variable {α : Type} {p : Procedure α} {a : α}

/-- The values the closure is run with, in order; `none` when the procedure traps. -/
def calls (p : Procedure α) : Option (List α) :=
  p (List α) (fun a log => some (log ++ [a])) []

/-- The closure is run exactly once, and nothing traps. -/
def CompletesOnce (p : Procedure α) : Prop :=
  ∃ a, p.calls = some [a]

/-- Whatever the closure, the procedure runs it on `a` and does nothing else. -/
def Answers (p : Procedure α) (a : α) : Prop :=
  ∀ (σ : Type) (k : α → σ → Option σ) (s : σ), p σ k s = k a s

/-- Whatever the closure, the procedure returns without running it. -/
def Silent (p : Procedure α) : Prop :=
  ∀ (σ : Type) (k : α → σ → Option σ) (s : σ), p σ k s = some s

/-- Whatever the closure, the procedure traps before it runs it. -/
def Traps (p : Procedure α) : Prop :=
  ∀ (σ : Type) (k : α → σ → Option σ) (s : σ), p σ k s = none

theorem Answers.calls (h : p.Answers a) : p.calls = some [a] := by
  unfold Procedure.calls
  rw [h]
  rfl

theorem Silent.calls (h : p.Silent) : p.calls = some [] := h _ _ _

theorem Traps.calls (h : p.Traps) : p.calls = none := h _ _ _

theorem Answers.completesOnce (h : p.Answers a) : p.CompletesOnce :=
  ⟨a, h.calls⟩

theorem Silent.not_completesOnce (h : p.Silent) : ¬ p.CompletesOnce := by
  rintro ⟨a, ha⟩
  rw [h.calls] at ha
  simp at ha

theorem Traps.not_completesOnce (h : p.Traps) : ¬ p.CompletesOnce := by
  rintro ⟨a, ha⟩
  rw [h.calls] at ha
  simp at ha

end Procedure

end ThorChat.Library
