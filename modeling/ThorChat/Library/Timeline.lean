import Mathlib

/-!
# Timelines

Values shown one after the other, each for a time of its own, against values shown for one and
the same time `g` each. If `g` divides every time, repeating a value as often as `g` fits into its
time shows the same value at every moment (`sampled_getElem`).
-/

namespace ThorChat.Library.Timeline

universe u

variable {α : Type u}

/-- What is shown at a moment, none when everything has been shown. -/
def shownAt : List (α × Nat) → Nat → Option α
  | [], _ => none
  | (value, time) :: rest, t => if t < time then some value else shownAt rest (t - time)

/-- How long it takes to show everything. -/
def totalTime (timeline : List (α × Nat)) : Nat := (timeline.map (·.2)).sum

/-- Every value as often as `g` fits into its time. -/
def sampled (g : Nat) (timeline : List (α × Nat)) : List α :=
  timeline.flatMap fun entry => List.replicate (entry.2 / g) entry.1

theorem totalTime_cons (entry : α × Nat) (timeline : List (α × Nat)) :
    totalTime (entry :: timeline) = entry.2 + totalTime timeline :=
  List.sum_cons

theorem sampled_cons (g : Nat) (entry : α × Nat) (timeline : List (α × Nat)) :
    sampled g (entry :: timeline) =
      List.replicate (entry.2 / g) entry.1 ++ sampled g timeline :=
  List.flatMap_cons

theorem le_totalTime {timeline : List (α × Nat)} {entry : α × Nat} (h : entry ∈ timeline) :
    entry.2 ≤ totalTime timeline :=
  List.single_le_sum (fun _ _ => Nat.zero_le _) _ (List.mem_map_of_mem h)

variable {g : Nat} {timeline : List (α × Nat)}

/-- All samples together take the total time. -/
theorem length_sampled (h : ∀ entry ∈ timeline, g ∣ entry.2) :
    (sampled g timeline).length * g = totalTime timeline := by
  induction timeline with
  | nil => rw [sampled, List.flatMap_nil, List.length_nil, Nat.zero_mul]; rfl
  | cons entry timeline ih =>
    obtain ⟨hentry, hrest⟩ := List.forall_mem_cons.mp h
    rw [sampled_cons, List.length_append, List.length_replicate, Nat.add_mul, ih hrest,
      Nat.div_mul_cancel hentry, totalTime_cons]

/-- At every moment the sample on show is the value on show. -/
theorem sampled_getElem (hg : 0 < g) (h : ∀ entry ∈ timeline, g ∣ entry.2) (t : Nat) :
    (sampled g timeline)[t / g]? = shownAt timeline t := by
  induction timeline generalizing t with
  | nil => rfl
  | cons entry timeline ih =>
    obtain ⟨value, time⟩ := entry
    obtain ⟨⟨n, hn⟩, hrest⟩ := List.forall_mem_cons.mp h
    have htime : time = n * g := by rw [Nat.mul_comm]; exact hn
    have hcount : time / g = n := by rw [htime, Nat.mul_div_cancel n hg]
    rw [sampled_cons, shownAt]
    simp only [hcount]
    by_cases ht : t < time
    · -- The moment falls into one of the repetitions of the first value
      have hindex : t / g < n := (Nat.div_lt_iff_lt_mul hg).mpr (htime ▸ ht)
      rw [if_pos ht, List.getElem?_append_left (by simpa using hindex),
        List.getElem?_replicate_of_lt hindex]
    · have hindex : n ≤ t / g := (Nat.le_div_iff_mul_le hg).mpr (by omega)
      have hshift : t / g - n = (t - time) / g := by
        rw [htime, Nat.mul_comm, Nat.sub_mul_div]
      rw [if_neg ht, List.getElem?_append_right (by simpa using hindex), List.length_replicate,
        hshift, ih hrest]

end ThorChat.Library.Timeline
