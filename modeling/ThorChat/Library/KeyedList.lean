import Mathlib.Data.List.Nodup
import Mathlib.Logic.Function.Basic

/-!
# Lists with a Key

A list whose entries have a key, at most one entry for each: putting an entry replaces the one
with its key where it stands or goes to the end, and removing one leaves the others in order.
Seen through its lookups such a list is a finite map, and the two operations are updates of it
(`lookup_upsert`, `lookup_eraseKey`); a permutation of it is the same map (`lookup_perm`).
-/

namespace ThorChat.Library.KeyedList

universe u v

variable {α : Type u} {κ : Type v} [DecidableEq κ] (key : α → κ)

/-- No two entries have the same key. -/
def Distinct (xs : List α) : Prop := (xs.map key).Nodup

instance (xs : List α) : Decidable (Distinct key xs) :=
  inferInstanceAs (Decidable (xs.map key).Nodup)

/-- The first entry with a key. -/
def lookup (xs : List α) (k : κ) : Option α := xs.find? fun x => key x = k

/-- Replace the entry with the key of `x`, or append `x`. -/
def upsert (x : α) : List α → List α
  | [] => [x]
  | y :: ys => if key y = key x then x :: ys else y :: upsert x ys

/-- Remove the first entry with a key. -/
def eraseKey (k : κ) : List α → List α
  | [] => []
  | y :: ys => if key y = k then ys else y :: eraseKey k ys

/-! ## By index -/

theorem upsert_eq_set (x : α) (xs : List α) :
    upsert key x xs =
      match xs.findIdx? (fun y => key y = key x) with
      | none => xs ++ [x]
      | some i => xs.set i x := by
  induction xs with
  | nil => rfl
  | cons y ys ih =>
    rw [upsert, List.findIdx?_cons]
    by_cases hy : key y = key x
    · simp [hy]
    · simp only [hy, decide_false, if_false, Bool.false_eq_true, ih]
      cases ys.findIdx? (fun y => key y = key x) with
      | none => rfl
      | some i => rfl

theorem eraseKey_eq_eraseIdx (k : κ) (xs : List α) :
    eraseKey key k xs =
      match xs.findIdx? (fun y => key y = k) with
      | none => xs
      | some i => xs.eraseIdx i := by
  induction xs with
  | nil => rfl
  | cons y ys ih =>
    rw [eraseKey, List.findIdx?_cons]
    by_cases hy : key y = k
    · simp [hy]
    · simp only [hy, decide_false, if_false, Bool.false_eq_true, ih]
      cases ys.findIdx? (fun y => key y = k) with
      | none => rfl
      | some i => rfl

theorem lookup_eq_getElem (xs : List α) (k : κ) :
    lookup key xs k = (xs.findIdx? fun x => key x = k).bind fun i => xs[i]? := by
  induction xs with
  | nil => rfl
  | cons y ys ih =>
    rw [lookup, List.find?_cons, List.findIdx?_cons]
    by_cases hy : key y = k
    · simp [hy]
    · simp only [hy, decide_false]
      rw [← lookup, ih]
      cases ys.findIdx? (fun x => key x = k) with
      | none => rfl
      | some i => rfl

/-! ## Keys -/

variable {key}

theorem lookup_eq_none_iff {xs : List α} {k : κ} : lookup key xs k = none ↔ k ∉ xs.map key := by
  simp [lookup]

theorem key_of_lookup {xs : List α} {k : κ} {x : α} (h : lookup key xs k = some x) :
    x ∈ xs ∧ key x = k :=
  ⟨List.mem_of_find?_eq_some h, by simpa using List.find?_some h⟩

/-- Putting an entry keeps the order of the keys, and a new key comes last. -/
theorem map_key_upsert (x : α) (xs : List α) :
    (upsert key x xs).map key =
      if key x ∈ xs.map key then xs.map key else xs.map key ++ [key x] := by
  induction xs with
  | nil => rfl
  | cons y ys ih =>
    rw [upsert]
    -- The head is replaced, which keeps its key, or the entry goes into the tail
    by_cases hy : key y = key x
    · simp [hy]
    · rw [if_neg hy, List.map_cons, ih]
      simp only [List.map_cons, List.mem_cons, Ne.symm hy, false_or]
      split
      · rfl
      · rfl

/-- Removing an entry keeps the order of the others. -/
theorem map_key_eraseKey (k : κ) (xs : List α) :
    (eraseKey key k xs).map key = (xs.map key).erase k := by
  induction xs with
  | nil => rfl
  | cons y ys ih =>
    rw [eraseKey, List.map_cons]
    by_cases hy : key y = k
    · simp [hy]
    · rw [if_neg hy, List.map_cons, ih, List.erase_cons_tail (by simpa using hy)]

omit [DecidableEq κ] in
/-- Entries with distinct keys are distinct by any finer key. -/
theorem Distinct.finer {ι : Type*} {fine : α → ι} {xs : List α} (h : Distinct key xs)
    (hfine : ∀ x y, fine x = fine y → key x = key y) : Distinct fine xs :=
  List.pairwise_map.mpr ((List.pairwise_map.mp h).imp fun hne heq => hne (hfine _ _ heq))

theorem distinct_upsert {xs : List α} (h : Distinct key xs) (x : α) :
    Distinct key (upsert key x xs) := by
  rw [Distinct, map_key_upsert]
  split
  · exact h
  · rename_i hx
    rw [List.nodup_append]
    refine ⟨h, List.nodup_singleton _, ?_⟩
    intro k hk k' hk'
    obtain rfl := List.mem_singleton.mp hk'
    exact ne_of_mem_of_not_mem hk hx

theorem distinct_eraseKey {xs : List α} (h : Distinct key xs) (k : κ) :
    Distinct key (eraseKey key k xs) := by
  rw [Distinct, map_key_eraseKey]
  exact List.Nodup.erase k h

/-! ## The map behind the list -/

theorem lookup_nil (k : κ) : lookup key [] k = none := rfl

theorem lookup_cons (x : α) (xs : List α) (k : κ) :
    lookup key (x :: xs) k = if key x = k then some x else lookup key xs k := by
  rw [lookup, List.find?_cons]
  by_cases hx : key x = k
  · simp [hx]
  · rw [if_neg hx, decide_eq_false hx]
    rfl

/-- Putting an entry is an update of the map. -/
theorem lookup_upsert (x : α) (xs : List α) :
    lookup key (upsert key x xs) = Function.update (lookup key xs) (key x) (some x) := by
  funext k
  induction xs with
  | nil =>
    rw [upsert, lookup_cons]
    -- Under the key that is put, and under any other
    by_cases hk : key x = k
    · rw [if_pos hk, ← hk, Function.update_self]
    · rw [if_neg hk, Function.update_of_ne (Ne.symm hk)]
  | cons y ys ih =>
    rw [upsert]
    by_cases hk : k = key x
    · subst hk
      rw [Function.update_self] at ih ⊢
      split
      · rw [lookup_cons, if_pos rfl]
      · rename_i hy
        rw [lookup_cons, if_neg hy, ih]
    · rw [Function.update_of_ne hk] at ih ⊢
      split
      · rename_i hy
        rw [lookup_cons, lookup_cons, if_neg (Ne.symm hk), hy, if_neg (Ne.symm hk)]
      · rw [lookup_cons, lookup_cons, ih]

/-- Removing an entry is an update of the map too, as no other entry has its key. -/
theorem lookup_eraseKey {xs : List α} (h : Distinct key xs) (k : κ) :
    lookup key (eraseKey key k xs) = Function.update (lookup key xs) k none := by
  funext k'
  induction xs with
  | nil => by_cases hk : k' = k <;> simp [eraseKey, lookup_nil, Function.update, hk]
  | cons y ys ih =>
    obtain ⟨hy, hys⟩ := List.nodup_cons.mp h
    rw [eraseKey]
    -- Distinct keys are needed here only: behind the erased entry no other has its key
    by_cases hk : k' = k
    · subst hk
      rw [Function.update_self]
      split
      · rename_i hkey
        rw [lookup_eq_none_iff, ← hkey]
        exact hy
      · rename_i hkey
        rw [lookup_cons, if_neg hkey, ih hys, Function.update_self]
    · rw [Function.update_of_ne hk, lookup_cons]
      split
      · rename_i hkey
        rw [hkey, if_neg (Ne.symm hk)]
      · rw [lookup_cons, ih hys, Function.update_of_ne hk]

/-- An entry of a list with distinct keys is found under its key. -/
theorem lookup_of_mem {xs : List α} (h : Distinct key xs) {x : α} (hx : x ∈ xs) :
    lookup key xs (key x) = some x := by
  induction xs with
  | nil => exact absurd hx List.not_mem_nil
  | cons y ys ih =>
    obtain ⟨hy, hys⟩ := List.nodup_cons.mp h
    rw [lookup_cons]
    rcases List.mem_cons.mp hx with rfl | hx
    · rw [if_pos rfl]
    · have hne : key y ≠ key x := fun hkey => hy (hkey ▸ List.mem_map_of_mem hx)
      rw [if_neg hne, ih hys hx]

/-- The order of the entries does not matter to the map. -/
theorem lookup_perm {xs ys : List α} (hperm : xs.Perm ys) (h : Distinct key xs) :
    lookup key xs = lookup key ys := by
  have hys : Distinct key ys := (hperm.map key).nodup_iff.mp h
  funext k
  -- What one list has the other has too, and an absent key is absent from both
  cases hx : lookup key xs k with
  | some x =>
    obtain ⟨hmem, rfl⟩ := key_of_lookup hx
    rw [lookup_of_mem hys (hperm.mem_iff.mp hmem)]
  | none =>
    rw [eq_comm, lookup_eq_none_iff, ← (hperm.map key).mem_iff, ← lookup_eq_none_iff]
    exact hx

/-- Putting entries with new keys one after the other appends them. -/
theorem foldl_upsert_of_distinct {xs ys : List α} (h : Distinct key (xs ++ ys)) :
    ys.foldl (fun zs y => upsert key y zs) xs = xs ++ ys := by
  induction ys generalizing xs with
  | nil => simp
  | cons y ys ih =>
    -- The keys of the first list and of the rest do not meet
    have hnew : key y ∉ xs.map key := by
      rw [Distinct, List.map_append] at h
      have hsplit := List.nodup_append.mp h
      intro hmem
      exact hsplit.2.2 _ hmem (key y) (by simp) rfl
    have happend : upsert key y xs = xs ++ [y] := by
      rw [upsert_eq_set]
      have hnone : xs.findIdx? (fun z => key z = key y) = none := by
        rw [List.findIdx?_eq_none_iff]
        intro z hz
        exact decide_eq_false fun hkey => hnew (hkey ▸ List.mem_map_of_mem hz)
      rw [hnone]
    rw [List.foldl_cons, happend, ih (by simpa using h), List.append_assoc, List.singleton_append]

end ThorChat.Library.KeyedList
