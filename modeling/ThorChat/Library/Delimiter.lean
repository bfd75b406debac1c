import Mathlib.Data.List.Infix

/-!
# Delimited Texts

Texts joined by a delimiter are found again by searching for it, provided that it occurs in none
of them (`split_intercalate`). The delimiter starts with a symbol that it does not repeat, so an
occurrence cannot begin in a text and end in the delimiter behind it.

Lines that end with a terminator are read up to the first empty one in the same way
(`readLines_block`).
-/

namespace ThorChat.Library.Delimiter

universe u

variable {α : Type u} [DecidableEq α]

/-! ## Searching -/

/-- What stands before and after the first occurrence of `d`. -/
def breakAt (d : List α) : List α → Option (List α × List α)
  | [] => none
  | x :: xs =>
    if d.isPrefixOf (x :: xs) then some ([], (x :: xs).drop d.length)
    else (breakAt d xs).map fun found => (x :: found.1, found.2)

theorem breakAt_of_not_infix {d xs : List α} (h : ¬ d <:+: xs) : breakAt d xs = none := by
  induction xs with
  | nil => rfl
  | cons x xs ih =>
    have hhead : ¬ d.isPrefixOf (x :: xs) = true := by
      rw [List.isPrefixOf_iff_prefix]
      exact fun hstart => h hstart.isInfix
    have htail : ¬ d <:+: xs := fun hfound => h (List.infix_cons hfound)
    rw [breakAt, if_neg hhead, ih htail, Option.map_none]

omit [DecidableEq α] in
/-- An occurrence in `xs ++ m :: ds ++ ys` from the very start ends inside `xs`, as the symbol
`m` is only found at its beginning. -/
theorem prefix_of_prefix_append {m x : α} {ds xs ys : List α} (hm : m ∉ ds)
    (h : m :: ds <+: x :: xs ++ (m :: ds ++ ys)) : m :: ds <+: x :: xs := by
  rcases List.prefix_or_prefix_of_prefix h (List.prefix_append (x :: xs) _) with hinside | hbeyond
  · exact hinside
  · obtain ⟨rest, hrest⟩ := hbeyond
    cases rest with
    | nil =>
      rw [← hrest, List.append_nil]
    | cons y rest =>
      -- The delimiter would go on with its own first symbol
      have hbehind : (x :: xs) ++ y :: rest <+: (x :: xs) ++ (m :: ds ++ ys) := by
        rw [hrest]
        exact h
      have hy : y = m :=
        (List.cons_prefix_cons.mp ((List.prefix_append_right_inj _).mp hbehind)).1
      obtain ⟨-, hds⟩ := List.cons.inj hrest
      exact absurd (by simp [← hds, hy]) hm

/-- The first occurrence behind a text without any is found. -/
theorem breakAt_append {m : α} {ds xs : List α} (hm : m ∉ ds) (h : ¬ m :: ds <:+: xs)
    (ys : List α) : breakAt (m :: ds) (xs ++ (m :: ds ++ ys)) = some (xs, ys) := by
  induction xs with
  | nil =>
    have hstart : (m :: ds).isPrefixOf (m :: (ds ++ ys)) = true := by
      rw [List.isPrefixOf_iff_prefix]
      exact List.prefix_append (m :: ds) ys
    rw [List.nil_append, List.cons_append, breakAt, if_pos hstart, ← List.cons_append,
      List.drop_left]
  | cons x xs ih =>
    have hhead : ¬ (m :: ds).isPrefixOf (x :: (xs ++ (m :: ds ++ ys))) = true := by
      rw [List.isPrefixOf_iff_prefix]
      intro hstart
      exact h (prefix_of_prefix_append hm hstart).isInfix
    have htail : ¬ m :: ds <:+: xs := fun hfound => h (List.infix_cons hfound)
    rw [List.cons_append, breakAt, if_neg hhead, ih htail, Option.map_some]

omit [DecidableEq α] in
/-- A text without the symbol `m` occurs on one side of it. -/
theorem infix_append_cons {m : α} {d xs ys : List α} (hm : m ∉ d) (h : d <:+: xs ++ m :: ys) :
    d <:+: xs ∨ d <:+: ys := by
  obtain ⟨before, after, heq⟩ := h
  rw [List.append_assoc, List.append_eq_append_iff] at heq
  rcases heq with ⟨rest, hxs, hrest⟩ | ⟨rest, hbefore, hrest⟩
  · -- It starts inside `xs`
    rw [List.append_eq_append_iff] at hrest
    rcases hrest with ⟨tail, hd, -⟩ | ⟨tail, hd, htail⟩
    · rw [hxs, hd]
      exact Or.inl ⟨before, tail, by simp⟩
    · cases tail with
      | nil =>
        rw [List.append_nil] at hd
        rw [hxs, hd]
        exact Or.inl ⟨before, [], by simp⟩
      | cons y tail =>
        obtain ⟨rfl, -⟩ := List.cons.inj htail
        exact absurd (hd ▸ by simp) hm
  · cases rest with
    | nil =>
      rw [List.nil_append] at hrest
      cases d with
      | nil => exact Or.inl (List.nil_infix)
      | cons y d =>
        obtain ⟨rfl, -⟩ := List.cons.inj hrest
        exact absurd List.mem_cons_self hm
    | cons y rest =>
      obtain ⟨rfl, hys⟩ := List.cons.inj hrest
      exact Or.inr ⟨rest, after, (List.append_assoc ..).trans hys.symm⟩

/-! ## Splitting -/

/-- The texts between at most `n` delimiters. -/
def pieces (d : List α) : Nat → List α → List (List α)
  | 0, xs => [xs]
  | n + 1, xs =>
    match breakAt d xs with
    | none => [xs]
    | some (piece, rest) => piece :: pieces d n rest

/-- The texts between the delimiters. -/
def split (d xs : List α) : List (List α) := pieces d xs.length xs

theorem pieces_intercalate {m : α} {ds : List α} (hm : m ∉ ds) {texts : List (List α)}
    (hne : texts ≠ []) (h : ∀ text ∈ texts, ¬ m :: ds <:+: text) {n : Nat}
    (hn : texts.length ≤ n + 1) :
    pieces (m :: ds) n ((m :: ds).intercalate texts) = texts := by
  induction texts generalizing n with
  | nil => exact absurd rfl hne
  | cons text texts ih =>
    obtain ⟨htext, htexts⟩ := List.forall_mem_cons.mp h
    cases texts with
    | nil =>
      rw [List.intercalate_singleton]
      cases n with
      | zero => rfl
      | succ n => rw [pieces, breakAt_of_not_infix htext]
    | cons next texts =>
      cases n with
      | zero => simp at hn
      | succ n =>
        have hrest := ih (List.cons_ne_nil next texts) htexts (by simpa using hn)
        rw [List.intercalate_cons_cons, pieces, List.append_assoc, breakAt_append hm htext]
        exact congrArg (text :: ·) hrest

omit [DecidableEq α] in
theorem length_le_intercalate {m : α} {ds : List α} (texts : List (List α)) :
    texts.length ≤ ((m :: ds).intercalate texts).length + 1 := by
  induction texts with
  | nil => simp
  | cons text texts ih =>
    cases texts with
    | nil => simp
    | cons next texts =>
      simp only [List.intercalate_cons_cons, List.length_append, List.length_cons] at ih ⊢
      omega

/-- Joined texts are found again, if the delimiter is in none of them. -/
theorem split_intercalate {m : α} {ds : List α} (hm : m ∉ ds) {texts : List (List α)}
    (hne : texts ≠ []) (h : ∀ text ∈ texts, ¬ m :: ds <:+: text) :
    split (m :: ds) ((m :: ds).intercalate texts) = texts :=
  pieces_intercalate hm hne h (length_le_intercalate texts)

/-! ## Blocks of lines -/

/-- The lines up to the first empty one, and what follows it. -/
def readLines (terminator : List α) : Nat → List α → Option (List (List α) × List α)
  | 0, _ => none
  | n + 1, xs =>
    match breakAt terminator xs with
    | none => none
    | some ([], rest) => some ([], rest)
    | some (line, rest) =>
      (readLines terminator n rest).map fun block => (line :: block.1, block.2)

/-- Nonempty lines before an empty one are read again. -/
theorem readLines_block {m : α} {ds : List α} (hm : m ∉ ds) {lines : List (List α)}
    (h : ∀ line ∈ lines, line ≠ [] ∧ ¬ m :: ds <:+: line) (rest : List α) {n : Nat}
    (hn : lines.length < n) :
    readLines (m :: ds) n (lines.flatMap (· ++ m :: ds) ++ (m :: ds ++ rest)) =
      some (lines, rest) := by
  induction lines generalizing n with
  | nil =>
    obtain ⟨n, rfl⟩ := Nat.exists_eq_succ_of_ne_zero (by omega : n ≠ 0)
    have hnil : ¬ m :: ds <:+: [] := by simp
    rw [List.flatMap_nil, readLines, breakAt_append hm hnil]
  | cons line lines ih =>
    obtain ⟨n, rfl⟩ := Nat.exists_eq_succ_of_ne_zero (by omega : n ≠ 0)
    obtain ⟨⟨hne, hline⟩, hlines⟩ := List.forall_mem_cons.mp h
    have hread := ih hlines (n := n) (by simpa using hn)
    rw [List.flatMap_cons, List.append_assoc, List.append_assoc, readLines,
      breakAt_append hm hline]
    cases line with
    | nil => exact absurd rfl hne
    | cons x line =>
      exact congrArg (Option.map fun block => ((x :: line) :: block.1, block.2)) hread

end ThorChat.Library.Delimiter
