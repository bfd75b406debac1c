import Mathlib.Data.List.Basic

/-!
# Numeric Order of Strings and of Versions

The numeric string order compares runs of digits by value and other characters as they are, and
puts a proper prefix first. A version is a list of numbers; the version order reads missing
trailing numbers as zero.

## What is proved once here

- On dotted numerals the numeric string order is the lexicographic order of the numbers
  (`compareNumeric_render`).
- The lexicographic order differs from the version order exactly where one version extends the
  other by zeros (`compareLex_eq_lt_iff`).
-/

namespace ThorChat.Library

/-! ## The numeric string order -/

/-- A run of digits with its first digit and its value, or any other character. -/
inductive Token where
  | run (first : Char) (value : Nat)
  | literal (c : Char)
  deriving DecidableEq, Repr

namespace Token

/-- Two runs compare by value, anything else by its first character. -/
def compare : Token → Token → Ordering
  | .run _ m, .run _ n => Ord.compare m n
  | .run c _, .literal d => Ord.compare c d
  | .literal c, .run d _ => Ord.compare c d
  | .literal c, .literal d => Ord.compare c d

/-- A run of digits goes on with another digit. -/
def extend : Option (Char × Nat) → Char → Char × Nat
  | none, c => (c, c.toNat - '0'.toNat)
  | some (first, value), c => (first, 10 * value + (c.toNat - '0'.toNat))

/-- A run of digits ends. -/
def finish : Option (Char × Nat) → List Token
  | none => []
  | some (first, value) => [.run first value]

/-- The tokens of the characters that follow an unfinished run. -/
def ofList (current : Option (Char × Nat)) : List Char → List Token
  | [] => finish current
  | c :: cs =>
    if c.isDigit then ofList (some (extend current c)) cs
    else finish current ++ .literal c :: ofList none cs

end Token

/-- The numeric order of strings. -/
def compareNumeric (s t : String) : Ordering :=
  List.compareLex Token.compare (Token.ofList none s.toList) (Token.ofList none t.toList)

/-! ## Dotted numerals -/

/-- One or more numbers in decimal digits, leading zeros allowed, with dots between them. -/
structure DottedNumeral where
  head : List Char
  tail : List (List Char)
  digits : ∀ component ∈ head :: tail, component ≠ [] ∧ ∀ c ∈ component, c.isDigit = true

namespace DottedNumeral

variable {v w : DottedNumeral}

/-- The components in decimal digits. -/
def components (v : DottedNumeral) : List (List Char) := v.head :: v.tail

/-- The components as numbers. -/
def numbers (v : DottedNumeral) : List Nat := v.components.map (Nat.ofDigitChars 10 · 0)

/-- The components with dots between them. -/
def render (v : DottedNumeral) : String := String.ofList (['.'].intercalate v.components)

end DottedNumeral

/-- A run of digits is read as one token. -/
theorem Token.ofList_digits {ds : List Char} (hds : ∀ c ∈ ds, c.isDigit = true) (first : Char)
    (value : Nat) (rest : List Char) :
    Token.ofList (some (first, value)) (ds ++ rest) =
      Token.ofList (some (first, Nat.ofDigitChars 10 ds value)) rest := by
  induction ds generalizing value with
  | nil => rw [List.nil_append, Nat.ofDigitChars_nil]
  | cons d ds ih =>
    have hd : d.isDigit = true := hds d List.mem_cons_self
    -- The digit extends the run that is being read
    rw [List.cons_append, Token.ofList, if_pos hd, Token.extend,
      ih (fun c hc => hds c (List.mem_cons_of_mem _ hc)), Nat.ofDigitChars_cons]

/-- The token of a component. -/
def Token.ofComponent (ds : List Char) : Token := .run (ds.headD '0') (Nat.ofDigitChars 10 ds 0)

/-- The tokens of the components that follow another one. -/
def Token.ofTail (tail : List (List Char)) : List Token :=
  tail.flatMap fun ds => [.literal '.', .ofComponent ds]

theorem Token.ofList_component {ds : List Char} (hne : ds ≠ [])
    (hds : ∀ c ∈ ds, c.isDigit = true) (rest : List Char) :
    Token.ofList none (ds ++ rest) =
      Token.ofList (some (ds.headD '0', Nat.ofDigitChars 10 ds 0)) rest := by
  cases ds with
  | nil => exact absurd rfl hne
  | cons d ds =>
    have hd : d.isDigit = true := hds d List.mem_cons_self
    -- The first digit opens a run
    rw [List.cons_append, Token.ofList, if_pos hd, Token.extend,
      Token.ofList_digits (fun c hc => hds c (List.mem_cons_of_mem _ hc)), Nat.ofDigitChars_cons,
      Nat.mul_zero, Nat.zero_add, List.headD_cons]

theorem Token.ofList_intercalate {head : List Char} {tail : List (List Char)}
    (h : ∀ ds ∈ head :: tail, ds ≠ [] ∧ ∀ c ∈ ds, c.isDigit = true) :
    Token.ofList none (['.'].intercalate (head :: tail)) =
      .ofComponent head :: Token.ofTail tail := by
  have hdot : Char.isDigit '.' = false := rfl
  induction tail generalizing head with
  | nil =>
    have hhead := h head List.mem_cons_self
    have htokens := Token.ofList_component hhead.1 hhead.2 []
    rw [List.append_nil] at htokens
    rw [List.intercalate_singleton, htokens]
    rfl
  | cons next tail ih =>
    have hhead := h head List.mem_cons_self
    have hrest := ih fun ds hds => h ds (List.mem_cons_of_mem _ hds)
    -- The dot ends the run of the component in front of it
    rw [List.intercalate_cons_cons, List.append_assoc, Token.ofList_component hhead.1 hhead.2,
      List.singleton_append, Token.ofList, hdot, hrest]
    rfl

/-- After equal numbers both strings go on with a dot, or one of them is a proper prefix. -/
theorem Token.compareLex_ofTail (as bs : List (List Char)) :
    List.compareLex Token.compare (Token.ofTail as) (Token.ofTail bs) =
      List.compareLex Ord.compare (as.map (Nat.ofDigitChars 10 · 0))
        (bs.map (Nat.ofDigitChars 10 · 0)) := by
  induction as generalizing bs with
  | nil =>
    cases bs with
    | nil => rfl
    | cons b bs => rfl
  | cons a as ih =>
    cases bs with
    | nil => rfl
    | cons b bs =>
      have hdot : Token.compare (.literal '.') (.literal '.') = .eq := rfl
      have hcons : ∀ ds tail, Token.ofTail (ds :: tail) =
          .literal '.' :: .ofComponent ds :: Token.ofTail tail := fun _ _ => rfl
      -- The dots agree, so the numbers after them decide
      rw [hcons, hcons, List.compareLex_cons_cons, hdot, Ordering.eq_then,
        List.compareLex_cons_cons, ih bs, List.map_cons, List.map_cons, List.compareLex_cons_cons]
      rfl

/-- **Dotted numerals.** The numeric string order compares them number by number. -/
theorem compareNumeric_render (v w : DottedNumeral) :
    compareNumeric v.render w.render = List.compareLex compare v.numbers w.numbers := by
  rw [compareNumeric, DottedNumeral.render, DottedNumeral.render, String.toList_ofList,
    String.toList_ofList, DottedNumeral.components, DottedNumeral.components,
    Token.ofList_intercalate v.digits, Token.ofList_intercalate w.digits,
    List.compareLex_cons_cons, Token.compareLex_ofTail]
  have hnumbers : List.compareLex compare v.numbers w.numbers =
      (compare (Nat.ofDigitChars 10 v.head 0) (Nat.ofDigitChars 10 w.head 0)).then
        (List.compareLex compare (v.tail.map (Nat.ofDigitChars 10 · 0))
          (w.tail.map (Nat.ofDigitChars 10 · 0))) := List.compareLex_cons_cons
  exact hnumbers.symm

/-! ## The version order -/

/-- The order of versions: number by number, with missing trailing numbers read as zero. -/
def compareVersion : List Nat → List Nat → Ordering
  | [], ns => if ns.all (· = 0) then .eq else .lt
  | m :: ms, ns => (compare m (ns.headD 0)).then (compareVersion ms ns.tail)

/-- The second list is the first one with more numbers after it, all of them zero. -/
def ExtendsByZeros (ms ns : List Nat) : Prop :=
  ms.length < ns.length ∧ ms <+: ns ∧ ∀ n ∈ ns.drop ms.length, n = 0

instance (ms ns : List Nat) : Decidable (ExtendsByZeros ms ns) :=
  inferInstanceAs (Decidable (_ ∧ _ ∧ _))

@[simp] theorem not_extendsByZeros_nil (ms : List Nat) : ¬ ExtendsByZeros ms [] := by
  simp [ExtendsByZeros]

@[simp] theorem extendsByZeros_cons {m n : Nat} {ms ns : List Nat} :
    ExtendsByZeros (m :: ms) (n :: ns) ↔ m = n ∧ ExtendsByZeros ms ns := by
  simp only [ExtendsByZeros, List.length_cons, Nat.add_lt_add_iff_right, List.cons_prefix_cons,
    List.drop_succ_cons]
  tauto

/-- An extension by zeros is the same version. -/
theorem ExtendsByZeros.compareVersion_eq {ms ns : List Nat} (h : ExtendsByZeros ms ns) :
    compareVersion ms ns = .eq := by
  induction ms generalizing ns with
  | nil => simpa [compareVersion] using h.2.2
  | cons m ms ih =>
    cases ns with
    | nil => exact absurd h (not_extendsByZeros_nil _)
    | cons n ns =>
      obtain ⟨rfl, hrest⟩ := extendsByZeros_cons.mp h
      have hm : compare m m = .eq := Nat.compare_eq_eq.mpr rfl
      rw [compareVersion, List.headD_cons, List.tail_cons, hm, Ordering.eq_then, ih hrest]

/-- A version is never below one without numbers. -/
theorem compareVersion_nil_right (ms : List Nat) : compareVersion ms [] ≠ .lt := by
  induction ms with
  | nil => decide
  | cons m ms ih =>
    rw [compareVersion, List.headD_nil, List.tail_nil]
    rcases Nat.eq_zero_or_pos m with rfl | hm
    · exact ih
    · rw [Nat.compare_eq_gt.mpr hm, Ordering.gt_then]
      simp

/-- **Prefixes.** The lexicographic order puts a list below another one exactly if the version
order does or the other one extends it by zeros. -/
theorem compareLex_eq_lt_iff {ms ns : List Nat} :
    List.compareLex compare ms ns = .lt ↔ compareVersion ms ns = .lt ∨ ExtendsByZeros ms ns := by
  induction ms generalizing ns with
  | nil =>
    cases ns with
    | nil => simp [List.compareLex, compareVersion]
    | cons n ns =>
      -- What follows nothing is zero throughout, or it is above it
      simp only [List.compareLex_nil_cons, true_iff, compareVersion, ExtendsByZeros]
      by_cases hzero : ∀ k ∈ n :: ns, k = 0
      · exact Or.inr ⟨by simp, List.nil_prefix, hzero⟩
      · exact Or.inl (if_neg (by simpa using hzero))
  | cons m ms ih =>
    cases ns with
    | nil =>
      have hversion := compareVersion_nil_right (m :: ms)
      simp [List.compareLex, hversion]
    | cons n ns =>
      rw [List.compareLex_cons_cons, compareVersion, List.headD_cons, List.tail_cons,
        extendsByZeros_cons]
      cases hc : compare m n with
      | lt => simp
      | eq =>
        -- Equal numbers decide nothing
        have hmn : m = n := Nat.compare_eq_eq.mp hc
        rw [Ordering.eq_then, Ordering.eq_then, ih]
        simp [hmn]
      | gt =>
        have hne : m ≠ n := by
          rintro rfl
          simp at hc
        simp [hne]

/-- Where the two orders agree on what is newer. -/
theorem compareLex_agrees_iff {ms ns : List Nat} :
    (List.compareLex compare ms ns = .lt ↔ compareVersion ms ns = .lt) ↔
      ¬ ExtendsByZeros ms ns := by
  rw [compareLex_eq_lt_iff]
  constructor
  · intro h hextends
    have hlt := h.mp (Or.inr hextends)
    rw [hextends.compareVersion_eq] at hlt
    exact absurd hlt (by decide)
  · intro h
    exact or_iff_left h

end ThorChat.Library
