import Mathlib.Data.Nat.Basic
import Mathlib.Algebra.Order.Ring.Nat
import Mathlib.Tactic.Ring

/-!
# Mixed-Radix Numerals

Digits of a natural number for a list of radices, least significant first, with one unbounded
digit at the end. Each digit is read off the number itself, between its own place value and the
next one; no digit needs the remainder another one leaves.

## What is proved once here

- **Exactness**: the digits of a number have its value (`value_digits`).
- **Uniqueness**: a value has one numeral (`Numeral.eq_of_value_eq`), so the digits are the only
  numeral of the number (`Numeral.eq_digits`).
-/

namespace ThorChat.Library.MixedRadix

/-- The digits of `n` from the given place value on. -/
def digits (place : Nat) : List Nat → Nat → List Nat
  | [], n => [n / place]
  | radix :: radices, n => n % (place * radix) / place :: digits (place * radix) radices n

/-- The value of a list of digits, the first of which counts for `place`. -/
def value (place : Nat) : List Nat → List Nat → Nat
  | _, [] => 0
  | [], digit :: _ => digit * place
  | radix :: radices, digit :: digits => digit * place + value (place * radix) radices digits

/-- There is a digit below each radix, and a last one without a bound. -/
inductive Numeral : List Nat → List Nat → Prop where
  | last (digit : Nat) : Numeral [] [digit]
  | cons {radix digit : Nat} {radices digits : List Nat} :
      digit < radix → Numeral radices digits → Numeral (radix :: radices) (digit :: digits)

variable {place : Nat} {radices ds es : List Nat}

theorem digits_numeral (hplace : 0 < place) (hradices : ∀ r ∈ radices, 0 < r) (n : Nat) :
    Numeral radices (digits place radices n) := by
  induction radices generalizing place with
  | nil => exact .last (n / place)
  | cons radix radices ih =>
    have hradix : 0 < radix := hradices radix List.mem_cons_self
    have hnext : 0 < place * radix := Nat.mul_pos hplace hradix
    -- The remainder by the next place is below it, and its quotient below the radix
    refine .cons ?_ (ih hnext fun r hr => hradices r (List.mem_cons_of_mem _ hr))
    exact Nat.div_lt_of_lt_mul (Nat.mod_lt n hnext)

/-- **Exactness.** From a place value on, the digits give back what the number has above it. -/
theorem value_digits (place : Nat) (radices : List Nat) (n : Nat) :
    value place radices (digits place radices n) = n / place * place := by
  induction radices generalizing place with
  | nil => rfl
  | cons radix radices ih =>
    -- The digit here and the digits above split the quotient by the radix
    have hsplit : n / place % radix + radix * (n / place / radix) = n / place :=
      Nat.mod_add_div (n / place) radix
    calc value place (radix :: radices) (digits place (radix :: radices) n)
        = n % (place * radix) / place * place + n / (place * radix) * (place * radix) := by
          rw [digits, value, ih]
      _ = n / place % radix * place + n / place / radix * (place * radix) := by
          rw [Nat.mod_mul_right_div_self, Nat.div_div_eq_div_mul]
      _ = (n / place % radix + radix * (n / place / radix)) * place := by ring
      _ = n / place * place := by rw [hsplit]

/-- The value of a numeral is a multiple of its first place value. -/
theorem place_dvd_value (place : Nat) (radices ds : List Nat) : place ∣ value place radices ds := by
  induction radices generalizing place ds with
  | nil =>
    cases ds with
    | nil => exact Nat.dvd_zero place
    | cons d ds => exact Nat.dvd_mul_left place d
  | cons radix radices ih =>
    cases ds with
    | nil => exact Nat.dvd_zero place
    | cons d ds =>
      have hrest : place ∣ value (place * radix) radices ds :=
        Nat.dvd_trans (Nat.dvd_mul_right place radix) (ih (place * radix) ds)
      exact Nat.dvd_add (Nat.dvd_mul_left place d) hrest

/-- **Uniqueness.** Numerals of the same value have the same digits. -/
theorem Numeral.eq_of_value_eq (hplace : 0 < place) (hds : Numeral radices ds)
    (hes : Numeral radices es) (h : value place radices ds = value place radices es) :
    ds = es := by
  induction hds generalizing place es with
  | last d =>
    cases hes with
    | last e => rw [Nat.eq_of_mul_eq_mul_right hplace h]
  | @cons radix d radices ds hd _ ih =>
    cases hes with
    | @cons _ e _ es he hes =>
      -- What comes after the first digit is a multiple of the next place value
      obtain ⟨a, ha⟩ := place_dvd_value (place * radix) radices ds
      obtain ⟨b, hb⟩ := place_dvd_value (place * radix) radices es
      -- Both sides are multiples of the place value: compare them modulo the radix
      have hquot : d + radix * a = e + radix * b := by
        apply Nat.eq_of_mul_eq_mul_right hplace
        calc (d + radix * a) * place
            = d * place + place * radix * a := by ring
          _ = e * place + place * radix * b := by simpa only [value, ha, hb] using h
          _ = (e + radix * b) * place := by ring
      have hdigit : d = e := by
        have hmod := congrArg (· % radix) hquot
        simpa only [Nat.add_mul_mod_self_left, Nat.mod_eq_of_lt hd, Nat.mod_eq_of_lt he]
          using hmod
      subst hdigit
      have hrest : value (place * radix) radices ds = value (place * radix) radices es :=
        Nat.add_left_cancel h
      rw [ih (Nat.mul_pos hplace (Nat.zero_lt_of_lt hd)) hes hrest]

/-- The digits of a number are its only numeral. -/
theorem Numeral.eq_digits {n : Nat} (hds : Numeral radices ds) (h : value 1 radices ds = n) :
    ds = digits 1 radices n := by
  have hradices : ∀ r ∈ radices, 0 < r := by
    clear h
    induction hds with
    -- A digit below a radix shows that the radix is positive
    | last d => simp
    | cons hd _ ih =>
      intro r hr
      rcases List.mem_cons.mp hr with rfl | hr
      · exact Nat.zero_lt_of_lt hd
      · exact ih r hr
  apply hds.eq_of_value_eq Nat.one_pos (digits_numeral Nat.one_pos hradices n)
  rw [h, value_digits, Nat.div_one, Nat.mul_one]

end ThorChat.Library.MixedRadix
