import Mathlib.Tactic.Lift
import ThorChat.Library.MixedRadix
import ThorChat.SupportFrameWorks.StopWatch

/-!
# The Stop Watch as a Clock

Each field of a `StopWatch` is computed from the total on its own. They are the digits of the
total for the radices 60, 60, 24 and 365, so they read as the total and nothing else does. The
time string shows two of them, as two digits each.
-/

namespace ThorChat.SupportFrameWorks

open ThorChat.Library

/-- The five numbers read as this total, and each but the years stays below the next unit. -/
structure Reads (totalSeconds years days hours minutes seconds : Int) : Prop where
  total : years * 31536000 + days * 86400 + hours * 3600 + minutes * 60 + seconds = totalSeconds
  days : 0 ≤ days ∧ days < 365
  hours : 0 ≤ hours ∧ hours < 24
  minutes : 0 ≤ minutes ∧ minutes < 60
  seconds : 0 ≤ seconds ∧ seconds < 60

namespace StopWatch

/-! ## The fields are digits -/

/-- The radices of a clock: how many of each unit make one of the next. -/
def radices : List Nat := [60, 60, 24, 365]

/-- The moduli and divisors of the fields are the place values of the clock. -/
theorem digits_eq (n : Nat) : MixedRadix.digits 1 radices n =
    [n % 60, n % 3600 / 60, n % 86400 / 3600, n % 31536000 / 86400, n / 31536000] := by
  simp [MixedRadix.digits, radices]

theorem reads_iff {n years days hours minutes seconds : Nat} :
    Reads n years days hours minutes seconds ↔
      MixedRadix.Numeral radices [seconds, minutes, hours, days, years] ∧
        MixedRadix.value 1 radices [seconds, minutes, hours, days, years] = n := by
  constructor
  · intro h
    -- Seconds, minutes, hours and days are bounded, the years are not
    refine ⟨.cons ?_ (.cons ?_ (.cons ?_ (.cons ?_ (.last years)))), ?_⟩
    · exact_mod_cast h.seconds.2
    · exact_mod_cast h.minutes.2
    · exact_mod_cast h.hours.2
    · exact_mod_cast h.days.2
    · have htotal := h.total
      simp only [MixedRadix.value, radices]
      omega
  · rintro ⟨hnumeral, hvalue⟩
    -- The numeral bounds one digit after the other
    obtain _ | ⟨hseconds, _ | ⟨hminutes, _ | ⟨hhours, _ | ⟨hdays, _⟩⟩⟩⟩ := hnumeral
    simp only [MixedRadix.value, radices] at hvalue
    apply Reads.mk
    case total => omega
    case days => omega
    case hours => omega
    case minutes => omega
    case seconds => omega

/-- On a natural number, truncated division is division. -/
theorem fields_eq (n : Nat) :
    (StopWatch.mk n).years = (n / 31536000 : Nat) ∧
    (StopWatch.mk n).days = (n % 31536000 / 86400 : Nat) ∧
    (StopWatch.mk n).hours = (n % 86400 / 3600 : Nat) ∧
    (StopWatch.mk n).minutes = (n % 3600 / 60 : Nat) ∧
    (StopWatch.mk n).seconds = (n % 60 : Nat) :=
  ⟨rfl, rfl, rfl, rfl, rfl⟩

theorem reads_fields (n : Nat) : Reads n (StopWatch.mk n).years (StopWatch.mk n).days
    (StopWatch.mk n).hours (StopWatch.mk n).minutes (StopWatch.mk n).seconds := by
  obtain ⟨hyears, hdays, hhours, hminutes, hseconds⟩ := fields_eq n
  rw [hyears, hdays, hhours, hminutes, hseconds, reads_iff, ← digits_eq]
  refine ⟨MixedRadix.digits_numeral Nat.one_pos (by simp [radices]) n, ?_⟩
  rw [MixedRadix.value_digits, Nat.div_one, Nat.mul_one]

/-- No other five numbers read as the total. -/
theorem eq_fields_of_reads {n : Nat} {years days hours minutes seconds : Int}
    (h : Reads n years days hours minutes seconds) :
    years = (StopWatch.mk n).years ∧ days = (StopWatch.mk n).days ∧
      hours = (StopWatch.mk n).hours ∧ minutes = (StopWatch.mk n).minutes ∧
      seconds = (StopWatch.mk n).seconds := by
  obtain ⟨htotal, hdays, hhours, hminutes, hseconds⟩ := id h
  -- The years are not bounded, but the total is not negative
  have hyears : 0 ≤ years := by omega
  -- All five numbers are natural, so the library applies
  lift years to Nat using hyears
  lift days to Nat using hdays.1
  lift hours to Nat using hhours.1
  lift minutes to Nat using hminutes.1
  lift seconds to Nat using hseconds.1
  obtain ⟨hnumeral, hvalue⟩ := reads_iff.mp h
  have hdigits := hnumeral.eq_digits hvalue
  rw [digits_eq] at hdigits
  simp only [List.cons.injEq, and_true] at hdigits
  obtain ⟨rfl, rfl, rfl, rfl, rfl⟩ := hdigits
  obtain ⟨hyears, hdays, hhours, hminutes, hseconds⟩ := fields_eq n
  exact ⟨hyears.symm, hdays.symm, hhours.symm, hminutes.symm, hseconds.symm⟩

/-! ## The time string -/

/-- A number below a hundred, zero-padded to two digits. -/
def twoDigits (n : Nat) : String := String.ofList [Nat.digitChar (n / 10), Nat.digitChar (n % 10)]

/-- They are digits, and their value is the number, so they determine it. -/
theorem toList_twoDigits {n : Nat} (h : n < 100) : ∃ tens ones : Char,
    (twoDigits n).toList = [tens, ones] ∧ tens.isDigit ∧ ones.isDigit ∧
      Nat.ofDigitChars 10 [tens, ones] 0 = n := by
  have htens : n / 10 < 10 := by omega
  have hones : n % 10 < 10 := by omega
  refine ⟨_, _, String.toList_ofList, ?_, ?_, ?_⟩
  · simp [Nat.isDigit_digitChar, htens]
  · simp [Nat.isDigit_digitChar, hones]
  · rw [Nat.ofDigitChars_cons_digitChar_of_lt_ten htens,
      Nat.ofDigitChars_cons_digitChar_of_lt_ten hones, Nat.ofDigitChars_nil]
    omega

theorem timeText_eq {n : Nat} (h : n < 100) : timeText n = twoDigits n := by
  have hrepr : toString (n : Int) = n.repr := rfl
  unfold timeText twoDigits
  rw [hrepr]
  split
  · rename_i hlt
    have hn : n < 10 := by omega
    -- Below ten a zero is put in front
    rw [Nat.repr_of_lt hn, Nat.div_eq_of_lt hn, Nat.mod_eq_of_lt hn, String.singleton_eq_ofList,
      ← String.toList_inj, String.toList_append]
    simp
  · rename_i hge
    have hn : 10 ≤ n := by omega
    have htens : n / 10 < 10 := by omega
    -- Below a hundred the representation has its two digits already
    rw [Nat.repr_of_ge hn, Nat.repr_of_lt htens, String.singleton_eq_ofList,
      String.singleton_eq_ofList, ← String.ofList_append]
    rfl

theorem simpleTimeString_eq (n : Nat) : (StopWatch.mk n).simpleTimeString =
    twoDigits (n % 3600 / 60) ++ ":" ++ twoDigits (n % 60) := by
  obtain ⟨-, -, -, hminutes, hseconds⟩ := fields_eq n
  rw [simpleTimeString, hminutes, hseconds, timeText_eq (by omega), timeText_eq (by omega)]

/-- The two groups can be read back from the string. -/
theorem twoDigits_append_inj {a b c d : Nat} (ha : a < 100) (hb : b < 100) (hc : c < 100)
    (hd : d < 100) (h : twoDigits a ++ ":" ++ twoDigits b = twoDigits c ++ ":" ++ twoDigits d) :
    a = c ∧ b = d := by
  obtain ⟨a₁, a₂, hla, -, -, hva⟩ := toList_twoDigits ha
  obtain ⟨b₁, b₂, hlb, -, -, hvb⟩ := toList_twoDigits hb
  obtain ⟨c₁, c₂, hlc, -, -, hvc⟩ := toList_twoDigits hc
  obtain ⟨d₁, d₂, hld, -, -, hvd⟩ := toList_twoDigits hd
  have hlists := congrArg String.toList h
  -- Both strings have five characters
  simp only [String.toList_append, hla, hlb, hlc, hld, List.cons_append, List.nil_append,
    List.cons.injEq, List.append_cancel_left_eq, and_true] at hlists
  obtain ⟨rfl, rfl, rfl, rfl⟩ := hlists
  exact ⟨hva.symm.trans hvc, hvb.symm.trans hvd⟩

theorem simpleTimeString_eq_iff (n m : Nat) :
    (StopWatch.mk n).simpleTimeString = (StopWatch.mk m).simpleTimeString ↔
      n % 3600 = m % 3600 := by
  rw [simpleTimeString_eq, simpleTimeString_eq]
  constructor
  · intro h
    obtain ⟨hminutes, hseconds⟩ :=
      twoDigits_append_inj (by omega) (by omega) (by omega) (by omega) h
    omega
  · intro h
    have hseconds : n % 60 = m % 60 := by omega
    rw [h, hseconds]

/-- **The stop watch is an exact clock.** The fields read as the total and no other numbers do;
two totals show the same time string exactly if they agree modulo an hour, and the string is the
minutes and the seconds, two digits each. -/
theorem exact_clock :
    (∀ totalSeconds : Int, 0 ≤ totalSeconds →
      let watch := StopWatch.mk totalSeconds
      Reads totalSeconds watch.years watch.days watch.hours watch.minutes watch.seconds ∧
      ∀ years days hours minutes seconds,
        Reads totalSeconds years days hours minutes seconds →
          years = watch.years ∧ days = watch.days ∧ hours = watch.hours ∧
            minutes = watch.minutes ∧ seconds = watch.seconds) ∧
    (∀ s t : Int, 0 ≤ s → 0 ≤ t →
      ((StopWatch.mk s).simpleTimeString = (StopWatch.mk t).simpleTimeString ↔
        s % 3600 = t % 3600)) ∧
    ∀ s : Int, 0 ≤ s → ∃ a b c d : Char, (∀ digit ∈ [a, b, c, d], digit.isDigit) ∧
      (StopWatch.mk s).simpleTimeString = String.ofList [a, b, ':', c, d] ∧
      Nat.ofDigitChars 10 [a, b] 0 = (StopWatch.mk s).minutes ∧
      Nat.ofDigitChars 10 [c, d] 0 = (StopWatch.mk s).seconds := by
  refine ⟨fun totalSeconds h => ?_, fun s t hs ht => ?_, fun s hs => ?_⟩
  · lift totalSeconds to Nat using h
    exact ⟨reads_fields totalSeconds, fun _ _ _ _ _ => eq_fields_of_reads⟩
  · lift s to Nat using hs
    lift t to Nat using ht
    rw [simpleTimeString_eq_iff]
    omega
  · lift s to Nat using hs
    obtain ⟨-, -, -, hminutes, hseconds⟩ := fields_eq s
    obtain ⟨a, b, hm, ha, hb, hab⟩ := toList_twoDigits (n := s % 3600 / 60) (by omega)
    obtain ⟨c, d, hn, hc, hd, hcd⟩ := toList_twoDigits (n := s % 60) (by omega)
    refine ⟨a, b, c, d, by simp [ha, hb, hc, hd], ?_, by rw [hab, hminutes], by rw [hcd, hseconds]⟩
    rw [simpleTimeString_eq, ← String.toList_inj]
    simp only [String.toList_append, String.toList_ofList, hm, hn]
    rfl

theorem exact_clock_hour : Reads 3661 0 0 1 1 1 ∧
    (StopWatch.mk 3661).simpleTimeString = (StopWatch.mk 61).simpleTimeString :=
  ⟨(exact_clock.1 3661 (by decide)).1, (exact_clock.2.1 3661 61 (by decide) (by decide)).mpr rfl⟩

end StopWatch

end ThorChat.SupportFrameWorks
