import Mathlib.Data.List.Basic

/-!
# UTF-16 Views of Strings

Text-field APIs address a string by its UTF-16 code units. A code unit is a `Nat` below
`2 ^ 16`; decoding repairs an unpaired surrogate to U+FFFD, as bridging from a UTF-16
string to one made of Unicode scalars does.
-/

namespace ThorChat.Library.Utf16

/-! ## Encoding and decoding -/

/-- The one or two UTF-16 code units of a Unicode scalar. -/
def encodeChar (c : Char) : List Nat :=
  if c.toNat < 0x10000 then [c.toNat]
  else [0xD800 + (c.toNat - 0x10000) / 0x400, 0xDC00 + (c.toNat - 0x10000) % 0x400]

/-- The UTF-16 code units of a string. -/
def encode (s : String) : List Nat :=
  s.toList.flatMap encodeChar

/-- A high surrogate. -/
def isHigh (u : Nat) : Bool := 0xD800 ≤ u && u < 0xDC00

/-- A low surrogate. -/
def isLow (u : Nat) : Bool := 0xDC00 ≤ u && u < 0xE000

/-- A code unit that is not part of a surrogate pair. -/
def decodeSingle (u : Nat) : Char :=
  if isHigh u || isLow u then '\uFFFD' else Char.ofNat u

/-- Unicode scalars of a list of code units, unpaired surrogates repaired. -/
def decodeList : List Nat → List Char
  | [] => []
  | [u] => [decodeSingle u]
  | u :: v :: rest =>
    if isHigh u && isLow v then
      Char.ofNat (0x10000 + (u - 0xD800) * 0x400 + (v - 0xDC00)) :: decodeList rest
    else decodeSingle u :: decodeList (v :: rest)

/-- The string of a list of code units. -/
def decode (units : List Nat) : String :=
  String.ofList (decodeList units)

theorem encodeChar_ne_nil (c : Char) : encodeChar c ≠ [] := by
  unfold encodeChar
  split <;> simp

@[simp] theorem encode_empty : encode "" = [] := rfl

@[simp] theorem encode_eq_nil {s : String} : encode s = [] ↔ s = "" := by
  constructor
  · intro h
    rw [← String.ofList_toList (s := s)]
    cases hs : s.toList with
    -- Every character has at least one code unit
    | nil => rfl
    | cons c cs =>
      rw [encode, hs, List.flatMap_cons] at h
      exact absurd (List.append_eq_nil_iff.mp h).1 (encodeChar_ne_nil c)
  · intro h
    subst h
    rfl

@[simp] theorem decode_eq_empty {units : List Nat} : decode units = "" ↔ units = [] := by
  unfold decode
  rw [String.ofList_eq_empty_iff]
  match units with
  | [] => simp [decodeList]
  | [u] => simp [decodeList]
  | u :: v :: rest =>
    simp only [decodeList]
    split <;> simp

/-! ## Lengths -/

theorem toNat_ofNat (n : Nat) : (Char.ofNat n).toNat = if n.isValidChar then n else 0 := by
  by_cases h : n.isValidChar
  · rw [if_pos h, Char.ofNat, dif_pos h]
    rfl
  · rw [if_neg h, Char.ofNat, dif_neg h]
    rfl

theorem encodeChar_lt (c : Char) : ∀ u ∈ encodeChar c, u < 0x10000 := by
  intro u hu
  have hc : c.toNat < 0x110000 := by
    rcases c.valid with h | h
    · exact Nat.lt_trans h (by decide)
    · exact h.2
  unfold encodeChar at hu
  split at hu
  · rw [List.mem_singleton] at hu
    omega
  · simp only [List.mem_cons, List.not_mem_nil, or_false] at hu
    omega

theorem encode_lt (s : String) : ∀ u ∈ encode s, u < 0x10000 := by
  intro u hu
  obtain ⟨c, -, hc⟩ := List.mem_flatMap.mp hu
  exact encodeChar_lt c u hc

theorem length_encodeChar_decodeSingle {u : Nat} (h : u < 0x10000) :
    (encodeChar (decodeSingle u)).length = 1 := by
  unfold decodeSingle
  split
  · rfl
  · rw [encodeChar, if_pos]
    · rfl
    · rw [toNat_ofNat]
      split <;> omega

theorem length_encodeChar_pair {u v : Nat} (hu : isHigh u = true) (hv : isLow v = true) :
    (encodeChar (Char.ofNat (0x10000 + (u - 0xD800) * 0x400 + (v - 0xDC00)))).length = 2 := by
  simp only [isHigh, isLow, Bool.and_eq_true, decide_eq_true_eq] at hu hv
  have hvalid : (0x10000 + (u - 0xD800) * 0x400 + (v - 0xDC00)).isValidChar := by
    right
    omega
  rw [encodeChar, toNat_ofNat, if_pos hvalid, if_neg (by omega)]
  rfl

/-- Decoding repairs code units one by one: encoding gives as many back. -/
theorem length_encode_decode {units : List Nat} (h : ∀ u ∈ units, u < 0x10000) :
    (encode (decode units)).length = units.length := by
  rw [decode, encode, String.toList_ofList]
  induction units using decodeList.induct with
  | case1 => rfl
  | case2 u =>
    rw [decodeList, List.flatMap_singleton, length_encodeChar_decodeSingle (h u (by simp))]
    rfl
  | case3 u v rest hpair ih =>
    -- A surrogate pair becomes one scalar of two code units
    obtain ⟨hu, hv⟩ := Bool.and_eq_true_iff.mp hpair
    have hrest := ih fun w hw => h w (by simp [hw])
    rw [decodeList, if_pos hpair, List.flatMap_cons, List.length_append,
      length_encodeChar_pair hu hv, hrest, List.length_cons, List.length_cons]
    omega
  | case4 u v rest hpair ih =>
    -- A single code unit, repaired if it is a surrogate, becomes a scalar of one code unit
    have hrest := ih fun w hw => h w (List.mem_cons_of_mem u hw)
    rw [decodeList, if_neg hpair, List.flatMap_cons, List.length_append,
      length_encodeChar_decodeSingle (h u (by simp)), hrest, List.length_cons (a := u)]
    omega

/-! ## Round trip -/

@[simp] theorem encode_append (s t : String) : encode (s ++ t) = encode s ++ encode t := by
  rw [encode, String.toList_append, List.flatMap_append]
  rfl

theorem decodeList_encodeChar (c : Char) (rest : List Nat) :
    decodeList (encodeChar c ++ rest) = c :: decodeList rest := by
  have hvalid : c.toNat < 0xD800 ∨ 0xDFFF < c.toNat ∧ c.toNat < 0x110000 := c.valid
  unfold encodeChar
  split
  · -- A scalar is no surrogate, so its code unit stands alone
    have hhigh : isHigh c.toNat = false := by
      simp only [isHigh, Bool.and_eq_false_iff, decide_eq_false_iff_not]
      omega
    have hlow : isLow c.toNat = false := by
      simp only [isLow, Bool.and_eq_false_iff, decide_eq_false_iff_not]
      omega
    have hsingle : decodeSingle c.toNat = c := by
      rw [decodeSingle, hhigh, hlow]
      exact Char.ofNat_toNat c
    cases rest with
    | nil => exact congrArg (fun d => [d]) hsingle
    | cons u rest =>
      rw [List.singleton_append, decodeList, hhigh, Bool.false_and, hsingle]
      rfl
  · rename_i hbmp
    -- A scalar above the first plane is taken apart and put together again
    have hhigh : isHigh (0xD800 + (c.toNat - 0x10000) / 0x400) = true := by
      simp only [isHigh, Bool.and_eq_true, decide_eq_true_eq]
      omega
    have hlow : isLow (0xDC00 + (c.toNat - 0x10000) % 0x400) = true := by
      simp only [isLow, Bool.and_eq_true, decide_eq_true_eq]
      omega
    have hvalue : 0x10000 + (0xD800 + (c.toNat - 0x10000) / 0x400 - 0xD800) * 0x400 +
        (0xDC00 + (c.toNat - 0x10000) % 0x400 - 0xDC00) = c.toNat := by
      omega
    rw [List.cons_append, List.cons_append, List.nil_append, decodeList, hhigh, hlow, hvalue,
      Char.ofNat_toNat]
    rfl

@[simp] theorem decode_encode (s : String) : decode (encode s) = s := by
  have hlist : ∀ cs : List Char, decodeList (cs.flatMap encodeChar) = cs := by
    intro cs
    induction cs with
    | nil => rfl
    | cons c cs ih => rw [List.flatMap_cons, decodeList_encodeChar, ih]
  rw [decode, encode, hlist, String.ofList_toList]

/-! ## Ranges -/

/-- A range of UTF-16 code units. -/
structure NSRange where
  location : Nat
  length : Nat

/-- The range lies within the string. -/
def NSRange.InBounds (range : NSRange) (s : String) : Prop :=
  range.location + range.length ≤ (encode s).length

instance (range : NSRange) (s : String) : Decidable (range.InBounds s) :=
  inferInstanceAs (Decidable (_ ≤ _))

/-- Replacing the code units in a range; a range that is out of bounds raises, which is a
trap. -/
def replacingCharacters (s : String) (range : NSRange) (replacement : String) :
    Option String :=
  if range.InBounds s then
    some (decode ((encode s).take range.location ++ encode replacement ++
      (encode s).drop (range.location + range.length)))
  else none

theorem replacingCharacters_of_inBounds {s : String} {range : NSRange}
    (h : range.InBounds s) (replacement : String) :
    ∃ t, replacingCharacters s range replacement = some t := by
  simp only [replacingCharacters, h, if_true, Option.some.injEq, exists_eq']

/-- A replacement changes the length by the difference of what it puts in and takes out. -/
theorem length_replacingCharacters {s t : String} {range : NSRange} {replacement : String}
    (h : replacingCharacters s range replacement = some t) :
    (encode t).length + range.length = (encode s).length + (encode replacement).length := by
  unfold replacingCharacters at h
  split at h
  · rename_i hbounds
    rw [Option.some.injEq] at h
    have hunits : ∀ u ∈ (encode s).take range.location ++ encode replacement ++
        (encode s).drop (range.location + range.length), u < 0x10000 := by
      intro u hu
      rw [List.mem_append, List.mem_append] at hu
      rcases hu with (hu | hu) | hu
      · exact encode_lt s u (List.mem_of_mem_take hu)
      · exact encode_lt replacement u hu
      · exact encode_lt s u (List.mem_of_mem_drop hu)
    unfold NSRange.InBounds at hbounds
    rw [← h, length_encode_decode hunits]
    simp only [List.length_append, List.length_take, List.length_drop]
    omega
  · exact absurd h (by simp)

/-- Putting a text in at the end appends it. -/
theorem replacingCharacters_end (s replacement : String) :
    replacingCharacters s ⟨(encode s).length, 0⟩ replacement = some (s ++ replacement) := by
  have hbounds : NSRange.InBounds ⟨(encode s).length, 0⟩ s := Nat.le_refl _
  rw [replacingCharacters, if_pos hbounds, Nat.add_zero, List.take_length, List.drop_length,
    List.append_nil, ← encode_append, decode_encode]

end ThorChat.Library.Utf16
