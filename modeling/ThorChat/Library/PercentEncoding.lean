import ThorChat.Library.Query

/-!
# Percent Encoding

Writing escapes: a character outside a chosen set is replaced by the escapes of its bytes.
As long as `%` itself is outside the set, reading undoes the writing
(`percentDecode_percentEncode`), and when the separators are outside it too, a query of arbitrary
names and values is read back as these names and values (`parseQuery_encodeItems`).
-/

namespace ThorChat.Library.Query

/-! ## Bytes -/

/-- The bytes of a text. -/
def utf8 (s : String) : List UInt8 := s.toList.flatMap String.utf8EncodeChar

/-- The text of bytes. -/
def ofUtf8 (bytes : List UInt8) : Option String := String.fromUTF8? bytes.toByteArray

@[simp] theorem ofUtf8_utf8 (s : String) : ofUtf8 (utf8 s) = some s := by
  have hbytes : (utf8 s).toByteArray = s.toList.utf8Encode := rfl
  rw [ofUtf8, hbytes, String.fromUTF8?, dif_pos ByteArray.isValidUTF8_utf8Encode]
  exact congrArg some String.ofList_toList

@[simp] theorem utf8_append (s t : String) : utf8 (s ++ t) = utf8 s ++ utf8 t := by
  rw [utf8, String.toList_append, List.flatMap_append]
  rfl

/-- A byte below 128 stands for itself only. -/
theorem toNat_of_mem_utf8EncodeChar {a : Nat} (ha : a < 128) {c : Char}
    (h : UInt8.ofNat a ∈ String.utf8EncodeChar c) : c.toNat = a := by
  -- Numbers below 256 are told apart as bytes, so the rest is arithmetic
  have hbyte : ∀ n < 256, UInt8.ofNat a = UInt8.ofNat n → a = n := by
    intro n hn heq
    have hnat := congrArg UInt8.toNat heq
    rw [UInt8.toNat_ofNat_of_lt' (show a < 256 by omega), UInt8.toNat_ofNat_of_lt' hn] at hnat
    exact hnat
  have hlow : c.toNat = c.val.toNat := rfl
  simp only [String.utf8EncodeChar] at h
  split at h
  · rename_i hone
    rw [hlow, hbyte _ (by omega) (List.mem_singleton.mp h)]
  · -- The bytes of longer characters start at 128
    split_ifs at h <;> simp only [List.mem_cons, List.not_mem_nil, or_false] at h
    · rcases h with h | h
      · have := hbyte _ (by omega) h
        omega
      · have := hbyte _ (by omega) h
        omega
    · rcases h with h | h | h <;> have := hbyte _ (by omega) h <;> omega
    · rcases h with h | h | h | h <;> have := hbyte _ (by omega) h <;> omega

theorem mem_utf8 {a : Nat} (ha : a < 128) {s : String} (h : UInt8.ofNat a ∈ utf8 s) :
    Char.ofNat a ∈ s.toList := by
  obtain ⟨c, hc, hmem⟩ := List.mem_flatMap.mp h
  rw [← toNat_of_mem_utf8EncodeChar ha hmem, Char.ofNat_toNat]
  exact hc

/-- The digit of a value below 16. -/
def hexDigit (n : Nat) : Char :=
  if n < 10 then Char.ofNat ('0'.toNat + n) else Char.ofNat ('A'.toNat + (n - 10))

/-- A byte, written as an escape. -/
def escapeByte (b : UInt8) : List Char :=
  ['%', hexDigit (b.toNat / 16), hexDigit (b.toNat % 16)]

theorem hexValue_hexDigit : ∀ n < 16, hexValue (hexDigit n) = some n := by decide

theorem isAlphanum_hexDigit : ∀ n < 16, (hexDigit n).isAlphanum := by decide

theorem unescape_escapeByte_append (b : UInt8) (cs : List Char) :
    unescape (escapeByte b ++ cs) = (unescape cs).map (b :: ·) := by
  have hb : b.toNat < 256 := UInt8.toNat_lt b
  have hhigh : b.toNat / 16 < 16 := by omega
  have hlow : b.toNat % 16 < 16 := by omega
  -- The two digits are the quotient and the remainder by 16
  have hsum : 16 * (b.toNat / 16) + b.toNat % 16 = b.toNat := by omega
  simp only [escapeByte, List.cons_append, List.nil_append, unescape]
  rw [hexValue_hexDigit _ hhigh, hexValue_hexDigit _ hlow, Option.bind_some, Option.bind_some,
    hsum, UInt8.ofNat_toNat]

theorem unescape_escapeBytes_append (bytes : List UInt8) (cs : List Char) :
    unescape (bytes.flatMap escapeByte ++ cs) = (unescape cs).map (bytes ++ ·) := by
  induction bytes with
  | nil => simp
  | cons b bytes ih =>
    rw [List.flatMap_cons, List.append_assoc, unescape_escapeByte_append, ih, Option.map_map]
    apply congrArg (Option.map · (unescape cs))
    funext rest
    rw [Function.comp_apply, List.cons_append]

/-! ## Texts -/

/-- A text without the separator stands before it. -/
theorem bne_of_not_mem {separator : Char} {cs : List Char} (h : separator ∉ cs) :
    ∀ c ∈ cs, (c != separator) = true := fun _ hc => bne_iff_ne.mpr (ne_of_mem_of_not_mem hc h)

section

variable (allowed : Char → Bool)

/-- A text with every character outside `allowed` escaped. -/
def percentEncode (cs : List Char) : List Char :=
  cs.flatMap fun c => if allowed c then [c] else (String.utf8EncodeChar c).flatMap escapeByte

@[simp] theorem percentEncode_nil : percentEncode allowed [] = [] := rfl

theorem percentEncode_cons (c : Char) (cs : List Char) :
    percentEncode allowed (c :: cs) =
      (if allowed c then [c] else (String.utf8EncodeChar c).flatMap escapeByte) ++
        percentEncode allowed cs :=
  List.flatMap_cons

variable {allowed}

/-- Escapes and the characters that stand for themselves are read as the bytes of the text. -/
theorem unescape_percentEncode (hpercent : allowed '%' = false) (cs : List Char) :
    (unescape (percentEncode allowed cs)).map List.toByteArray = some cs.utf8Encode := by
  -- On the text; the bytes of the rest are read first
  induction cs with
  | nil => rfl
  | cons c cs ih =>
    obtain ⟨bytes, hbytes, hcs⟩ := Option.map_eq_some_iff.mp ih
    have hread : unescape (percentEncode allowed (c :: cs)) =
        some (String.utf8EncodeChar c ++ bytes) := by
      rw [percentEncode_cons]
      split
      · -- A character that stands for itself is not the escape character
        rename_i hc
        have hne : c ≠ '%' := by
          intro h
          rw [h, hpercent] at hc
          exact Bool.noConfusion hc
        rw [List.singleton_append, unescape_cons hne, hbytes, Option.map_some]
      · rw [unescape_escapeBytes_append, hbytes, Option.map_some]
    rw [hread, Option.map_some, List.toByteArray_append, hcs, List.utf8Encode_cons,
      List.utf8Encode_singleton]

/-- Reading the escapes gives back every text. -/
theorem percentDecode_percentEncode (hpercent : allowed '%' = false) (cs : List Char) :
    percentDecode (percentEncode allowed cs) = some (String.ofList cs) := by
  obtain ⟨bytes, hbytes, hcs⟩ := Option.map_eq_some_iff.mp (unescape_percentEncode hpercent cs)
  rw [percentDecode, hbytes, Option.bind_some, hcs, String.fromUTF8?,
    dif_pos ByteArray.isValidUTF8_utf8Encode]
  rfl

/-- What is written are allowed characters and escapes. -/
theorem mem_percentEncode {c : Char} {cs : List Char} (h : c ∈ percentEncode allowed cs) :
    allowed c ∨ c = '%' ∨ c.isAlphanum := by
  obtain ⟨d, -, hd⟩ := List.mem_flatMap.mp h
  -- A character is kept if it is allowed, and else only escapes are written for it
  split at hd
  · rename_i hallowed
    obtain rfl := List.mem_singleton.mp hd
    exact Or.inl hallowed
  · obtain ⟨b, -, hb⟩ := List.mem_flatMap.mp hd
    have hbyte : b.toNat < 256 := UInt8.toNat_lt b
    simp only [escapeByte, List.mem_cons, List.not_mem_nil, or_false] at hb
    rcases hb with hb | hb | hb
    · exact Or.inr (Or.inl hb)
    · exact Or.inr (Or.inr (hb ▸ isAlphanum_hexDigit _ (by omega)))
    · exact Or.inr (Or.inr (hb ▸ isAlphanum_hexDigit _ (by omega)))

end

/-! ## Queries -/

/-- Reading one by one what was written one by one. -/
theorem mapM_map_eq_some {α β γ : Type} {read : β → Option γ} {write : α → β} {result : α → γ}
    {xs : List α} (h : ∀ x ∈ xs, read (write x) = some (result x)) :
    (xs.map write).mapM read = some (xs.map result) := by
  induction xs with
  | nil => rfl
  | cons x xs ih =>
    obtain ⟨hx, hxs⟩ := List.forall_mem_cons.mp h
    rw [List.map_cons, List.mapM_cons, hx, ih hxs]
    rfl

/-- A set that leaves out the characters with a meaning in a query. -/
structure Separating (allowed : Char → Bool) : Prop where
  percent : allowed '%' = false
  ampersand : allowed '&' = false
  equals : allowed '=' = false
  fragment : allowed '#' = false

/-- A name and its value, escaped. -/
def encodeItem (allowed : Char → Bool) (item : String × String) : List Char :=
  percentEncode allowed item.1.toList ++ '=' :: percentEncode allowed item.2.toList

/-- A query of escaped names and values. -/
def encodeItems (allowed : Char → Bool) (items : List (String × String)) : List Char :=
  ['&'].intercalate (items.map (encodeItem allowed))

namespace Separating

variable {allowed : Char → Bool}

theorem not_mem_percentEncode (h : Separating allowed) {c : Char} (hc : c ∈ ['&', '=', '#'])
    (cs : List Char) : c ∉ percentEncode allowed cs := by
  intro hmem
  -- The marks are neither allowed nor part of an escape
  have hmark : allowed c = false ∧ c ≠ '%' ∧ c.isAlphanum = false := by
    simp only [List.mem_cons, List.not_mem_nil, or_false] at hc
    rcases hc with hc | hc | hc
    · exact hc ▸ ⟨h.ampersand, by decide, by decide⟩
    · exact hc ▸ ⟨h.equals, by decide, by decide⟩
    · exact hc ▸ ⟨h.fragment, by decide, by decide⟩
  obtain ⟨hallowed, hpercent, halpha⟩ := hmark
  rcases mem_percentEncode hmem with hmem | hmem | hmem
  · rw [hallowed] at hmem
    exact Bool.noConfusion hmem
  · exact hpercent hmem
  · rw [halpha] at hmem
    exact Bool.noConfusion hmem

theorem ampersand_not_mem_encodeItem (h : Separating allowed) (item : String × String) :
    '&' ∉ encodeItem allowed item := by
  have hname := h.not_mem_percentEncode (c := '&') (by simp) item.1.toList
  have hvalue := h.not_mem_percentEncode (c := '&') (by simp) item.2.toList
  simp [encodeItem, hname, hvalue]

theorem parseItem_encodeItem (h : Separating allowed) (item : String × String) :
    parseItem (encodeItem allowed item) = some (item.1, some item.2) := by
  have hname : ∀ c ∈ percentEncode allowed item.1.toList, (c != '=') = true :=
    bne_of_not_mem (h.not_mem_percentEncode (by simp) _)
  -- The name has no `=` of its own, so the first one is the separator
  have htake : (encodeItem allowed item).takeWhile (· != '=') =
      percentEncode allowed item.1.toList := by
    rw [encodeItem, List.takeWhile_append_of_pos hname]
    simp
  have hdrop : (encodeItem allowed item).dropWhile (· != '=') =
      '=' :: percentEncode allowed item.2.toList := by
    rw [encodeItem, List.dropWhile_append_of_pos hname]
    simp
  rw [parseItem, htake, hdrop, percentDecode_percentEncode h.percent]
  simp [percentDecode_percentEncode h.percent]

end Separating

theorem parseItems_append (xs ys : List (List Char)) :
    parseItems (xs ++ ys) =
      (parseItems xs).bind fun items => (parseItems ys).map (items ++ ·) := by
  induction xs with
  | nil => simp [parseItems]
  | cons x xs ih =>
    cases hx : parseItem x with
    | none => simp [parseItems, hx]
    | some item =>
      cases hxs : parseItems xs with
      | none => simp [parseItems, hx, hxs, ih]
      | some items => simp [parseItems, hx, hxs, ih, Option.map_map, Function.comp_def]

theorem splitOn_append_cons (sep : Char) (cs ds : List Char) :
    (cs ++ sep :: ds).splitOn sep = cs.splitOn sep ++ ds.splitOn sep := by
  induction cs with
  | nil => simp [List.splitOn_cons_eq_if_modifyHead]
  | cons c cs ih =>
    rw [List.cons_append, List.splitOn_cons_eq_if_modifyHead, ih,
      List.splitOn_cons_eq_if_modifyHead]
    split
    · rfl
    · -- The first piece of the left side takes the character
      cases hcs : cs.splitOn sep with
      | nil => exact absurd hcs (List.splitOn_ne_nil sep cs)
      | cons first rest => rfl

/-- A query appended to another with a `&` is read after it. -/
theorem parseQuery_append (cs ds : List Char) :
    parseQuery (cs ++ '&' :: ds) =
      (parseQuery cs).bind fun items => (parseQuery ds).map (items ++ ·) := by
  rw [parseQuery, splitOn_append_cons, parseItems_append]
  rfl

theorem splitOn_of_not_mem {sep : Char} {cs : List Char} (h : sep ∉ cs) :
    cs.splitOn sep = [cs] := by
  induction cs with
  | nil => exact List.splitOn_nil sep
  | cons c cs ih =>
    obtain ⟨hc, hcs⟩ : sep ≠ c ∧ sep ∉ cs := by simpa using h
    rw [List.splitOn_cons_eq_if_modifyHead, ih hcs, if_neg (by simpa using Ne.symm hc)]
    rfl

/-- Whatever the names and values hold, they are read back in their order. -/
theorem parseQuery_encodeItems {allowed : Char → Bool} (h : Separating allowed)
    {items : List (String × String)} (hne : items ≠ []) :
    parseQuery (encodeItems allowed items) =
      some (items.map fun item => (item.1, some item.2)) := by
  induction items with
  | nil => exact absurd rfl hne
  | cons item items ih =>
    have hitem : parseQuery (encodeItem allowed item) = some [(item.1, some item.2)] := by
      rw [parseQuery, splitOn_of_not_mem (h.ampersand_not_mem_encodeItem item), parseItems,
        h.parseItem_encodeItem]
      rfl
    -- The last item has no separator behind it
    cases items with
    | nil => simpa [encodeItems] using hitem
    | cons next items =>
      have hrest := ih (List.cons_ne_nil next items)
      have hsplit : encodeItems allowed (item :: next :: items) =
          encodeItem allowed item ++ '&' :: encodeItems allowed (next :: items) := by
        simp [encodeItems]
      rw [hsplit, parseQuery_append, hitem, hrest]
      rfl

theorem parseQuery_nil : parseQuery [] = some [("", none)] := by decide

end ThorChat.Library.Query
