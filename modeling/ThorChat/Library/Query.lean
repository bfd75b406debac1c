import Mathlib.Data.List.Forall2
import Mathlib.Data.List.TakeWhile

/-!
# URL Queries

Reading the query of a URL: split it at every `&`, split each item at its first `=`, and decode the
percent escapes of both sides.

## What is proved once here

A query written by concatenating names and values is read back as these names and values exactly
if no value holds one of `&`, `#` and `%` (`parseQuery_render_iff`). That these are needed is
a count of bytes: what is read back is never longer than what was written, and it is shorter as
soon as the query is cut off or an escape is decoded.
-/

namespace ThorChat.Library.Query

/-! ## Percent escapes -/

/-- The value of a hexadecimal digit. -/
def hexValue (c : Char) : Option Nat :=
  if c.isDigit then some (c.toNat - '0'.toNat)
  else if 'a' ≤ c ∧ c ≤ 'f' then some (c.toNat - 'a'.toNat + 10)
  else if 'A' ≤ c ∧ c ≤ 'F' then some (c.toNat - 'A'.toNat + 10)
  else none

/-- The bytes of a text with its percent escapes decoded, `none` when an escape is malformed. -/
def unescape : List Char → Option (List UInt8)
  | [] => some []
  | '%' :: high :: low :: cs =>
    (hexValue high).bind fun h => (hexValue low).bind fun l =>
      (unescape cs).map (UInt8.ofNat (16 * h + l) :: ·)
  | '%' :: _ => none
  | c :: cs => (unescape cs).map (String.utf8EncodeChar c ++ ·)

/-- Remove the percent encoding, `none` when the result is not UTF-8. -/
def percentDecode (cs : List Char) : Option String :=
  (unescape cs).bind fun bytes => String.fromUTF8? bytes.toByteArray

theorem unescape_cons {c : Char} (hc : c ≠ '%') (cs : List Char) :
    unescape (c :: cs) = (unescape cs).map (String.utf8EncodeChar c ++ ·) := by
  rw [unescape]
  · simp [hc]
  · simp [hc]

/-- The number of bytes of a text. -/
def byteCount : List Char → Nat
  | [] => 0
  | c :: cs => c.utf8Size + byteCount cs

@[simp] theorem byteCount_nil : byteCount [] = 0 := rfl

@[simp] theorem byteCount_cons (c : Char) (cs : List Char) :
    byteCount (c :: cs) = c.utf8Size + byteCount cs := rfl

@[simp] theorem byteCount_append (cs ds : List Char) :
    byteCount (cs ++ ds) = byteCount cs + byteCount ds := by
  induction cs with
  | nil => rw [List.nil_append, byteCount_nil, Nat.zero_add]
  | cons c cs ih => rw [List.cons_append, byteCount_cons, byteCount_cons, ih, Nat.add_assoc]

theorem size_utf8Encode (cs : List Char) : cs.utf8Encode.size = byteCount cs := by
  induction cs with
  | nil => simp
  | cons c cs ih =>
    rw [List.utf8Encode_cons, ByteArray.size_append, List.utf8Encode_singleton,
      List.size_toByteArray, String.length_utf8EncodeChar, ih, byteCount_cons]

/-- Decoding an escape turns three bytes into one. -/
theorem length_unescape {cs : List Char} {bytes : List UInt8} (h : unescape cs = some bytes) :
    bytes.length ≤ byteCount cs ∧ ('%' ∈ cs → bytes.length < byteCount cs) := by
  induction cs using unescape.induct generalizing bytes with
  | case1 => simp_all [unescape]
  | case2 high low cs ih =>
    -- An escape: three characters, one byte
    simp only [unescape, Option.bind_eq_some_iff, Option.map_eq_some_iff] at h
    obtain ⟨x, -, y, -, rest, hrest, rfl⟩ := h
    have hlength := (ih hrest).1
    have hhigh := Char.utf8Size_pos high
    have hlow := Char.utf8Size_pos low
    simp only [List.length_cons, byteCount_cons]
    constructor
    · omega
    · intro
      omega
  | case3 cs hshort => simp_all [unescape]
  | case4 c cs hlong hc ih =>
    -- Any other character stands for its own bytes
    have hne : c ≠ '%' := fun h => hc h
    rw [unescape_cons hne, Option.map_eq_some_iff] at h
    obtain ⟨rest, hrest, rfl⟩ := h
    obtain ⟨hle, hlt⟩ := ih hrest
    rw [List.length_append, String.length_utf8EncodeChar, byteCount_cons]
    refine ⟨by omega, fun hmem => ?_⟩
    have hin : '%' ∈ cs := (List.mem_cons.mp hmem).resolve_left hne.symm
    have := hlt hin
    omega

/-- A text without escapes decodes to itself. -/
theorem unescape_of_not_mem {cs : List Char} (h : '%' ∉ cs) :
    (unescape cs).map List.toByteArray = some cs.utf8Encode := by
  induction cs with
  | nil => rfl
  | cons c cs ih =>
    obtain ⟨hne, hrest⟩ : '%' ≠ c ∧ '%' ∉ cs := by simpa using h
    obtain ⟨bytes, hbytes, hcs⟩ := Option.map_eq_some_iff.mp (ih hrest)
    rw [unescape_cons (Ne.symm hne), hbytes, Option.map_some, Option.map_some,
      List.toByteArray_append, hcs, List.utf8Encode_cons, List.utf8Encode_singleton]

theorem percentDecode_of_not_mem {cs : List Char} (h : '%' ∉ cs) :
    percentDecode cs = some (String.ofList cs) := by
  obtain ⟨bytes, hbytes, hcs⟩ := Option.map_eq_some_iff.mp (unescape_of_not_mem h)
  rw [percentDecode, hbytes, Option.bind_some, hcs, String.fromUTF8?,
    dif_pos ByteArray.isValidUTF8_utf8Encode]
  rfl

/-- Decoding never adds a byte, and an escape takes two away. -/
theorem byteCount_percentDecode {cs : List Char} {s : String} (h : percentDecode cs = some s) :
    byteCount s.toList ≤ byteCount cs ∧ ('%' ∈ cs → byteCount s.toList < byteCount cs) := by
  obtain ⟨bytes, hbytes, hs⟩ := Option.bind_eq_some_iff.mp h
  have hsize : byteCount s.toList = bytes.length := by
    rw [String.fromUTF8?] at hs
    split at hs
    · rw [Option.some.injEq] at hs
      rw [← size_utf8Encode, String.utf8Encode_toList, ← hs, ← List.size_toByteArray]
      rfl
    · exact absurd hs (by simp)
  rw [hsize]
  exact length_unescape hbytes

/-! ## Items -/

/-- A name, and a value if the item has a `=`. -/
abbrev Item := String × Option String

/-- Read an item: its first `=` ends the name. -/
def parseItem (cs : List Char) : Option Item :=
  (percentDecode (cs.takeWhile (· != '='))).bind fun name =>
    match cs.dropWhile (· != '=') with
    | [] => some (name, none)
    | _ :: value => (percentDecode value).map fun value => (name, some value)

/-- Read items one after the other. -/
def parseItems : List (List Char) → Option (List Item)
  | [] => some []
  | cs :: rest => (parseItem cs).bind fun item => (parseItems rest).map (item :: ·)

/-- Read a query. -/
def parseQuery (cs : List Char) : Option (List Item) := parseItems (cs.splitOn '&')

/-- The query of a URL: what follows the first `?`, up to the fragment. -/
def query (url : String) : List Char :=
  ((url.toList.takeWhile (· != '#')).dropWhile (· != '?')).tail

/-- A name and its value, written without any escapes. -/
def renderItem (item : String × String) : List Char :=
  item.1.toList ++ '=' :: item.2.toList

/-- A query of names and values, written without any escapes. -/
def render (items : List (String × String)) : List Char :=
  ['&'].intercalate (items.map renderItem)

/-- None of the characters with a meaning in a query. -/
def Plain (s : String) : Prop := ∀ c ∈ s.toList, c ≠ '&' ∧ c ≠ '#' ∧ c ≠ '%'

instance (s : String) : Decidable (Plain s) :=
  List.decidableBAll (fun c => c ≠ '&' ∧ c ≠ '#' ∧ c ≠ '%') s.toList

/-- A name is plain and has no `=` either. -/
def PlainName (s : String) : Prop := Plain s ∧ '=' ∉ s.toList

instance (s : String) : Decidable (PlainName s) := inferInstanceAs (Decidable (_ ∧ _))

theorem ofList_render_singleton (item : String × String) :
    String.ofList (render [item]) = item.1 ++ "=" ++ item.2 := by
  apply String.toList_injective
  simp [render, renderItem]

theorem ofList_render_cons (item next : String × String) (items : List (String × String)) :
    String.ofList (render (item :: next :: items)) =
      item.1 ++ "=" ++ item.2 ++ "&" ++ String.ofList (render (next :: items)) := by
  apply String.toList_injective
  simp [render, renderItem]

theorem parseItems_eq_some {pieces : List (List Char)} {items : List Item} :
    parseItems pieces = some items ↔
      List.Forall₂ (fun piece item => parseItem piece = some item) pieces items := by
  induction pieces generalizing items with
  | nil => simp [parseItems, eq_comm]
  | cons piece pieces ih =>
    simp only [parseItems, Option.bind_eq_some_iff, Option.map_eq_some_iff, ih,
      List.forall₂_cons_left_iff]
    constructor
    · rintro ⟨item, hitem, rest, hrest, rfl⟩
      exact ⟨item, rest, hitem, hrest, rfl⟩
    · rintro ⟨item, rest, hitem, hrest, rfl⟩
      exact ⟨item, hitem, rest, hrest, rfl⟩

/-- A plain name and a value without escapes are read back. -/
theorem parseItem_renderItem {item : String × String} (hname : PlainName item.1)
    (hvalue : '%' ∉ item.2.toList) : parseItem (renderItem item) = some (item.1, some item.2) := by
  -- The name has no `=`, so the first one is the separator
  have htake : (renderItem item).takeWhile (· != '=') = item.1.toList := by
    rw [renderItem, List.takeWhile_append_of_pos]
    · simp
    · rintro c hc
      exact bne_iff_ne.mpr (ne_of_mem_of_not_mem hc hname.2)
  have hdrop : (renderItem item).dropWhile (· != '=') = '=' :: item.2.toList := by
    rw [renderItem, List.dropWhile_append_of_pos]
    · simp
    · rintro c hc
      exact bne_iff_ne.mpr (ne_of_mem_of_not_mem hc hname.2)
  have hescape : '%' ∉ item.1.toList := fun h => (hname.1 '%' h).2.2 rfl
  rw [parseItem, htake, hdrop, percentDecode_of_not_mem hescape]
  simp [percentDecode_of_not_mem hvalue]

/-- What an item is read from has at least its bytes, and more if it holds an escape. -/
theorem renderItem_of_parseItem {piece : List Char} {item : String × String}
    (h : parseItem piece = some (item.1, some item.2)) :
    byteCount (renderItem item) ≤ byteCount piece ∧
      ('%' ∈ piece → byteCount (renderItem item) < byteCount piece) ∧
      ('%' ∉ piece → piece = renderItem item) := by
  obtain ⟨name, hname, hrest⟩ := Option.bind_eq_some_iff.mp h
  -- The item has a value, so there is a `=`
  cases hdrop : piece.dropWhile (· != '=') with
  | nil =>
    rw [hdrop] at hrest
    simp at hrest
  | cons c text =>
    have hc : c = '=' := by
      have hne : piece.dropWhile (· != '=') ≠ [] := by
        rw [hdrop]
        exact List.cons_ne_nil c text
      have hhead := List.head_dropWhile_not (· != '=') hne
      simpa only [hdrop, List.head_cons, bne_eq_false_iff_eq] using hhead
    subst hc
    simp only [hdrop, Option.map_eq_some_iff, Prod.mk.injEq, Option.some.injEq] at hrest
    obtain ⟨value, hvalue, rfl, rfl⟩ := hrest
    obtain ⟨hnamele, hnamelt⟩ := byteCount_percentDecode hname
    obtain ⟨hvaluele, hvaluelt⟩ := byteCount_percentDecode hvalue
    have hpiece : piece = piece.takeWhile (· != '=') ++ '=' :: text := by
      rw [← hdrop, List.takeWhile_append_dropWhile]
    have hbytes : byteCount piece =
        byteCount (piece.takeWhile (· != '=')) + (Char.utf8Size '=' + byteCount text) := by
      conv_lhs => rw [hpiece, byteCount_append, byteCount_cons]
    rw [renderItem, byteCount_append, byteCount_cons, hbytes]
    -- An escape on either side makes the item that is read shorter
    refine ⟨by omega, fun hmem => ?_, fun hnot => ?_⟩
    · rw [hpiece, List.mem_append, List.mem_cons] at hmem
      rcases hmem with hmem | hmem | hmem
      · have := hnamelt hmem
        omega
      · exact absurd hmem (by decide)
      · have := hvaluelt hmem
        omega
    · -- Without escapes both sides are read as they stand
      rw [hpiece, List.mem_append, List.mem_cons, not_or, not_or] at hnot
      rw [percentDecode_of_not_mem hnot.1, Option.some.injEq] at hname
      rw [percentDecode_of_not_mem hnot.2.2, Option.some.injEq] at hvalue
      rw [← hname, ← hvalue, String.toList_ofList, String.toList_ofList]
      exact hpiece

/-! ## Queries -/

/-- Splitting leaves no separator. -/
theorem not_mem_of_mem_splitOn {sep : Char} {cs piece : List Char} (h : piece ∈ cs.splitOn sep) :
    sep ∉ piece := by
  induction cs generalizing piece with
  | nil =>
    rw [List.splitOn_nil, List.mem_singleton] at h
    simp [h]
  | cons c cs ih =>
    rw [List.splitOn_cons_eq_if_modifyHead] at h
    split at h
    · rcases List.mem_cons.mp h with rfl | h
      · simp
      · exact ih h
    · rename_i hc
      -- Another character goes to the first piece of the rest
      have hne : c ≠ sep := by simpa using hc
      cases hrest : cs.splitOn sep with
      | nil => exact absurd hrest (List.splitOn_ne_nil sep cs)
      | cons first rest =>
        rw [hrest] at h
        rcases List.mem_cons.mp h with rfl | h
        · have hfirst := ih (hrest ▸ List.mem_cons_self)
          simp [hne.symm, hfirst]
        · exact ih (hrest ▸ List.mem_cons_of_mem _ h)

theorem mem_intercalate {sep c : Char} (hc : c ≠ sep) (texts : List (List Char)) :
    c ∈ [sep].intercalate texts ↔ ∃ text ∈ texts, c ∈ text := by
  induction texts with
  | nil => simp
  | cons text texts ih =>
    cases texts with
    | nil => simp
    | cons next texts =>
      rw [List.intercalate_cons_cons, List.mem_append, List.mem_append, ih]
      simp [hc]

/-- If each of the pieces has at least the bytes of its counterpart, joining them does not save
any; and where the pieces take no more bytes in total, they are their counterparts. -/
theorem intercalate_tight {pieces texts : List (List Char)}
    (h : List.Forall₂ (fun piece text => byteCount text ≤ byteCount piece ∧
      (byteCount piece ≤ byteCount text → piece = text)) pieces texts) :
    byteCount (['&'].intercalate texts) ≤ byteCount (['&'].intercalate pieces) ∧
      (byteCount (['&'].intercalate pieces) ≤ byteCount (['&'].intercalate texts) →
        pieces = texts) := by
  induction h with
  | nil => simp
  | @cons piece text pieces texts hhead htail ih =>
    -- The last piece has no separator after it
    cases htail with
    | nil =>
      simp only [List.intercalate_singleton]
      exact ⟨hhead.1, fun hle => by rw [hhead.2 hle]⟩
    | @cons piece' text' pieces texts hhead' htail =>
      simp only [List.intercalate_cons_cons, byteCount_append] at ih ⊢
      obtain ⟨hle, heq⟩ := ih
      refine ⟨by omega, fun hall => ?_⟩
      -- Nothing to spare in the sum, so nothing to spare in either part
      rw [hhead.2 (by omega), heq (by omega)]

theorem byteCount_pos {cs : List Char} (h : cs ≠ []) : 0 < byteCount cs := by
  obtain ⟨c, cs, rfl⟩ := List.exists_cons_of_ne_nil h
  have := Char.utf8Size_pos c
  rw [byteCount_cons]
  omega

/-- What is cut off at a fragment is shorter, unless there is none. -/
theorem byteCount_takeWhile (cs : List Char) :
    byteCount (cs.takeWhile (· != '#')) ≤ byteCount cs ∧
      (byteCount cs ≤ byteCount (cs.takeWhile (· != '#')) → '#' ∉ cs) := by
  have hsplit : byteCount cs =
      byteCount (cs.takeWhile (· != '#')) + byteCount (cs.dropWhile (· != '#')) := by
    rw [← byteCount_append, List.takeWhile_append_dropWhile]
  refine ⟨by omega, fun hle hmem => ?_⟩
  have hdrop : cs.dropWhile (· != '#') ≠ [] := by
    rw [Ne, List.dropWhile_eq_nil_iff]
    intro hall
    exact absurd (hall '#' hmem) (by simp)
  have := byteCount_pos hdrop
  omega

variable {items : List (String × String)}

theorem not_mem_renderItem {item : String × String} (hname : PlainName item.1)
    (hvalue : Plain item.2) : '&' ∉ renderItem item := by
  rw [renderItem, List.mem_append, List.mem_cons, not_or, not_or]
  refine ⟨fun h => ?_, by decide, fun h => ?_⟩
  · exact (hname.1 '&' h).1 rfl
  · exact (hvalue '&' h).1 rfl

/-- What holds of the separators and of the characters of all items holds of the query. -/
theorem forall_mem_render {p : Char → Prop} (hand : p '&') (heq : p '=')
    (hnames : ∀ item ∈ items, ∀ c ∈ item.1.toList, p c)
    (hvalues : ∀ item ∈ items, ∀ c ∈ item.2.toList, p c) : ∀ c ∈ render items, p c := by
  intro c hc
  by_cases hsep : c = '&'
  · exact hsep ▸ hand
  · obtain ⟨text, htext, hmem⟩ := (mem_intercalate hsep _).mp hc
    obtain ⟨item, hitem, rfl⟩ := List.mem_map.mp htext
    rw [renderItem, List.mem_append, List.mem_cons] at hmem
    rcases hmem with hmem | rfl | hmem
    · exact hnames item hitem c hmem
    · exact heq
    · exact hvalues item hitem c hmem

theorem takeWhile_render (hnames : ∀ item ∈ items, PlainName item.1)
    (hvalues : ∀ item ∈ items, Plain item.2) :
    (render items).takeWhile (· != '#') = render items := by
  rw [List.takeWhile_eq_self_iff]
  intro c hc
  have hchar : c ≠ '#' := by
    refine forall_mem_render (p := (· ≠ '#')) (by decide) (by decide) ?_ ?_ c hc
    · intro item hitem c hc
      exact ((hnames item hitem).1 c hc).2.1
    · intro item hitem c hc
      exact (hvalues item hitem c hc).2.1
  exact bne_iff_ne.mpr hchar

theorem parseQuery_of_plain (hne : items ≠ [])
    (hnames : ∀ item ∈ items, PlainName item.1) (hvalues : ∀ item ∈ items, Plain item.2) :
    parseQuery (render items) = some (items.map fun item => (item.1, some item.2)) := by
  have hsep : ∀ text ∈ items.map renderItem, '&' ∉ text := by
    intro text htext
    obtain ⟨item, hitem, rfl⟩ := List.mem_map.mp htext
    exact not_mem_renderItem (hnames item hitem) (hvalues item hitem)
  rw [parseQuery, render, List.splitOn_intercalate '&' hsep (by simpa using hne),
    parseItems_eq_some, List.forall₂_map_left_iff, List.forall₂_map_right_iff, List.forall₂_same]
  intro item hitem
  exact parseItem_renderItem (hnames item hitem) fun h => (hvalues item hitem '%' h).2.2 rfl

theorem plain_of_parseQuery
    (h : parseQuery ((render items).takeWhile (· != '#')) =
      some (items.map fun item => (item.1, some item.2))) :
    ∀ item ∈ items, Plain item.2 := by
  have hforall := parseItems_eq_some.mp h
  rw [List.forall₂_map_right_iff] at hforall
  -- Each piece has at least the bytes of the item it is read as
  have hbytes := hforall.imp fun piece item hpiece => renderItem_of_parseItem hpiece
  have htight : List.Forall₂ (fun piece text => byteCount text ≤ byteCount piece ∧
      (byteCount piece ≤ byteCount text → piece = text))
      (((render items).takeWhile (· != '#')).splitOn '&') (items.map renderItem) := by
    rw [List.forall₂_map_right_iff]
    refine hbytes.imp fun piece item hpiece => ⟨hpiece.1, fun hle => hpiece.2.2 fun hmem => ?_⟩
    have := hpiece.2.1 hmem
    omega
  obtain ⟨-, heq⟩ := intercalate_tight htight
  rw [List.intercalate_splitOn] at heq
  obtain ⟨hshorter, hfragment⟩ := byteCount_takeWhile (render items)
  -- The pieces are the rendered items, so nothing was cut off and no escape decoded
  have hpieces := heq hshorter
  have hwhole : (render items).takeWhile (· != '#') = render items := by
    have hjoin : ['&'].intercalate (((render items).takeWhile (· != '#')).splitOn '&') =
        (render items).takeWhile (· != '#') := List.intercalate_splitOn '&'
    rw [← hjoin, hpieces]
    rfl
  have hnofragment : '#' ∉ render items := hfragment (Nat.le_of_eq (by rw [hwhole]))
  rw [hpieces, List.forall₂_map_left_iff, List.forall₂_same] at hbytes
  intro item hitem c hc
  have hin : c ∈ renderItem item := by simp [renderItem, hc]
  have hmem : renderItem item ∈ items.map renderItem := List.mem_map_of_mem hitem
  refine ⟨?_, ?_, ?_⟩
  · rintro rfl
    exact not_mem_of_mem_splitOn (hpieces ▸ hmem) hin
  · rintro rfl
    exact hnofragment ((mem_intercalate (by decide) _).mpr ⟨renderItem item, hmem, hin⟩)
  · rintro rfl
    have := (hbytes item hitem).2.1 hin
    omega

/-- The query is what is written after the `?`, as far as the first `#`. -/
theorem query_append {base : String} (hbase : ∀ c ∈ base.toList, c ≠ '?' ∧ c ≠ '#')
    (cs : List Char) :
    query (base ++ "?" ++ String.ofList cs) = cs.takeWhile (· != '#') := by
  have htake : (base.toList ++ '?' :: cs).takeWhile (· != '#') =
      base.toList ++ '?' :: cs.takeWhile (· != '#') := by
    rw [List.takeWhile_append_of_pos]
    · simp
    · intro c hc
      exact bne_iff_ne.mpr (hbase c hc).2
  have hdrop : (base.toList ++ '?' :: cs.takeWhile (· != '#')).dropWhile (· != '?') =
      '?' :: cs.takeWhile (· != '#') := by
    rw [List.dropWhile_append_of_pos]
    · simp
    · intro c hc
      exact bne_iff_ne.mpr (hbase c hc).1
  have hlist : (base ++ "?" ++ String.ofList cs).toList = base.toList ++ '?' :: cs := by
    simp
  rw [query, hlist, htake, hdrop, List.tail_cons]

/-- Concatenation writes a query that is read back exactly if the values are plain. -/
theorem parseQuery_render_iff {base : String} (hbase : ∀ c ∈ base.toList, c ≠ '?' ∧ c ≠ '#')
    (hne : items ≠ []) (hnames : ∀ item ∈ items, PlainName item.1) :
    parseQuery (query (base ++ "?" ++ String.ofList (render items))) =
        some (items.map fun item => (item.1, some item.2)) ↔
      ∀ item ∈ items, Plain item.2 := by
  rw [query_append hbase]
  constructor
  · exact plain_of_parseQuery
  · intro hvalues
    rw [takeWhile_render hnames hvalues]
    exact parseQuery_of_plain hne hnames hvalues

end ThorChat.Library.Query
