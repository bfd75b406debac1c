import ThorChat.Library.PercentEncoding

/-!
# URL Components

Foundation's `URLComponents`, as far as the query of a URL is changed through it: the URL is cut
at its first `#` and, before that, at its first `?`. The query is a text of permitted characters
and escapes, in the components of a URL as well as when it is set.
-/

namespace ThorChat.Runtime

open ThorChat.Library.Query

/-- `CharacterSet.urlQueryAllowed`. -/
def urlQueryAllowed (c : Char) : Bool :=
  c.isAlphanum || "-._~!$&'()*+,;=:@/?".toList.contains c

/-- Nothing but permitted characters and complete escapes. -/
def isPercentEncodedQuery : List Char → Bool
  | [] => true
  | '%' :: high :: low :: cs =>
    (hexValue high).isSome && (hexValue low).isSome && isPercentEncodedQuery cs
  | '%' :: _ => false
  | c :: cs => urlQueryAllowed c && isPercentEncodedQuery cs

theorem isPercentEncodedQuery_cons {c : Char} (hc : c ≠ '%') (cs : List Char) :
    isPercentEncodedQuery (c :: cs) = (urlQueryAllowed c && isPercentEncodedQuery cs) := by
  rw [isPercentEncodedQuery]
  · simp [hc]
  · simp [hc]

/-- Texts of this kind can be put one after the other. -/
theorem isPercentEncodedQuery_append {cs : List Char} (h : isPercentEncodedQuery cs)
    (ds : List Char) : isPercentEncodedQuery (cs ++ ds) = isPercentEncodedQuery ds := by
  induction cs using isPercentEncodedQuery.induct with
  | case1 => rfl
  | case2 high low cs ih =>
    simp only [isPercentEncodedQuery, Bool.and_eq_true] at h
    simp only [List.cons_append, isPercentEncodedQuery, h.1.1, h.1.2, Bool.true_and, ih h.2]
  | case3 cs hshort => simp_all [isPercentEncodedQuery]
  | case4 c cs hlong hc ih =>
    have hne : c ≠ '%' := fun heq => hc heq
    rw [isPercentEncodedQuery_cons hne, Bool.and_eq_true] at h
    rw [List.cons_append, isPercentEncodedQuery_cons hne, h.1, Bool.true_and, ih h.2]

theorem isPercentEncodedQuery_of_allowed {cs : List Char}
    (h : ∀ c ∈ cs, urlQueryAllowed c = true) : isPercentEncodedQuery cs := by
  induction cs with
  | nil => rfl
  | cons c cs ih =>
    obtain ⟨hc, hcs⟩ := List.forall_mem_cons.mp h
    have hne : c ≠ '%' := by
      rintro rfl
      exact absurd hc (by decide)
    rw [isPercentEncodedQuery_cons hne, hc, ih hcs]
    rfl

theorem isPercentEncodedQuery_escapeBytes (bytes : List UInt8) :
    isPercentEncodedQuery (bytes.flatMap escapeByte) := by
  induction bytes with
  | nil => rfl
  | cons b bytes ih =>
    have hb : b.toNat < 256 := UInt8.toNat_lt b
    rw [List.flatMap_cons]
    simp only [escapeByte, List.cons_append, List.nil_append, isPercentEncodedQuery]
    rw [hexValue_hexDigit _ (by omega), hexValue_hexDigit _ (by omega), ih]
    rfl

/-- Escaped texts are of this kind. -/
theorem isPercentEncodedQuery_percentEncode {allowed : Char → Bool}
    (h : ∀ c, allowed c → urlQueryAllowed c) (cs : List Char) :
    isPercentEncodedQuery (percentEncode allowed cs) := by
  induction cs with
  | nil => rfl
  | cons c cs ih =>
    rw [percentEncode_cons]
    -- A character that stands for itself is allowed in a query, and an escape always is
    split
    · rename_i hc
      have hsingle : isPercentEncodedQuery [c] :=
        isPercentEncodedQuery_of_allowed (by simpa using h c hc)
      rw [isPercentEncodedQuery_append hsingle, ih]
    · rw [isPercentEncodedQuery_append (isPercentEncodedQuery_escapeBytes _), ih]

/-- A fragment would end the query. -/
theorem fragment_not_mem {cs : List Char} (h : isPercentEncodedQuery cs) : '#' ∉ cs := by
  induction cs using isPercentEncodedQuery.induct with
  | case1 => exact List.not_mem_nil
  | case2 high low cs ih =>
    simp only [isPercentEncodedQuery, Bool.and_eq_true] at h
    -- Neither digit of an escape is a `#`
    have hdigit : ∀ c, (hexValue c).isSome → c ≠ '#' := by
      rintro c hc rfl
      exact absurd hc (by decide)
    simp [(hdigit high h.1.1).symm, (hdigit low h.1.2).symm, ih h.2]
  | case3 cs hshort => simp_all [isPercentEncodedQuery]
  | case4 c cs hlong hc ih =>
    rw [isPercentEncodedQuery_cons fun heq => hc heq, Bool.and_eq_true] at h
    have hne : c ≠ '#' := by
      rintro rfl
      exact absurd h.1 (by decide)
    simp [hne.symm, ih h.2]

/-- `URLComponents`. -/
structure URLComponents where
  /-- Everything before the query. -/
  base : String
  percentEncodedQuery : Option String
  fragment : Option String
  base_plain : ∀ c ∈ base.toList, c ≠ '?' ∧ c ≠ '#'
  query_encoded : ∀ query, percentEncodedQuery = some query → isPercentEncodedQuery query.toList

namespace URLComponents

/-- What stands behind the first `mark`, nil when there is none. -/
def after (mark : Char) (cs : List Char) : Option String :=
  match cs.dropWhile (· != mark) with
  | [] => none
  | _ :: rest => some (String.ofList rest)

/-- The query in the text of a URL. -/
def queryOf (url : String) : Option String := after '?' (url.toList.takeWhile (· != '#'))

/-- `init?(url:resolvingAgainstBaseURL:)`: nil if the query is malformed. -/
def ofURL (url : String) : Option URLComponents :=
  if h : ∀ query, queryOf url = some query → isPercentEncodedQuery query.toList then
    some
      { base := String.ofList ((url.toList.takeWhile (· != '#')).takeWhile (· != '?'))
        percentEncodedQuery := queryOf url
        fragment := after '#' url.toList
        base_plain := by
          intro c hc
          rw [String.toList_ofList] at hc
          have hmark := List.mem_takeWhile_imp hc
          have hfragment := List.mem_takeWhile_imp ((List.takeWhile_prefix _).subset hc)
          exact ⟨bne_iff_ne.mp hmark, bne_iff_ne.mp hfragment⟩
        query_encoded := h }
  else none

/-- The setter of `percentEncodedQuery`, which traps when the text is malformed. -/
def setPercentEncodedQuery (self : URLComponents) (query : String) : Option URLComponents :=
  if h : isPercentEncodedQuery query.toList then
    some
      { self with
        percentEncodedQuery := some query
        query_encoded := by
          intro newQuery hnew
          obtain rfl := Option.some.inj hnew
          exact h }
  else none

/-- `url`. -/
def url (self : URLComponents) : String :=
  self.base ++ (self.percentEncodedQuery.map ("?" ++ ·)).getD "" ++
    (self.fragment.map ("#" ++ ·)).getD ""

/-- What a server reads from the query, nothing if there is none. -/
def items (self : URLComponents) : Option (List Item) :=
  match self.percentEncodedQuery with
  | none => some []
  | some query => parseQuery query.toList

theorem items_of_query {self : URLComponents} {query : String}
    (h : self.percentEncodedQuery = some query) : self.items = parseQuery query.toList := by
  rw [items, h]

theorem setPercentEncodedQuery_of_encoded (self : URLComponents) {query : String}
    (h : isPercentEncodedQuery query.toList) :
    ∃ changed, self.setPercentEncodedQuery query = some changed ∧ changed.base = self.base ∧
      changed.fragment = self.fragment ∧ changed.percentEncodedQuery = some query :=
  ⟨_, dif_pos h, rfl, rfl, rfl⟩

/-- A mark and what stands behind it, nothing when there is none. -/
def marked (mark : Char) (text : Option String) : List Char :=
  (text.map fun text => mark :: text.toList).getD []

theorem takeWhile_append_marked {mark : Char} {cs : List Char} (h : mark ∉ cs)
    (text : Option String) : (cs ++ marked mark text).takeWhile (· != mark) = cs := by
  rw [List.takeWhile_append_of_pos (bne_of_not_mem h)]
  cases text with
  | none => simp [marked]
  | some text => simp [marked]

theorem after_append_marked {mark : Char} {cs : List Char} (h : mark ∉ cs)
    (text : Option String) : after mark (cs ++ marked mark text) = text := by
  rw [after, List.dropWhile_append_of_pos (bne_of_not_mem h)]
  cases text with
  | none => simp [marked]
  | some text => simp [marked]

/-- Everything before the fragment. -/
def front (self : URLComponents) : List Char :=
  self.base.toList ++ marked '?' self.percentEncodedQuery

theorem toList_url (self : URLComponents) :
    self.url.toList = self.front ++ marked '#' self.fragment := by
  rw [url, front, String.toList_append, String.toList_append]
  -- With and without a query, with and without a fragment
  cases self.percentEncodedQuery <;> cases self.fragment <;> simp [marked]

theorem mark_not_mem_base (self : URLComponents) : '?' ∉ self.base.toList := fun hmem =>
  (self.base_plain _ hmem).1 rfl

theorem fragment_not_mem_front (self : URLComponents) : '#' ∉ self.front := by
  rw [front, List.mem_append]
  rintro (hbase | hquery)
  · exact (self.base_plain _ hbase).2 rfl
  -- The query is encoded, and an encoded query has no `#`
  · cases htext : self.percentEncodedQuery with
    | none => simp [marked, htext] at hquery
    | some text =>
      have hplain := fragment_not_mem (self.query_encoded text htext)
      simp [marked, htext, hplain] at hquery

/-- The components of a URL made from components are these components. -/
theorem ofURL_url (self : URLComponents) : ofURL self.url = some self := by
  -- The text is cut at the first `#`, and what is before it at the first `?`
  have hfront : self.url.toList.takeWhile (· != '#') = self.front := by
    rw [toList_url, takeWhile_append_marked self.fragment_not_mem_front]
  have hbase : self.front.takeWhile (· != '?') = self.base.toList := by
    rw [front, takeWhile_append_marked self.mark_not_mem_base]
  have hquery : queryOf self.url = self.percentEncodedQuery := by
    rw [queryOf, hfront, front, after_append_marked self.mark_not_mem_base]
  have hfragment : after '#' self.url.toList = self.fragment := by
    rw [toList_url, after_append_marked self.fragment_not_mem_front]
  rw [ofURL, dif_pos (by rw [hquery]; exact self.query_encoded)]
  simp only [hfront, hbase, hfragment, hquery, String.ofList_toList]

end URLComponents
end ThorChat.Runtime
