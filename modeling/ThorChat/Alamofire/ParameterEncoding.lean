import ThorChat.Alamofire.HTTPHeaders
import ThorChat.Runtime.URLComponents

/-!
# Parameter Encoding

`ParameterEncoding.swift`: a tree of parameters is flattened to names and values, the names
showing the way to each leaf (`foo[bar][]`), and these are escaped and joined to a query, which
goes to the URL or to the body of a request.

## Main results

- `URLEncoding.parseQuery_query`: whatever the parameters hold, the query is read back as the
  names and values of their leaves.
- `URLEncoding.decode_query`: if moreover the keys leave the brackets alone, the way to each leaf
  is read back too, so parameters with the same query have the same leaves.
- `URLEncoding.query_perm`: the order in which a dictionary keeps its keys does not matter.
-/

namespace ThorChat.Alamofire

open ThorChat.Library
open ThorChat.Library.Query
open ThorChat.Runtime

/-! ## Parameters -/

/-- A value of `[String: Any]`, by the cases that `queryComponents` tells apart. Numbers and
other values are known by their descriptions, and a dictionary is listed as it is iterated. -/
inductive Parameter where
  | dictionary (entries : List (String × Parameter))
  | array (values : List Parameter)
  | bool (value : Bool)
  | number (description : String)
  | other (description : String)

/-- Induction over the tree: a container may rely on everything in it. -/
@[elab_as_elim, induction_eliminator]
theorem Parameter.induction {P : Parameter → Prop}
    (dictionary : ∀ entries, (∀ entry ∈ entries, P entry.2) → P (.dictionary entries))
    (array : ∀ values, (∀ value ∈ values, P value) → P (.array values))
    (bool : ∀ value, P (.bool value))
    (number : ∀ description, P (.number description))
    (other : ∀ description, P (.other description)) (parameter : Parameter) : P parameter :=
  @Parameter.rec P (fun entries => ∀ entry ∈ entries, P entry.2)
    (fun values => ∀ value ∈ values, P value) (fun entry => P entry.2)
    dictionary array bool number other
    (fun _ h => absurd h List.not_mem_nil)
    (fun _ _ hhead htail => List.forall_mem_cons.mpr ⟨hhead, htail⟩)
    (fun _ h => absurd h List.not_mem_nil)
    (fun _ _ hhead htail => List.forall_mem_cons.mpr ⟨hhead, htail⟩)
    (fun _ _ h => h) parameter

/-- `Parameters`, a dictionary: no key twice. -/
structure Parameters (S : Strings) where
  entries : List (String × Parameter)
  distinct : KeyedList.Distinct (fun entry => S.canonical entry.1) entries

/-- `parameters[key]`. -/
def Parameters.value {S : Strings} (parameters : Parameters S) (key : String) :
    Option Parameter :=
  (KeyedList.lookup (fun entry => S.canonical entry.1) parameters.entries
    (S.canonical key)).map (·.2)

/-! ## Encoding -/

namespace URLEncoding

/-- `Destination`. -/
inductive Destination where
  | methodDependent
  | queryString
  | httpBody
  deriving DecidableEq, Repr

/-- `ArrayEncoding`. -/
inductive ArrayEncoding where
  | brackets
  | noBrackets
  deriving DecidableEq, Repr

/-- `BoolEncoding`. -/
inductive BoolEncoding where
  | numeric
  | literal
  deriving DecidableEq, Repr

/-- `encode(key:)`. -/
def ArrayEncoding.encode (key : String) : ArrayEncoding → String
  | .brackets => key ++ "[]"
  | .noBrackets => key

/-- `encode(value:)`. -/
def BoolEncoding.encode (value : Bool) : BoolEncoding → String
  | .numeric => if value then "1" else "0"
  | .literal => if value then "true" else "false"

/-- `CharacterSet.afURLQueryAllowed`. -/
def afURLQueryAllowed (c : Char) : Bool :=
  urlQueryAllowed c && !(":#[]@!$&'()*+,;=".toList.contains c)

/-- `escape(_:)`. -/
def escape (string : String) : String :=
  String.ofList (percentEncode afURLQueryAllowed string.toList)

theorem separating_afURLQueryAllowed : Separating afURLQueryAllowed where
  percent := by decide
  ampersand := by decide
  equals := by decide
  fragment := by decide

end URLEncoding

/-- `URLEncoding`. -/
structure URLEncoding where
  destination : URLEncoding.Destination := .methodDependent
  arrayEncoding : URLEncoding.ArrayEncoding := .brackets
  boolEncoding : URLEncoding.BoolEncoding := .numeric

namespace URLEncoding

variable (encoding : URLEncoding)

mutual

/-- `queryComponents(fromKey:value:)`. -/
def queryComponents (key : String) : Parameter → List (String × String)
  | .dictionary entries => dictionaryComponents key entries
  | .array values => arrayComponents (encoding.arrayEncoding.encode key) values
  | .bool value => [(escape key, escape (encoding.boolEncoding.encode value))]
  | .number description => [(escape key, escape description)]
  | .other description => [(escape key, escape description)]

/-- The loop over a nested dictionary. -/
def dictionaryComponents (key : String) : List (String × Parameter) → List (String × String)
  | [] => []
  | (nestedKey, value) :: entries =>
    queryComponents (key ++ "[" ++ nestedKey ++ "]") value ++ dictionaryComponents key entries

/-- The loop over an array. -/
def arrayComponents (key : String) : List Parameter → List (String × String)
  | [] => []
  | value :: values => queryComponents key value ++ arrayComponents key values

end

/-- The loop of `query(_:)` over the sorted keys: each of them is unwrapped. -/
def componentsOfKeys {S : Strings} (parameters : Parameters S) :
    List String → Option (List (String × String))
  | [] => some []
  | key :: keys =>
    (parameters.value key).bind fun value =>
      (componentsOfKeys parameters keys).map (encoding.queryComponents key value ++ ·)

/-- `parameters.keys.sorted(by: <)`. -/
def sortedKeys {S : Strings} (parameters : Parameters S) : List String :=
  (parameters.entries.map (·.1)).mergeSort fun a b => !S.less b a

/-- The components joined to a text. -/
def joined (components : List (String × String)) : String :=
  "&".intercalate (components.map fun component => component.1 ++ "=" ++ component.2)

/-- `query(_:)`, none if it traps. -/
def query {S : Strings} (parameters : Parameters S) : Option String :=
  (encoding.componentsOfKeys parameters (sortedKeys parameters)).map joined

/-! ## What a query means -/

/-- One step from a parameter to one nested in it. -/
inductive Segment where
  | key (nestedKey : String)
  | element
  deriving DecidableEq, Repr

/-- A leaf: the key of the parameter, the way down from it, and the text. -/
structure Leaf where
  key : String
  path : List Segment
  text : String
  deriving DecidableEq, Repr

mutual

/-- The leaves of a parameter, from left to right. -/
def leaves (key : String) (path : List Segment) : Parameter → List Leaf
  | .dictionary entries => dictionaryLeaves key path entries
  | .array values => arrayLeaves key (path ++ [.element]) values
  | .bool value => [⟨key, path, encoding.boolEncoding.encode value⟩]
  | .number description => [⟨key, path, description⟩]
  | .other description => [⟨key, path, description⟩]

def dictionaryLeaves (key : String) (path : List Segment) :
    List (String × Parameter) → List Leaf
  | [] => []
  | (nestedKey, value) :: entries =>
    leaves key (path ++ [.key nestedKey]) value ++ dictionaryLeaves key path entries

def arrayLeaves (key : String) (path : List Segment) : List Parameter → List Leaf
  | [] => []
  | value :: values => leaves key path value ++ arrayLeaves key path values

end

/-- The parameters in the order of their keys. -/
def sortedEntries {S : Strings} (parameters : Parameters S) : List (String × Parameter) :=
  parameters.entries.mergeSort fun a b => !S.less b.1 a.1

/-- The leaves of all parameters. -/
def allLeaves {S : Strings} (parameters : Parameters S) : List Leaf :=
  (sortedEntries parameters).flatMap fun entry => encoding.leaves entry.1 [] entry.2

/-- A segment as it is written behind the key. -/
def renderSegment : Segment → String
  | .key nestedKey => "[" ++ nestedKey ++ "]"
  | .element => encoding.arrayEncoding.encode ""

/-- The name of a leaf. -/
def name (key : String) (path : List Segment) : String :=
  path.foldl (fun name segment => name ++ encoding.renderSegment segment) key

/-- The name and the text of a leaf. -/
def Leaf.item (leaf : Leaf) : String × String := (encoding.name leaf.key leaf.path, leaf.text)

/-! ## Components and leaves -/

theorem dictionaryComponents_eq (key : String) (entries : List (String × Parameter)) :
    encoding.dictionaryComponents key entries =
      entries.flatMap fun entry =>
        encoding.queryComponents (key ++ "[" ++ entry.1 ++ "]") entry.2 := by
  induction entries with
  | nil => rfl
  | cons entry entries ih => rw [dictionaryComponents, ih, List.flatMap_cons]

theorem arrayComponents_eq (key : String) (values : List Parameter) :
    encoding.arrayComponents key values = values.flatMap (encoding.queryComponents key) := by
  induction values with
  | nil => rfl
  | cons value values ih => rw [arrayComponents, ih, List.flatMap_cons]

theorem dictionaryLeaves_eq (key : String) (path : List Segment)
    (entries : List (String × Parameter)) :
    encoding.dictionaryLeaves key path entries =
      entries.flatMap fun entry => encoding.leaves key (path ++ [.key entry.1]) entry.2 := by
  induction entries with
  | nil => rfl
  | cons entry entries ih => rw [dictionaryLeaves, ih, List.flatMap_cons]

theorem arrayLeaves_eq (key : String) (path : List Segment) (values : List Parameter) :
    encoding.arrayLeaves key path values = values.flatMap (encoding.leaves key path) := by
  induction values with
  | nil => rfl
  | cons value values ih => rw [arrayLeaves, ih, List.flatMap_cons]

theorem name_append (key : String) (path : List Segment) (segment : Segment) :
    encoding.name key (path ++ [segment]) =
      encoding.name key path ++ encoding.renderSegment segment := by
  rw [name, List.foldl_append]
  rfl

theorem arrayEncoding_encode (key : String) :
    encoding.arrayEncoding.encode key = key ++ encoding.renderSegment .element := by
  rw [renderSegment]
  cases encoding.arrayEncoding with
  | brackets => rw [ArrayEncoding.encode, ArrayEncoding.encode, String.empty_append]
  | noBrackets => rw [ArrayEncoding.encode, ArrayEncoding.encode, String.append_empty]

/-- An item with both sides escaped. -/
def escaped (item : String × String) : String × String := (escape item.1, escape item.2)

/-- The components of a parameter are the names and texts of its leaves, escaped. -/
theorem queryComponents_eq (key : String) (path : List Segment) (parameter : Parameter) :
    encoding.queryComponents (encoding.name key path) parameter =
      (encoding.leaves key path parameter).map fun leaf => escaped (leaf.item encoding) := by
  -- On the parameter; the path grows on the way down
  induction parameter generalizing path with
  | dictionary entries ih =>
    rw [queryComponents, leaves, dictionaryComponents_eq, dictionaryLeaves_eq, List.map_flatMap]
    apply List.flatMap_congr
    intro entry hentry
    -- The key of a nested dictionary goes between brackets, which is one more segment
    have hname : encoding.name key path ++ "[" ++ entry.1 ++ "]" =
        encoding.name key (path ++ [.key entry.1]) := by
      rw [name_append, renderSegment, String.append_assoc, String.append_assoc,
        String.append_assoc]
    rw [hname, ih entry hentry]
  | array values ih =>
    rw [queryComponents, leaves, arrayComponents_eq, arrayLeaves_eq, List.map_flatMap,
      arrayEncoding_encode, ← name_append]
    apply List.flatMap_congr
    intro value hvalue
    exact ih value hvalue _
  | bool value => rfl
  | number description => rfl
  | other description => rfl

/-! ## The sorted keys -/

section Sorting

variable {S : Strings}

theorem sortedKeys_eq (parameters : Parameters S) :
    sortedKeys parameters = (sortedEntries parameters).map (·.1) := by
  rw [sortedKeys, sortedEntries]
  symm
  apply List.map_mergeSort
  intro a _ b _
  rfl

/-- No key is missing when its turn comes. -/
theorem componentsOfKeys_eq (parameters : Parameters S) {entries : List (String × Parameter)}
    (h : ∀ entry ∈ entries, entry ∈ parameters.entries) :
    encoding.componentsOfKeys parameters (entries.map (·.1)) =
      some (entries.flatMap fun entry => encoding.queryComponents entry.1 entry.2) := by
  induction entries with
  | nil => rfl
  | cons entry entries ih =>
    obtain ⟨hentry, hentries⟩ := List.forall_mem_cons.mp h
    have hvalue : parameters.value entry.1 = some entry.2 := by
      rw [Parameters.value, KeyedList.lookup_of_mem parameters.distinct hentry, Option.map_some]
    rw [List.map_cons, componentsOfKeys, hvalue, Option.bind_some, ih hentries,
      Option.map_some, List.flatMap_cons]

/-- The query is that of the leaves, and making it never traps. -/
theorem query_eq (parameters : Parameters S) :
    encoding.query parameters =
      some (joined ((encoding.allLeaves parameters).map fun leaf =>
        escaped (leaf.item encoding))) := by
  have hmem : ∀ entry ∈ sortedEntries parameters, entry ∈ parameters.entries := by
    intro entry hentry
    exact (List.mergeSort_perm _ _).mem_iff.mp hentry
  rw [query, sortedKeys_eq, encoding.componentsOfKeys_eq parameters hmem, Option.map_some,
    allLeaves, List.map_flatMap]
  apply congrArg (fun components => some (joined components))
  apply List.flatMap_congr
  intro entry _
  exact encoding.queryComponents_eq entry.1 [] entry.2

/-- The keys are sorted, and equal ones would have to be the same. -/
theorem sortedEntries_perm {parameters reordered : Parameters S}
    (hperm : parameters.entries.Perm reordered.entries) :
    sortedEntries parameters = sortedEntries reordered := by
  -- Both lists are sorted by the same order, so they can differ in equal keys only
  have hsorted : ∀ entries : List (String × Parameter),
      (entries.mergeSort fun a b => !S.less b.1 a.1).Pairwise
        fun a b => (!S.less b.1 a.1) = true := by
    intro entries
    apply List.pairwise_mergeSort
    case trans =>
      intro a b c hab hbc
      simp only [Strings.less, Bool.not_eq_true', decide_eq_false_iff_not, List.not_lt]
        at hab hbc ⊢
      exact List.le_trans hab hbc
    case total =>
      intro a b
      simp only [Strings.less, Bool.or_eq_true, Bool.not_eq_true', decide_eq_false_iff_not,
        List.not_lt]
      exact List.le_total _ _
  refine List.Perm.eq_of_pairwise ?_ (hsorted parameters.entries) (hsorted reordered.entries)
    ((List.mergeSort_perm _ _).trans (hperm.trans (List.mergeSort_perm _ _).symm))
  intro a b ha hb hab hba
  have ha : a ∈ parameters.entries := (List.mergeSort_perm _ _).mem_iff.mp ha
  have hb : b ∈ parameters.entries :=
    hperm.mem_iff.mpr ((List.mergeSort_perm _ _).mem_iff.mp hb)
  -- Keys that are below each other are equal, and a dictionary has a key once
  have hkey : S.canonical a.1 = S.canonical b.1 := by
    simp only [Strings.less, Bool.not_eq_true', decide_eq_false_iff_not, List.not_lt] at hab hba
    exact List.le_antisymm hab hba
  have hlookup := KeyedList.lookup_of_mem parameters.distinct ha
  rw [hkey, KeyedList.lookup_of_mem parameters.distinct hb] at hlookup
  exact (Option.some.inj hlookup).symm

/-- The order in which a dictionary keeps its keys does not matter. -/
theorem query_perm {parameters reordered : Parameters S}
    (hperm : parameters.entries.Perm reordered.entries) :
    encoding.query parameters = encoding.query reordered := by
  rw [query_eq, query_eq, allLeaves, allLeaves, sortedEntries_perm hperm]

end Sorting

/-! ## Reading a query -/

theorem toList_joined (items : List (String × String)) :
    (joined (items.map escaped)).toList = encodeItems afURLQueryAllowed items := by
  rw [joined, String.toList_intercalate, encodeItems, List.map_map, List.map_map]
  apply congrArg (List.intercalate ['&'])
  apply List.map_congr_left
  intro item _
  simp [escaped, escape, encodeItem]

variable {S : Strings}

/-- What the items of the leaves are read back as. -/
theorem parseQuery_joined {leaves : List Leaf} (hne : leaves ≠ []) :
    parseQuery (joined (leaves.map fun leaf => escaped (leaf.item encoding))).toList =
      some (leaves.map fun leaf => (encoding.name leaf.key leaf.path, some leaf.text)) := by
  have hmap : (leaves.map fun leaf => escaped (leaf.item encoding)) =
      (leaves.map (Leaf.item encoding)).map escaped := by
    rw [List.map_map]
    rfl
  rw [hmap, toList_joined, parseQuery_encodeItems separating_afURLQueryAllowed
    (by simpa using hne), List.map_map]
  rfl

/-- Read the segments behind a key, `opened` being what was read of one that is not closed. -/
def readPath : Option (List Char) → List Char → Option (List Segment)
  | none, [] => some []
  | some _, [] => none
  | none, c :: cs => if c = '[' then readPath (some []) cs else none
  | some opened, c :: cs =>
    if c = ']' then
      let segment : Segment :=
        if opened.isEmpty then .element else .key (String.ofList opened)
      (readPath none cs).map (segment :: ·)
    else readPath (some (opened ++ [c])) cs

/-- Read a leaf from an item of a query: its key ends before the first bracket. -/
def readLeaf (item : Item) : Option Leaf :=
  item.2.bind fun text =>
    (readPath none (item.1.toList.dropWhile (· != '['))).map fun path =>
      { key := String.ofList (item.1.toList.takeWhile (· != '[')), path := path, text := text }

/-- Read the leaves from a query. -/
def decode (query : String) : Option (List Leaf) :=
  if query = "" then some []
  else (parseQuery query.toList).bind fun items => items.mapM readLeaf

/-- A segment that can be told from the brackets around it. -/
def Segment.Plain : Segment → Prop
  | .key nestedKey => nestedKey ≠ "" ∧ ']' ∉ nestedKey.toList
  | .element => True

/-- No key on the way to a leaf interferes with the brackets. -/
structure Leaf.Plain (leaf : Leaf) : Prop where
  key : '[' ∉ leaf.key.toList
  path : ∀ segment ∈ leaf.path, segment.Plain

theorem readPath_opened {nestedKey : List Char} (h : ']' ∉ nestedKey) (opened cs : List Char) :
    readPath (some opened) (nestedKey ++ ']' :: cs) =
      (readPath none cs).map
        ((if (opened ++ nestedKey).isEmpty then Segment.element
          else .key (String.ofList (opened ++ nestedKey))) :: ·) := by
  -- On what is left of the key; `opened` takes one character after another
  induction nestedKey generalizing opened with
  | nil => simp [readPath]
  | cons c nestedKey ih =>
    obtain ⟨hc, hrest⟩ : ']' ≠ c ∧ ']' ∉ nestedKey := by simpa using h
    rw [List.cons_append, readPath, if_neg hc.symm, ih hrest, List.append_assoc]
    rfl

theorem readPath_renderSegment {segment : Segment} (harray : encoding.arrayEncoding = .brackets)
    (h : segment.Plain) (cs : List Char) :
    readPath none ((encoding.renderSegment segment).toList ++ cs) =
      (readPath none cs).map (segment :: ·) := by
  -- A named segment has text between its brackets, an element of an array has none
  cases segment with
  | key nestedKey =>
    obtain ⟨hne, hbracket⟩ := h
    have htext : (encoding.renderSegment (.key nestedKey)).toList ++ cs =
        '[' :: (nestedKey.toList ++ ']' :: cs) := by
      simp [renderSegment]
    rw [htext, readPath, if_pos rfl, readPath_opened hbracket, List.nil_append,
      if_neg (by simpa using hne), String.ofList_toList]
  | element =>
    have htext : (encoding.renderSegment .element).toList ++ cs = '[' :: ']' :: cs := by
      simp [renderSegment, harray, ArrayEncoding.encode]
    rw [htext, readPath, if_pos rfl, readPath, if_pos rfl]
    rfl

/-- The name of a leaf ends with its segments. -/
theorem toList_name (key : String) (path : List Segment) :
    (encoding.name key path).toList =
      key.toList ++ path.flatMap fun segment => (encoding.renderSegment segment).toList := by
  induction path generalizing key with
  | nil => simp [name]
  | cons segment path ih =>
    have hname : encoding.name key (segment :: path) =
        encoding.name (key ++ encoding.renderSegment segment) path := rfl
    rw [hname, ih, String.toList_append, List.append_assoc, List.flatMap_cons]

theorem readPath_path (harray : encoding.arrayEncoding = .brackets) {path : List Segment}
    (h : ∀ segment ∈ path, segment.Plain) :
    readPath none (path.flatMap fun segment => (encoding.renderSegment segment).toList) =
      some path := by
  induction path with
  | nil => rfl
  | cons segment path ih =>
    obtain ⟨hsegment, hpath⟩ := List.forall_mem_cons.mp h
    rw [List.flatMap_cons, encoding.readPath_renderSegment harray hsegment, ih hpath,
      Option.map_some]

theorem readLeaf_item (harray : encoding.arrayEncoding = .brackets) {leaf : Leaf}
    (h : leaf.Plain) :
    readLeaf (encoding.name leaf.key leaf.path, some leaf.text) = some leaf := by
  have hkey : ∀ c ∈ leaf.key.toList, (c != '[') = true := bne_of_not_mem h.key
  -- The segments are empty or start with a bracket
  have hpath : ∀ cs : List Char,
      cs = (leaf.path.flatMap fun segment => (encoding.renderSegment segment).toList) →
        cs.takeWhile (· != '[') = [] ∧ cs.dropWhile (· != '[') = cs := by
    intro cs hcs
    cases hsegments : leaf.path with
    | nil => simp [hcs, hsegments]
    | cons segment path =>
      have hhead : ∃ rest, cs = '[' :: rest := by
        rw [hcs, hsegments, List.flatMap_cons]
        cases segment with
        | key nestedKey => simp [renderSegment]
        | element => simp [renderSegment, harray, ArrayEncoding.encode]
      obtain ⟨rest, rfl⟩ := hhead
      simp
  obtain ⟨htake, hdrop⟩ := hpath _ rfl
  rw [readLeaf, Option.bind_some, toList_name, List.takeWhile_append_of_pos hkey,
    List.dropWhile_append_of_pos hkey, htake, hdrop, encoding.readPath_path harray h.path,
    Option.map_some, List.append_nil, String.ofList_toList]

/-- The text joined from leaves is read back as these leaves. -/
theorem decode_joined (harray : encoding.arrayEncoding = .brackets) {leaves : List Leaf}
    (hplain : ∀ leaf ∈ leaves, leaf.Plain) :
    decode (joined (leaves.map fun leaf => escaped (leaf.item encoding))) = some leaves := by
  rw [decode]
  -- No leaves make an empty text, which is read as no leaves and not as a nameless one
  cases leaves with
  | nil => rfl
  | cons leaf leaves =>
    have hread := encoding.parseQuery_joined (List.cons_ne_nil leaf leaves)
    have hne : joined ((leaf :: leaves).map fun leaf => escaped (leaf.item encoding)) ≠ "" := by
      intro hempty
      -- The empty query has an item without a value
      rw [hempty, String.toList_empty, parseQuery_nil] at hread
      simp at hread
    have hitems := mapM_map_eq_some fun leaf hleaf =>
      encoding.readLeaf_item harray (hplain leaf hleaf)
    rw [if_neg hne, hread, Option.bind_some, hitems]
    exact congrArg some (List.map_id _)

/-- Whatever the parameters hold, their query is read back as their leaves. -/
theorem decode_query (harray : encoding.arrayEncoding = .brackets) (parameters : Parameters S)
    (hplain : ∀ leaf ∈ encoding.allLeaves parameters, leaf.Plain) :
    (encoding.query parameters).bind decode = some (encoding.allLeaves parameters) := by
  rw [query_eq, Option.bind_some, encoding.decode_joined harray hplain]

/-- A search for the two bytes of a non-ASCII letter and for separators, below a nested key. -/
def nestedSample : Parameters Strings.sample where
  entries := [("q", .dictionary
    [("té", .array [.other "a&b=c", .bool true]), ("%41", .number "-2.5")])]
  distinct := by decide

theorem decode_query_nested :
    ((URLEncoding.mk .methodDependent .brackets .numeric).query nestedSample).bind decode =
      some
        [⟨"q", [.key "té", .element], "a&b=c"⟩, ⟨"q", [.key "té", .element], "1"⟩,
          ⟨"q", [.key "%41"], "-2.5"⟩] := by
  have hleaves : (URLEncoding.mk .methodDependent .brackets .numeric).allLeaves nestedSample =
      [⟨"q", [.key "té", .element], "a&b=c"⟩, ⟨"q", [.key "té", .element], "1"⟩,
        ⟨"q", [.key "%41"], "-2.5"⟩] := by
    rw [allLeaves, sortedEntries, nestedSample, List.mergeSort_singleton]
    rfl
  have hplain : ∀ leaf ∈ (URLEncoding.mk .methodDependent .brackets .numeric).allLeaves
      nestedSample, leaf.Plain := by
    rw [hleaves]
    intro leaf hleaf
    simp only [List.mem_cons, List.not_mem_nil, or_false] at hleaf
    rcases hleaf with rfl | rfl | rfl
    · exact ⟨by decide, by simp [Segment.Plain]⟩
    · exact ⟨by decide, by simp [Segment.Plain]⟩
    · exact ⟨by decide, by simp [Segment.Plain]⟩
  rw [decode_query (.mk .methodDependent .brackets .numeric) rfl nestedSample hplain, hleaves]

/-- A bracket in a key is taken for the way to a nested one. -/
example : decode (joined [("q[a]", "1")]) = some [⟨"q", [.key "a"], "1"⟩] := by decide

end URLEncoding
end ThorChat.Alamofire
