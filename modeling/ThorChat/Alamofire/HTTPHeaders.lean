import ThorChat.Library.KeyedList
import ThorChat.Runtime.Strings

/-!
# HTTP Headers

`HTTPHeaders.swift`: headers in the order they were first added, looked up whatever the case of
their name. The array is private and every operation finds a header by its name first, so no two
headers have the same name: the structure carries this.

## Main results

- `Operation.value_run`: after any operations, a name in any spelling has the value last written
  under it, or none if it was removed since.
- `value_ofDictionary_run`: so it has after the way through the unordered dictionary of a
  `URLRequest` and back, whatever the order the dictionary is iterated in.
-/

namespace ThorChat.Alamofire

open ThorChat.Library
open ThorChat.Runtime

/-- `HTTPHeader`. -/
structure HTTPHeader where
  name : String
  value : String
  deriving DecidableEq, Repr

variable (S : Strings)

/-- What a header is found by. -/
def HTTPHeader.key (header : HTTPHeader) : List Char := S.folded header.name

/-- `HTTPHeaders`. -/
structure HTTPHeaders where
  headers : List HTTPHeader
  distinct : KeyedList.Distinct (HTTPHeader.key S) headers

namespace HTTPHeaders

variable {S}

/-! ## Operations -/

/-- `index(of:)`. -/
def index (headers : List HTTPHeader) (name : String) : Option Nat :=
  headers.findIdx? fun header => S.folded header.name = S.folded name

/-- `init()`. -/
def empty : HTTPHeaders S := ⟨[], List.nodup_nil⟩

/-- What `update(_:)` makes of the array. -/
def updated (headers : List HTTPHeader) (header : HTTPHeader) : List HTTPHeader :=
  match index (S := S) headers header.name with
  | none => headers ++ [header]
  | some i => headers.set i header

/-- What `remove(name:)` makes of the array. -/
def removed (headers : List HTTPHeader) (name : String) : List HTTPHeader :=
  match index (S := S) headers name with
  | none => headers
  | some i => headers.eraseIdx i

theorem updated_eq (headers : List HTTPHeader) (header : HTTPHeader) :
    updated (S := S) headers header = KeyedList.upsert (HTTPHeader.key S) header headers :=
  (KeyedList.upsert_eq_set (HTTPHeader.key S) header headers).symm

theorem removed_eq (headers : List HTTPHeader) (name : String) :
    removed (S := S) headers name =
      KeyedList.eraseKey (HTTPHeader.key S) (S.folded name) headers :=
  (KeyedList.eraseKey_eq_eraseIdx (HTTPHeader.key S) (S.folded name) headers).symm

/-- `update(_:)`. -/
def update (self : HTTPHeaders S) (header : HTTPHeader) : HTTPHeaders S where
  headers := updated (S := S) self.headers header
  distinct := by
    rw [updated_eq]
    exact KeyedList.distinct_upsert self.distinct header

/-- `add(name:value:)`. -/
def add (self : HTTPHeaders S) (name value : String) : HTTPHeaders S :=
  self.update { name := name, value := value }

/-- `remove(name:)`. -/
def remove (self : HTTPHeaders S) (name : String) : HTTPHeaders S where
  headers := removed (S := S) self.headers name
  distinct := by
    rw [removed_eq]
    exact KeyedList.distinct_eraseKey self.distinct (S.folded name)

theorem headers_update (self : HTTPHeaders S) (header : HTTPHeader) :
    (self.update header).headers = KeyedList.upsert (HTTPHeader.key S) header self.headers :=
  updated_eq self.headers header

theorem headers_remove (self : HTTPHeaders S) (name : String) :
    (self.remove name).headers =
      KeyedList.eraseKey (HTTPHeader.key S) (S.folded name) self.headers :=
  removed_eq self.headers name

/-- `sort()`. -/
def sort (self : HTTPHeaders S) : HTTPHeaders S where
  headers := self.headers.mergeSort fun a b => !S.less (S.lowercased b.name) (S.lowercased a.name)
  distinct := ((List.mergeSort_perm _ _).map _).nodup_iff.mpr self.distinct

/-- `value(for:)`. -/
def value (self : HTTPHeaders S) (name : String) : Option String :=
  match index (S := S) self.headers name with
  | none => none
  | some i => self.headers[i]?.map (·.value)

/-- The setter of `subscript(_:)`. -/
def set (self : HTTPHeaders S) (name : String) : Option String → HTTPHeaders S
  | some newValue => self.update { name := name, value := newValue }
  | none => self.remove name

/-- `init(_: [HTTPHeader])`. -/
def ofHeaders (headers : List HTTPHeader) : HTTPHeaders S := headers.foldl update empty

/-- `init(_: [String: String])`, for a dictionary that is iterated in this order. -/
def ofDictionary (dictionary : List (String × String)) : HTTPHeaders S :=
  dictionary.foldl (fun self entry => self.add entry.1 entry.2) empty

/-- `dictionary`: of entries with equal names the last one stays. -/
def dictionary (self : HTTPHeaders S) : List (String × String) :=
  (self.headers.map fun header => (header.name, header.value)).foldl
    (fun entries entry => KeyedList.upsert (fun entry => S.canonical entry.1) entry entries) []

/-! ## The headers as a map -/

/-- The values by folded name. -/
def fields (self : HTTPHeaders S) (key : List Char) : Option String :=
  (KeyedList.lookup (HTTPHeader.key S) self.headers key).map (·.value)

theorem value_eq (self : HTTPHeaders S) (name : String) :
    self.value name = self.fields (S.folded name) := by
  rw [fields, KeyedList.lookup_eq_getElem, value]
  change (match index (S := S) self.headers name with | none => none | some i => _) =
    ((index (S := S) self.headers name).bind _).map _
  cases index (S := S) self.headers name with
  | none => rfl
  | some i => rfl

theorem fields_update (self : HTTPHeaders S) (header : HTTPHeader) :
    (self.update header).fields =
      Function.update self.fields (S.folded header.name) (some header.value) := by
  funext key
  rw [fields, headers_update, KeyedList.lookup_upsert, HTTPHeader.key]
  -- Under the folded name, and under any other
  by_cases hkey : key = S.folded header.name
  · rw [hkey, Function.update_self, Function.update_self, Option.map_some]
  · rw [Function.update_of_ne hkey, Function.update_of_ne hkey, fields]

theorem fields_remove (self : HTTPHeaders S) (name : String) :
    (self.remove name).fields = Function.update self.fields (S.folded name) none := by
  funext key
  rw [fields, headers_remove, KeyedList.lookup_eraseKey self.distinct]
  by_cases hkey : key = S.folded name
  · rw [hkey, Function.update_self, Function.update_self, Option.map_none]
  · rw [Function.update_of_ne hkey, Function.update_of_ne hkey, fields]

theorem fields_sort (self : HTTPHeaders S) : self.sort.fields = self.fields := by
  funext key
  rw [fields, fields, sort, KeyedList.lookup_perm (List.mergeSort_perm _ _).symm self.distinct]

/-! ## Runs of operations -/

/-- The mutating operations. -/
inductive Operation where
  | add (name value : String)
  | update (header : HTTPHeader)
  | remove (name : String)
  | set (name : String) (newValue : Option String)
  | sort

namespace Operation

/-- The headers after an operation. -/
def apply (self : HTTPHeaders S) : Operation → HTTPHeaders S
  | add name value => self.add name value
  | update header => self.update header
  | remove name => self.remove name
  | set name newValue => self.set name newValue
  | sort => self.sort

/-- The name an operation writes under and what it writes, nil when it removes. -/
def written : Operation → Option (String × Option String)
  | add name value => some (name, some value)
  | update header => some (header.name, some header.value)
  | remove name => some (name, none)
  | set name newValue => some (name, newValue)
  | sort => none

/-- What an operation leaves as the value of a name, `old` if it does not write under it. -/
def leaves (S : Strings) (name : String) (old : Option String) (operation : Operation) :
    Option String :=
  match operation.written with
  | some (writtenName, value) => if S.folded name = S.folded writtenName then value else old
  | none => old

/-- Every operation writes as it says. -/
theorem value_apply (self : HTTPHeaders S) (operation : Operation) (name : String) :
    (operation.apply self).value name = operation.leaves S name (self.value name) := by
  have hupdate : ∀ header : HTTPHeader, (self.update header).value name =
      if S.folded name = S.folded header.name then some header.value else self.value name := by
    intro header
    rw [value_eq, fields_update, Function.update_apply, value_eq]
  have hremove : ∀ removedName : String, (self.remove removedName).value name =
      if S.folded name = S.folded removedName then none else self.value name := by
    intro removedName
    rw [value_eq, fields_remove, Function.update_apply, value_eq]
  -- Adding and setting are updates under another name, and sorting writes nothing
  cases operation with
  | add addedName value => exact hupdate { name := addedName, value := value }
  | update header => exact hupdate header
  | remove removedName => exact hremove removedName
  | set writtenName newValue =>
    cases newValue with
    | none => exact hremove writtenName
    | some value => exact hupdate { name := writtenName, value := value }
  | sort =>
    rw [apply, value_eq, fields_sort, ← value_eq]
    rfl

/-- After any operations a name has the value last written under it, whatever the spellings. -/
theorem value_run (self : HTTPHeaders S) (operations : List Operation) (name : String) :
    (operations.foldl apply self).value name =
      operations.foldl (leaves S name) (self.value name) := by
  induction operations generalizing self with
  | nil => rfl
  | cons operation operations ih => rw [List.foldl_cons, List.foldl_cons, ih, value_apply]

end Operation

/-! ## The way through a dictionary -/

/-- No entry is lost: names that differ in lower case differ. -/
theorem dictionary_eq (self : HTTPHeaders S) :
    self.dictionary = self.headers.map fun header => (header.name, header.value) := by
  -- Names are distinct in lower case, so they are distinct keys of the dictionary
  have hnames : KeyedList.Distinct (fun header : HTTPHeader => S.canonical header.name)
      self.headers :=
    self.distinct.finer fun _ _ heq => S.lowercased_congr heq
  have hentries : KeyedList.Distinct (fun entry : String × String => S.canonical entry.1)
      ([] ++ self.headers.map fun header => (header.name, header.value)) := by
    rw [List.nil_append, KeyedList.Distinct, List.map_map]
    exact hnames
  rw [dictionary, KeyedList.foldl_upsert_of_distinct hentries, List.nil_append]

/-- Distinct headers are taken over one by one. -/
theorem headers_ofDictionary {entries : List (String × String)}
    (h : KeyedList.Distinct (fun entry => S.folded entry.1) entries) :
    (ofDictionary entries : HTTPHeaders S).headers =
      entries.map fun entry => { name := entry.1, value := entry.2 } := by
  -- Adding entry by entry is putting headers by their folded names
  have hrun : ∀ (entries : List (String × String)) (self : HTTPHeaders S),
      (entries.foldl (fun self entry => self.add entry.1 entry.2) self).headers =
        (entries.map fun entry => HTTPHeader.mk entry.1 entry.2).foldl
          (fun headers header => KeyedList.upsert (HTTPHeader.key S) header headers)
          self.headers := by
    intro entries
    induction entries with
    | nil => intro self; rfl
    | cons entry entries ih =>
      intro self
      rw [List.foldl_cons, ih, add, headers_update, List.map_cons, List.foldl_cons]
  have hdistinct : KeyedList.Distinct (HTTPHeader.key S)
      ([] ++ entries.map fun entry => HTTPHeader.mk entry.1 entry.2) := by
    rw [List.nil_append, KeyedList.Distinct, List.map_map]
    exact h
  rw [ofDictionary, hrun, empty, KeyedList.foldl_upsert_of_distinct hdistinct, List.nil_append]

/-- Headers that went through a dictionary are the same map, in whatever order the dictionary
is iterated. -/
theorem fields_ofDictionary (self : HTTPHeaders S) {entries : List (String × String)}
    (hperm : entries.Perm self.dictionary) :
    (ofDictionary entries : HTTPHeaders S).fields = self.fields := by
  have hdictionary : KeyedList.Distinct (fun entry : String × String => S.folded entry.1)
      self.dictionary := by
    rw [dictionary_eq, KeyedList.Distinct, List.map_map]
    exact self.distinct
  have hentries : KeyedList.Distinct (fun entry : String × String => S.folded entry.1)
      entries :=
    (hperm.map _).nodup_iff.mpr hdictionary
  -- The headers that are read are those that were written, in another order
  have hheaders : (ofDictionary entries : HTTPHeaders S).headers.Perm self.headers := by
    rw [headers_ofDictionary hentries]
    apply (hperm.map fun entry => HTTPHeader.mk entry.1 entry.2).trans
    rw [dictionary_eq, List.map_map]
    exact List.Perm.of_eq (List.map_id self.headers)
  funext key
  rw [fields, fields, KeyedList.lookup_perm hheaders (ofDictionary entries).distinct]

/-- After any operations, and after the way through a dictionary in any order, a name has the
value last written under it in any spelling. -/
theorem value_ofDictionary_run (self : HTTPHeaders S) (operations : List Operation)
    {entries : List (String × String)}
    (hperm : entries.Perm (operations.foldl Operation.apply self).dictionary) (name : String) :
    (ofDictionary entries : HTTPHeaders S).value name =
      operations.foldl (Operation.leaves S name) (self.value name) := by
  rw [value_eq, fields_ofDictionary _ hperm, ← value_eq, Operation.value_run]

/-- The last spelling of a content type wins, and a header that was removed stays away. -/
theorem value_ofDictionary_respelled :
    (ofDictionary [("Auth-Key", "k"), ("content-type", "text/plain")] :
        HTTPHeaders Strings.sample).value "Content-Type" =
      [Operation.add "Content-Type" "application/json", .add "Accept" "json",
        .add "content-type" "text/plain", .add "Auth-Key" "k", .remove "ACCEPT"].foldl
          (Operation.leaves Strings.sample "Content-Type") none :=
  value_ofDictionary_run empty
    [Operation.add "Content-Type" "application/json", .add "Accept" "json",
      .add "content-type" "text/plain", .add "Auth-Key" "k", .remove "ACCEPT"]
    (by decide) "Content-Type"

end HTTPHeaders
end ThorChat.Alamofire
