import ThorChat.Runtime.JSON

/-!
# Foundation, as Far as the App Relies on it

The system library is not part of the repository. What the modelled code asks of it is
collected in `Platform`; the persisted keys are the record `UserDefaults`.
-/

namespace ThorChat.Runtime

/-- Bytes received from the network. -/
abbrev Data := List UInt8

/-- The system functions the app calls, with the one fact about them its code relies on. -/
structure Platform where
  /-- `URL(string:)` is not nil. -/
  acceptsURL : String → Bool
  /-- `JSONSerialization.jsonObject(with:)` without reading options, `none` when it throws. -/
  jsonObject : Data → Option JSON
  /-- `String.count`, the number of extended grapheme clusters. -/
  count : String → Nat
  count_eq_zero : ∀ s, count s = 0 ↔ s = ""
  /-- `rangeOfCharacter(from: .letters)` is not nil. -/
  containsLetters : String → Bool

/-- `JSON(Data)`: null when the data does not parse. -/
def Platform.jsonOfData (P : Platform) (data : Data) : JSON :=
  (P.jsonObject data).getD .null

theorem Platform.one_le_count (P : Platform) {s : String} : 1 ≤ P.count s ↔ s ≠ "" := by
  rw [Nat.one_le_iff_ne_zero, Ne, P.count_eq_zero]

/-- A platform for worked examples: URLs of letters, digits and separators, the JSON texts
listed, and strings in which every character is a grapheme cluster of its own. -/
def Platform.sample (texts : List (Data × JSON)) : Platform where
  acceptsURL s := s ≠ "" && s.toList.all fun c => c.isAlphanum || "-._~:/?=&".toList.contains c
  jsonObject data := List.lookup data texts
  count := String.length
  count_eq_zero _ := String.length_eq_zero_iff
  containsLetters s := s.toList.any Char.isAlpha

/-- The keys of `UserDefaults.standard` that the app reads or writes. Each is only ever
written with one type, so the casts on reading them never fail. -/
structure UserDefaults where
  Mobilenumber : Option String := none
  CustomerID : Option String := none
  auth_key : Option String := none
  client_service : Option String := none
  Str_Global_IsUserLogIned : Option Bool := none
  deriving DecidableEq, Repr

namespace UserDefaults

/-- No key has been written. -/
def empty : UserDefaults := {}

/-- `bool(forKey: "Str_Global_IsUserLogIned")`, false when the key is absent. -/
def isUserLogIned (d : UserDefaults) : Bool :=
  d.Str_Global_IsUserLogIned.getD false

/-- A value for one of the keys. -/
inductive Entry where
  | Mobilenumber (value : String)
  | CustomerID (value : String)
  | auth_key (value : String)
  | client_service (value : String)
  | Str_Global_IsUserLogIned (value : Bool)
  deriving DecidableEq, Repr

/-- `set(_:forKey:)`. -/
def set (d : UserDefaults) : Entry → UserDefaults
  | .Mobilenumber value => { d with Mobilenumber := some value }
  | .CustomerID value => { d with CustomerID := some value }
  | .auth_key value => { d with auth_key := some value }
  | .client_service value => { d with client_service := some value }
  | .Str_Global_IsUserLogIned value => { d with Str_Global_IsUserLogIned := some value }

end UserDefaults

end ThorChat.Runtime
