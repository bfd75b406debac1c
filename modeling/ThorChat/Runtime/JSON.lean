import Mathlib.Data.List.Basic

/-!
# JSON Values and their Mapping to Models

The decoded JSON values the app works on, `dictionaryObject` of SwiftyJSON, and the `<-`
operators of ObjectMapper for the property types the app's models have.

ObjectMapper leaves a non-optional `String` property alone unless the key carries a string,
but sets an `Int` property to `0` when the key is present and carries no number.
-/

namespace ThorChat.Runtime

/-! ## Values -/

/-- A JSON number, the decimal `mantissa / 10 ^ exponent`. -/
structure NSNumber where
  mantissa : Int
  exponent : Nat := 0
  deriving DecidableEq, Repr

/-- The number as a 64-bit integer: truncated toward zero, then reduced to 64 bits. -/
def NSNumber.int64Value (number : NSNumber) : Int :=
  Int.bmod (number.mantissa.tdiv (Int.pow 10 number.exponent)) UInt64.size

/-- A decoded JSON value. A key occurs once in an object; of a longer list the first
occurrence counts. -/
inductive JSON where
  | null
  | bool (value : Bool)
  | number (value : NSNumber)
  | string (value : String)
  | array (elements : List JSON)
  | object (members : List (String × JSON))

/-- A JSON dictionary, `[String: Any]`. -/
abbrev Dictionary := List (String × JSON)

/-- `dictionaryObject` is non-nil exactly for JSON objects. -/
def JSON.dictionaryObject : JSON → Option Dictionary
  | .object members => some members
  | _ => none

/-- The value is a JSON object. -/
def JSON.isObject (json : JSON) : Bool :=
  json.dictionaryObject.isSome

theorem JSON.isObject_iff {json : JSON} : json.isObject = true ↔ ∃ d, json = .object d := by
  cases json <;> simp [JSON.isObject, JSON.dictionaryObject]

theorem JSON.dictionaryObject_eq_some {json : JSON} {d : Dictionary} :
    json.dictionaryObject = some d ↔ json = .object d := by
  cases json <;> simp [JSON.dictionaryObject]

theorem JSON.dictionaryObject_eq_none {json : JSON} :
    json.dictionaryObject = none ↔ json.isObject = false := by
  cases json <;> simp [JSON.isObject, JSON.dictionaryObject]

/-! ## Mapping -/

/-- `toSignedInteger`: booleans are numbers too, as `NSNumber` has it. -/
def toSignedInteger : JSON → Option Int
  | .number value => some value.int64Value
  | .bool value => some (if value then 1 else 0)
  | _ => none

/-- `<-` on a `SignedInteger` property. -/
def mapSignedInteger (property : Int) (json : Dictionary) (key : String) : Int :=
  match json.lookup key with
  | none => property
  | some value => (toSignedInteger value).getD 0

/-- `<-` on an optional `SignedInteger` property. -/
def mapOptionalSignedInteger (property : Option Int) (json : Dictionary) (key : String) :
    Option Int :=
  match json.lookup key with
  | none => property
  | some value => toSignedInteger value

/-- `currentValue as? String`. -/
def asString : JSON → Option String
  | .string value => some value
  | _ => none

/-- The string an object carries under a key, if it carries one. -/
def stringMember (json : Dictionary) (key : String) : Option String :=
  (json.lookup key).bind asString

/-- `<-` on a `String` property: the property keeps its value unless the key carries a
string. -/
def mapString (property : String) (json : Dictionary) (key : String) : String :=
  (stringMember json key).getD property

/-- `<-` on an optional `String` property. -/
def mapOptionalString (property : Option String) (json : Dictionary) (key : String) :
    Option String :=
  match json.lookup key with
  | none => property
  | some value => asString value

@[simp] theorem mapString_of_stringMember {json : Dictionary} {key value : String}
    (h : stringMember json key = some value) (property : String) :
    mapString property json key = value := by
  simp only [mapString, h, Option.getD_some]

end ThorChat.Runtime
