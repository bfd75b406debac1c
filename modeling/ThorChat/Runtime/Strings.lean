/-!
# Swift's Strings

Swift compares strings up to canonical equivalence, and so do its dictionaries. The standard
library is not part of the repository; what the modelled code asks of it beyond the characters of
a string is collected in `Strings`.
-/

namespace ThorChat.Runtime

/-- Comparison and case of Swift's strings. -/
structure Strings where
  /-- The scalars of the canonical composition: strings are equal if these are. -/
  canonical : String → List Char
  /-- `lowercased()`. -/
  lowercased : String → String
  /-- Equal strings are equal in lower case. -/
  lowercased_congr : ∀ {a b : String}, canonical a = canonical b →
    canonical (lowercased a) = canonical (lowercased b)

namespace Strings

/-- `<`, the order of the canonical scalars. -/
def less (S : Strings) (a b : String) : Bool := decide (S.canonical a < S.canonical b)

/-- What a name is found by when case does not matter. -/
def folded (S : Strings) (name : String) : List Char := S.canonical (S.lowercased name)

/-- Strings for worked examples: ASCII, where every scalar is canonical. -/
def sample : Strings where
  canonical := String.toList
  lowercased s := String.ofList (s.toList.map Char.toLower)
  lowercased_congr h := by rw [String.toList_injective h]

end Strings

end ThorChat.Runtime
