import Licensing.Pattern.Parser

namespace Licensing

open Pattern

/-- What decides which expressions compile and match, and says why a pattern does not compile. -/
class Engine where
  fits : Regex Atom → Bool
  matchesIn : Regex Atom → List Char → Bool
  diagnosis : List Char → String

/-- The expression of a pattern that is meant to match whole texts, if it compiles. -/
def Engine.compile? [Engine] (pattern : List Char) : Option (Regex Atom) :=
  (parseWhole pattern).filter fits

theorem Engine.parseWhole_of_compile? [Engine] {pattern : List Char} {regex : Regex Atom}
    (h : compile? pattern = some regex) : parseWhole pattern = some regex :=
  (Option.filter_eq_some_iff.1 h).1

def sizeLimit : Nat := 128 * 1024 * 1024

/-- The engine that goes over sets of positions. Sizes are estimates. -/
instance : Engine where
  fits regex := regex.cost ≤ sizeLimit
  matchesIn := Regex.matchesIn
  diagnosis _ := "the pattern does not compile"

end Licensing
