import Licensing.Text.Tokenize

namespace Licensing.Text

def render (f : Folding) (s : List Char) : List Char :=
  [' '].intercalate ((tokenize f (stripComments s)).map (·.text.toList))

def settle (f : Folding) : (passes : Nat) → List Char → List Char
  | 0, s => s
  | n + 1, s =>
    let next := render f s
    if next = s then s else settle f n next

/-- The rendering of a text, rendered again until it settles, at most four times. -/
def normalize (f : Folding) (s : List Char) : List Char :=
  settle f 4 (render f s)

end Licensing.Text
