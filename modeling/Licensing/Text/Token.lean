namespace Licensing.Text

/-- Lines are counted from one, columns and lengths in characters. -/
structure Position where
  line : Nat
  column : Nat
  length : Nat
  deriving DecidableEq, Repr, Inhabited

/-- The bytes from `start` up to `stop` are those of its source in UTF-8. -/
structure Token where
  text : String
  position : Position
  start : Nat
  stop : Nat
  deriving DecidableEq, Repr, Inhabited

def byteLength : List Char → Nat
  | [] => 0
  | c :: cs => c.utf8Size + byteLength cs

/-- What is left behind the first `n` bytes, unless they end inside a character. -/
def dropBytes? : Nat → List Char → Option (List Char)
  | 0, s => some s
  | _ + 1, [] => none
  | n + 1, c :: cs => if c.utf8Size ≤ n + 1 then dropBytes? (n + 1 - c.utf8Size) cs else none

/-- The first `n` bytes of a text, unless they end inside a character or behind the text. -/
def takeBytes? : Nat → List Char → Option (List Char)
  | 0, _ => some []
  | _ + 1, [] => none
  | n + 1, c :: cs =>
    if c.utf8Size ≤ n + 1 then (takeBytes? (n + 1 - c.utf8Size) cs).map (c :: ·) else none

def slice? (s : List Char) (start stop : Nat) : Option (List Char) :=
  if start ≤ stop then (dropBytes? start s).bind (takeBytes? (stop - start)) else none

end Licensing.Text
