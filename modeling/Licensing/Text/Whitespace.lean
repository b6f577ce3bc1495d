namespace Licensing.Text

/-- The characters with the `White_Space` property. -/
def isWhitespace (c : Char) : Bool :=
  let n := c.toNat
  0x09 ≤ n && n ≤ 0x0D || n = 0x20 ||
    0x80 ≤ n && (n = 0x85 || n = 0xA0 || n = 0x1680 || 0x2000 ≤ n && n ≤ 0x200A ||
      n = 0x2028 || n = 0x2029 || n = 0x202F || n = 0x205F || n = 0x3000)

def trimRight (s : List Char) : List Char :=
  (s.reverse.dropWhile isWhitespace).reverse

def trim (s : List Char) : List Char :=
  trimRight (s.dropWhile isWhitespace)

def isBlank (s : List Char) : Bool :=
  s.all isWhitespace

/-- The longest runs without white space of a text that starts with the reversed `word`. -/
def wordsFrom (word : List Char) : List Char → List (List Char)
  | [] => if word.isEmpty then [] else [word.reverse]
  | c :: cs =>
    if isWhitespace c then
      if word.isEmpty then wordsFrom [] cs else word.reverse :: wordsFrom [] cs
    else wordsFrom (c :: word) cs

def words (s : List Char) : List (List Char) :=
  wordsFrom [] s

def collapseWhitespace (s : List Char) : List Char :=
  [' '].intercalate (words s)

end Licensing.Text
