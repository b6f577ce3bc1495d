namespace Licensing.Yaml

/-- How a scalar is written. -/
inductive Style where
  | plain | quoted | literal | folded
  deriving DecidableEq, Repr

inductive Token where
  | versionDirective
  | tagDirective (handle : List Char)
  | documentStart
  | documentEnd
  | blockSequenceStart
  | blockMappingStart
  | blockEnd
  | flowSequenceStart
  | flowSequenceEnd
  | flowMappingStart
  | flowMappingEnd
  | blockEntry
  | flowEntry
  | key
  | value
  | alias (name : List Char)
  | anchor (name : List Char)
  | tag (handle suffix : List Char)
  | scalar (text : List Char) (style : Style)
  deriving DecidableEq, Repr

/-- A place where a key without an indicator may have started. -/
structure SimpleKey where
  tokens : Nat
  index : Nat
  line : Nat
  column : Nat
  required : Bool

/-- The rest of the document and its place, the open collections, and the tokens so far. -/
structure Scanner where
  rest : List Char
  index : Nat := 0
  line : Nat := 0
  column : Nat := 0
  flow : Nat := 0
  indent : Int := -1
  indents : List Int := []
  keyAllowed : Bool := true
  keys : List (Option SimpleKey) := [none]
  tokens : Array Token := #[]

def isBreak (c : Char) : Bool :=
  c = '\n' || c = '\r' || c.toNat = 0x85 || c.toNat = 0x2028 || c.toNat = 0x2029

def isBlank (c : Char) : Bool :=
  c = ' ' || c = '\t'

def atBlank (s : List Char) : Bool :=
  s.head?.all fun c => isBlank c || isBreak c

def isAllowed (c : Char) : Bool :=
  let n := c.toNat
  n = 0x09 || n = 0x0A || n = 0x0D || 0x20 ≤ n && n ≤ 0x7E || n = 0x85 || 0xA0 ≤ n && n ≤ 0xFFFD ||
    0x10000 ≤ n

namespace Scanner

def skip (s : Scanner) : Scanner :=
  { s with rest := s.rest.tail, index := s.index + 1, column := s.column + 1 }

def skipMany (s : Scanner) (n : Nat) : Scanner :=
  { s with rest := s.rest.drop n, index := s.index + n, column := s.column + n }

def skipBreak (s : Scanner) : Scanner :=
  match s.rest with
  | '\r' :: '\n' :: rest => { s with rest, index := s.index + 2, line := s.line + 1, column := 0 }
  | _ :: rest => { s with rest, index := s.index + 1, line := s.line + 1, column := 0 }
  | [] => s

def breakText (s : Scanner) : List Char :=
  match s.rest with
  | c :: _ => if c.toNat = 0x2028 ∨ c.toNat = 0x2029 then [c] else ['\n']
  | [] => []

def emit (s : Scanner) (t : Token) : Scanner :=
  { s with tokens := s.tokens.push t }

def atMarker (s : Scanner) (marker : List Char) : Bool :=
  s.column = 0 && marker.isPrefixOf s.rest && atBlank (s.rest.drop 3)

def atDocumentMarker (s : Scanner) : Bool :=
  s.atMarker ['-', '-', '-'] || s.atMarker ['.', '.', '.']

end Scanner

end Licensing.Yaml
