import Licensing.Text.Comment
import Licensing.Text.Folding
import Licensing.Text.Spelling
import Licensing.Text.Token
import Licensing.Unicode.Grapheme

namespace Licensing.Text

open Licensing.Unicode

def isBoundaryMark (c : Char) : Bool :=
  ".,?!'\"();:/[]<>-*=".toList.contains c

def isBoundary (c : Char) : Bool :=
  isWhitespace c || isBoundaryMark c

/-- Tokens that never take part in a comparison. -/
def isSkippable (token : String) : Bool :=
  ["-", ",", "'", "\"", "*", "="].contains token

/-- A folded character with the place of the grapheme cluster that it comes from. -/
structure Glyph where
  char : Char
  column : Nat
  width : Nat
  start : Nat
  stop : Nat

def glyphs (f : Folding) (column start : Nat) : List (List Char) → List Glyph
  | [] => []
  | cluster :: rest =>
    let stop := start + byteLength cluster
    (foldCluster f cluster).map (⟨·, column, cluster.length, start, stop⟩) ++
      glyphs f (column + cluster.length) stop rest

def wordToken? (line : Nat) : List Glyph → Option Token
  | [] => none
  | last :: earlier =>
    let first := earlier.getLastD last
    some {
      text := String.ofList ((last :: earlier).reverse.map (·.char))
      position := ⟨line, first.column, last.column + last.width - first.column⟩
      start := first.start
      stop := last.stop }

def markToken (line : Nat) (g : Glyph) : Token where
  text := String.singleton g.char
  position := ⟨line, g.column, g.width⟩
  start := g.start
  stop := g.stop

/-- The tokens of a line that starts with the reversed word `word`. -/
def lineTokensFrom (line : Nat) (word : List Glyph) : List Glyph → List Token
  | [] => (wordToken? line word).toList
  | g :: gs =>
    if isWhitespace g.char then (wordToken? line word).toList ++ lineTokensFrom line [] gs
    else if isBoundaryMark g.char then
      (wordToken? line word).toList ++ markToken line g :: lineTokensFrom line [] gs
    else lineTokensFrom line (g :: word) gs

def tokensOfLines (f : Folding) (line start : Nat) : List (List Char) → List Token
  | [] => []
  | s :: rest =>
    lineTokensFrom line [] (glyphs f 0 start (clusters s)) ++
      tokensOfLines f (line + 1) (start + byteLength s + 1) rest

def rawTokens (f : Folding) (s : List Char) : List Token :=
  tokensOfLines f 1 0 (lines s)

/-- Each half has its own place if the source is as long as the folded word. -/
def Token.split (t : Token) (first second : String) : List Token :=
  if t.stop - t.start = t.text.utf8ByteSize ∧ t.position.length = t.text.length then
    let cut := first.utf8ByteSize
    [{ t with
        text := first
        stop := t.start + cut
        position.length := cut },
      { t with
        text := second
        start := t.start + cut
        position.column := t.position.column + cut
        position.length := t.position.length - cut }]
  else [{ t with text := first }, { t with text := second }]

def Token.canonical (t : Token) : List Token :=
  let t := { t with text := canonicalSpelling t.text }
  match splitCompound? t.text with
  | some (first, second) => t.split first second
  | none => [t]

/-- The tokens that take part in a comparison; comment markers are tokens like others. -/
def tokenize (f : Folding) (s : List Char) : List Token :=
  let kept := (rawTokens f s).filter (!isSkippable ·.text)
  if f.words then kept.flatMap Token.canonical else kept

/-- Whether a text is one line with at most one token, skippable ones included. -/
def isSingleToken (s : List Char) : Bool :=
  !s.contains '\n' && !s.contains '\r' && (rawTokens {} s).length ≤ 1

def firstToken? (s : List Char) : Option String :=
  (tokenize {} (stripComments s)).head?.map (·.text)

/-- The source of the tokens from `first` to `last`, or to the end if there is no such `last`. -/
def excerpt (s : List Char) (tokens : List Token) (first last : Nat) : List Char :=
  if last < first then []
  else match tokens[first]? with
    | none => []
    | some t =>
      let stop := match tokens[last]? with
        | some u => u.stop
        | none => byteLength s
      (slice? s t.start stop).getD []

end Licensing.Text
