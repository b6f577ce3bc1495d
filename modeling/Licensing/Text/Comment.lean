import Licensing.Text.Whitespace

namespace Licensing.Text

def openers : List (List Char) :=
  ["//", "/*", "*", "#", "' ", "REM ", "<!--", "--", ";", "(*", "\x7b-", ".\\\""].map (·.toList)

def closers : List (List Char) :=
  ["*/", "-->", "-\x7d", "*)"].map (·.toList)

/-- The start of a rule that opens an optional region. -/
def optionalKeyword : List Char :=
  "<<beginOptional".toList

def markerLength? (markers : List (List Char)) (s : List Char) : Option Nat :=
  (markers.find? (·.isPrefixOf s)).map (·.length)

def openerLength? (s : List Char) : Option Nat :=
  markerLength? openers s

/-- A lone star closes a comment when white space stands before it. -/
def closerLength? (s : List Char) : Option Nat :=
  match markerLength? (closers.map List.reverse) s with
  | some n => some n
  | none =>
    match s with
    | '*' :: c :: _ => if isWhitespace c then some 1 else none
    | _ => none

/-- The number counts the characters that a marker already met still covers. -/
def blankMarkersAfter (length? : List Char → Option Nat) : Nat → List Char → List Char
  | _, [] => []
  | n + 1, _ :: cs => ' ' :: blankMarkersAfter length? n cs
  | 0, c :: cs =>
    if isWhitespace c then c :: blankMarkersAfter length? 0 cs
    else match length? (c :: cs) with
      | none => c :: cs
      | some n => ' ' :: blankMarkersAfter length? (n - 1) cs

def blankOpeners (line : List Char) : List Char :=
  blankMarkersAfter openerLength? 0 line

def blankClosers (line : List Char) : List Char :=
  (blankMarkersAfter closerLength? 0 line.reverse).reverse

/-- Blanks the markers behind the rule that opens an optional region at the start of a line. -/
def blankAfterOptional (line : List Char) : List Char :=
  let space := line.takeWhile isWhitespace
  let rest := line.dropWhile isWhitespace
  if optionalKeyword.isPrefixOf rest then
    let rule := rest.takeWhile (· ≠ '>')
    let behind := rest.dropWhile (· ≠ '>')
    if ['>', '>'].isPrefixOf behind then
      space ++ rule ++ ['>', '>'] ++ blankOpeners (behind.drop 2)
    else line
  else line

def blankLine (line : List Char) : List Char :=
  blankAfterOptional (blankOpeners (blankClosers line))

/-- A carriage return in front of the line feed is not part of the line. -/
def blankEndedLine (line : List Char) : List Char :=
  if line.getLast? = some '\r' then blankLine line.dropLast ++ ['\r'] else blankLine line

/-- What stands between line feeds, in a text that starts with the reversed line `line`. -/
def linesFrom (line : List Char) : List Char → List (List Char)
  | [] => [line.reverse]
  | c :: cs => if c = '\n' then line.reverse :: linesFrom [] cs else linesFrom (c :: line) cs

def lines (s : List Char) : List (List Char) :=
  linesFrom [] s

def blankLines : List (List Char) → List Char
  | [] => []
  | [line] => blankLine line
  | line :: rest => blankEndedLine line ++ '\n' :: blankLines rest

/-- Blanks the comment markers of a text. -/
def stripComments (s : List Char) : List Char :=
  blankLines (lines s)

end Licensing.Text
