import Licensing.Text.Whitespace
import Licensing.Unicode.CaseOrbit
import Licensing.Unicode.Property

namespace Licensing.Pattern

open Licensing.Unicode

inductive CharSet where
  | nothing
  | range (first last : Char)
  | property (set : PropertySet)
  | digit
  | space
  | word
  | complement (s : CharSet)
  | union (s t : CharSet)
  | inter (s t : CharSet)
  | diff (s t : CharSet)
  | symmDiff (s t : CharSet)
  | caseClosed (s : CharSet)
  | asciiCaseClosed (s : CharSet)

namespace CharSet

def swapAsciiCase (c : Char) : Char :=
  if 'a' ≤ c ∧ c ≤ 'z' then Char.ofNat (c.toNat - 32)
  else if 'A' ≤ c ∧ c ≤ 'Z' then Char.ofNat (c.toNat + 32)
  else c

def contains : CharSet → Char → Bool
  | nothing, _ => false
  | range first last, c => first ≤ c && c ≤ last
  | property set, c => set.contains c
  | digit, c => isDigit c
  | space, c => Text.isWhitespace c
  | word, c => isWord c
  | complement s, c => !s.contains c
  | union s t, c => s.contains c || t.contains c
  | inter s t, c => s.contains c && t.contains c
  | diff s t, c => s.contains c && !t.contains c
  | symmDiff s t, c => s.contains c != t.contains c
  | caseClosed s, c => (caseOrbit c).any fun d => s.contains d
  | asciiCaseClosed s, c => s.contains c || s.contains (swapAsciiCase c)

def all : CharSet :=
  complement nothing

def singleton (c : Char) : CharSet :=
  range c c

def ofRanges (ranges : List (Char × Char)) : CharSet :=
  ranges.foldr (fun (first, last) s => union (range first last) s) nothing

def unions (sets : List CharSet) : CharSet :=
  sets.foldr union nothing

/-- About how many byte ranges an automaton needs to read a member in UTF-8. -/
def cost : CharSet → Nat
  | nothing => 0
  | range first last =>
    if last.toNat < 0x80 then 1
    else if last.toNat < 0x800 then 3
    else if first.toNat < 0x80 then 27
    else 4
  | property set => set.parts.foldl (fun n part => n + 3 * part.ranges.size) 1
  | digit => 200
  | space => 24
  | word => 2200
  | complement s => 27 + s.cost
  | union s t | inter s t | diff s t | symmDiff s t => s.cost + t.cost
  | caseClosed s => s.cost + 1
  | asciiCaseClosed s => s.cost + 1

def asciiClass? : String → Option CharSet
  | "alnum" => some (ofRanges [('0', '9'), ('A', 'Z'), ('a', 'z')])
  | "alpha" => some (ofRanges [('A', 'Z'), ('a', 'z')])
  | "ascii" => some (ofRanges [('\x00', '\x7f')])
  | "blank" => some (ofRanges [('\t', '\t'), (' ', ' ')])
  | "cntrl" => some (ofRanges [('\x00', '\x1f'), ('\x7f', '\x7f')])
  | "digit" => some (ofRanges [('0', '9')])
  | "graph" => some (ofRanges [('!', '~')])
  | "lower" => some (ofRanges [('a', 'z')])
  | "print" => some (ofRanges [(' ', '~')])
  | "punct" => some (ofRanges [('!', '/'), (':', '@'), ('[', '\x60'), ('\x7b', '~')])
  | "space" => some (ofRanges [('\t', '\r'), (' ', ' ')])
  | "upper" => some (ofRanges [('A', 'Z')])
  | "word" => some (ofRanges [('0', '9'), ('A', 'Z'), ('_', '_'), ('a', 'z')])
  | "xdigit" => some (ofRanges [('0', '9'), ('A', 'F'), ('a', 'f')])
  | _ => none

end CharSet

end Licensing.Pattern
