import Licensing.Pattern.CharSet

namespace Licensing.Pattern

/-- What can be asked of a position, given the characters around it. -/
inductive Look where
  | textStart
  | textEnd
  | lineStart
  | lineEnd
  /-- As `lineStart` and `lineEnd`, with a carriage return, alone or with the line feed after it,
  ending lines too. -/
  | returnLineStart
  | returnLineEnd
  | wordBoundary (unicode : Bool)
  | notWordBoundary (unicode : Bool)
  | wordStart (unicode : Bool)
  | wordEnd (unicode : Bool)
  | wordStartHalf (unicode : Bool)
  | wordEndHalf (unicode : Bool)
  deriving DecidableEq, Repr

def isWordAt (unicode : Bool) (c : Option Char) : Bool :=
  c.any (if unicode then Unicode.isWord else Unicode.isAsciiWord)

def Look.holds (before after : Option Char) : Look → Bool
  | .textStart => before.isNone
  | .textEnd => after.isNone
  | .lineStart => before.isNone || before = some '\n'
  | .lineEnd => after.isNone || after = some '\n'
  | .returnLineStart =>
    before.isNone || before = some '\n' || before = some '\r' && after ≠ some '\n'
  | .returnLineEnd =>
    after.isNone || after = some '\r' || after = some '\n' && before ≠ some '\r'
  | .wordBoundary u => isWordAt u before != isWordAt u after
  | .notWordBoundary u => isWordAt u before == isWordAt u after
  | .wordStart u => !isWordAt u before && isWordAt u after
  | .wordEnd u => isWordAt u before && !isWordAt u after
  | .wordStartHalf u => !isWordAt u before
  | .wordEndHalf u => !isWordAt u after

/-- The smallest expressions: a character of a set, or a question about a position. -/
inductive Atom where
  | char (s : CharSet)
  | look (l : Look)

/-- Whether an atom can match at a position with the given characters around it. -/
def Atom.holds (before after : Option Char) : Atom → Bool
  | .char s => after.any s.contains
  | .look l => l.holds before after

def Atom.advances : Atom → Bool
  | .char _ => true
  | .look _ => false

/-- Regular expressions over atoms; a repetition without `max` has no upper bound. -/
inductive Regex (α : Type) where
  | empty
  | atom (a : α)
  | concat (r s : Regex α)
  | alt (r s : Regex α)
  | repetition (r : Regex α) (min : Nat) (max : Option Nat)

namespace Regex

variable {α β : Type}

def map (f : α → β) : Regex α → Regex β
  | empty => empty
  | atom a => atom (f a)
  | concat r s => concat (r.map f) (s.map f)
  | alt r s => alt (r.map f) (s.map f)
  | repetition r min max => repetition (r.map f) min max

/-- A step on sets of positions: keep those in `mask`, and go on by one position if `advances`. -/
structure Step where
  mask : Nat
  advances : Bool

def Step.apply (step : Step) (positions : Nat) : Nat :=
  let kept := positions &&& step.mask
  if step.advances then kept <<< 1 else kept

def iterate (f : Nat → Nat) : Nat → Nat → Nat
  | 0, positions => positions
  | n + 1, positions => if positions = 0 then 0 else iterate f n (f positions)

/-- The set `reached`, with what `f` reaches from `edge` in at most so many rounds. -/
def spread (f : Nat → Nat) : Nat → Nat → Nat → Nat
  | 0, _, reached => reached
  | n + 1, edge, reached =>
    let next := f edge
    let fresh := next ^^^ (next &&& reached)
    if fresh = 0 then reached else spread f n fresh (reached ||| fresh)

/-- Where matches end that start at one of the given positions of a text with `size` of them. -/
def image (size : Nat) : Regex Step → Nat → Nat
  | empty, positions => positions
  | atom step, positions => step.apply positions
  | concat r s, positions => image size s (image size r positions)
  | alt r s, positions => image size r positions ||| image size s positions
  | repetition r min max, positions =>
    let start := iterate (image size r) min positions
    spread (image size r) (match max with | some m => m - min | none => size) start start

/-- The number whose bits are given, the lowest first. -/
def ofBits (bits : List Bool) : Nat :=
  bits.foldr (fun b n => 2 * n + b.toNat) 0

/-- The characters around each position of a text that follows the character `before`. -/
def surroundings (before : Option Char) : List Char → List (Option Char × Option Char)
  | [] => [(before, none)]
  | c :: cs => (before, some c) :: surroundings (some c) cs

/-- Whether the expression matches somewhere in the text. -/
def matchesIn (r : Regex Atom) (s : List Char) : Bool :=
  let places := surroundings none s
  let steps := r.map fun a =>
    (⟨ofBits (places.map fun (before, after) => a.holds before after), a.advances⟩ : Step)
  image places.length steps (ofBits (places.map fun _ => true)) ≠ 0

/-- About the number of bytes that an automaton for the expression takes. -/
def cost : Regex Atom → Nat
  | empty => 32
  | atom (.char s) => 36 * (s.cost + 1)
  | atom (.look _) => 32
  | concat r s => r.cost + s.cost
  | alt r s => r.cost + s.cost + 72
  | repetition r min max =>
    match max with
    | some m => min * r.cost + (m - min) * (r.cost + 40) + 32
    | none => Nat.max min 1 * r.cost + 72

end Regex

end Licensing.Pattern
