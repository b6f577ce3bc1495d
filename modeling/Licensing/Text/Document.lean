import Licensing.Text.Tokenize

namespace Licensing.Text

/-- The texts of tokens, joined, with the bytes and the first character of each. -/
structure JoinedTokens where
  text : List Char
  ranges : List (Nat × Nat)
  places : List Nat

def joinFrom (bytes count : Nat) : List Token → JoinedTokens
  | [] => ⟨[], [], [count + 1]⟩
  | t :: rest =>
    let blank := if bytes = 0 then [] else [' ']
    let start := bytes + byteLength blank
    let stop := start + byteLength t.text.toList
    let place := count + blank.length
    let later := joinFrom stop (place + t.text.length) rest
    ⟨blank ++ t.text.toList ++ later.text, (start, stop) :: later.ranges, place :: later.places⟩

@[simp] theorem length_ranges_joinFrom (bytes count : Nat) (tokens : List Token) :
    (joinFrom bytes count tokens).ranges.length = tokens.length := by
  induction tokens generalizing bytes count with
  | nil => rfl
  | cons t rest ih => rw [joinFrom, List.length_cons, ih, List.length_cons]

/-- A text without its comment markers, its tokens, and its normalized form. -/
structure Document where
  source : List Char
  tokens : Array Token
  normalized : List Char
  ranges : Array (Nat × Nat)
  places : Array Nat
  size_ranges : ranges.size = tokens.size

namespace Document

def ofSource (f : Folding) (s : List Char) : Document :=
  let tokens := tokenize f s
  let joined := joinFrom 0 0 tokens
  { source := s
    tokens := tokens.toArray
    normalized := joined.text
    ranges := joined.ranges.toArray
    places := joined.places.toArray
    size_ranges := by simp [joined] }

def ofText (f : Folding) (s : List Char) : Document :=
  ofSource f (stripComments s)

theorem ofText_eq (f : Folding) (s : List Char) : ofText f s = ofSource f (stripComments s) :=
  rfl

theorem toList_tokens_ofSource (f : Folding) (s : List Char) :
    (ofSource f s).tokens.toList = tokenize f s :=
  rfl

def size (d : Document) : Nat :=
  d.tokens.size

def text? (d : Document) (i : Nat) : Option String :=
  d.tokens[i]?.map (·.text)

/-- Empty if the range is empty or goes beyond the last token. -/
def normalizedSpan (d : Document) (start stop : Nat) : List Char :=
  if stop ≤ start ∨ d.ranges.size < stop then []
  else match d.ranges[start]?, d.ranges[stop - 1]? with
    | some first, some last => (slice? d.normalized first.1 last.2).getD []
    | _, _ => []

/-- The number of characters of a normalized span, worked out without the span. -/
def normalizedLength (d : Document) (start stop : Nat) : Nat :=
  if stop ≤ start ∨ d.size < stop then 0
  else d.places.getD stop 0 - 1 - d.places.getD start 0

def sourceSpan (d : Document) (start stop : Nat) : List Char :=
  if stop ≤ start ∨ d.size < stop then []
  else match d.tokens[start]?, d.tokens[stop - 1]? with
    | some first, some last => (slice? d.source first.start last.stop).getD []
    | _, _ => []

def occurrences (d : Document) (token : String) : List Nat :=
  (List.range d.size).filter fun i => d.text? i == some token

end Document

end Licensing.Text
