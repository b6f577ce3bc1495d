namespace Licensing.Unicode

def hexDigit? (c : Char) : Option Nat :=
  if '0' ≤ c ∧ c ≤ '9' then some (c.toNat - 48)
  else if 'a' ≤ c ∧ c ≤ 'f' then some (c.toNat - 87)
  else none

/-- A set of code points: closed ranges in ascending order. -/
structure Ranges where
  ranges : Array (Nat × Nat)

namespace Ranges

/-- Holds the first code point once a `-` was met, and the digits since. -/
def rangesFrom (first : Option Nat) (value : Nat) : List Char → List (Nat × Nat)
  | [] => [(first.getD value, value)]
  | c :: cs =>
    match hexDigit? c with
    | some d => rangesFrom first (16 * value + d) cs
    | none =>
      if c = '-' then rangesFrom (some value) 0 cs
      else (first.getD value, value) :: rangesFrom none 0 cs

def written (text : List Char) : List (Nat × Nat) :=
  if text.isEmpty then [] else rangesFrom none 0 text

def parse (text : String) : Ranges :=
  ⟨(written text.toList).toArray⟩

def search (ranges : Array (Nat × Nat)) (x lo hi : Nat) : Bool :=
  if lo < hi then
    let mid := (lo + hi) / 2
    match ranges[mid]? with
    | none => false
    | some (first, last) =>
      if x < first then search ranges x lo mid
      else if last < x then search ranges x (mid + 1) hi
      else true
  else false
termination_by hi - lo

def contains (r : Ranges) (c : Char) : Bool :=
  search r.ranges c.toNat 0 r.ranges.size

end Ranges

/-- A map from code points to `α`, as pairs in ascending order of the keys. -/
structure Mapping (α : Type) where
  entries : Array (Nat × α)

namespace Mapping

variable {α : Type}

/-- Holds the key once a colon was met, the image so far in reverse, and the digits since. -/
def entriesFrom (key : Nat) (image : List Nat) (value : Nat) :
    List Char → List (Nat × List Nat)
  | [] => [(key, (value :: image).reverse)]
  | c :: cs =>
    match hexDigit? c with
    | some d => entriesFrom key image (16 * value + d) cs
    | none =>
      if c = ':' then entriesFrom value image 0 cs
      else if c = '.' then entriesFrom key (value :: image) 0 cs
      else (key, (value :: image).reverse) :: entriesFrom 0 [] 0 cs

def written (text : List Char) : List (Nat × List Nat) :=
  if text.isEmpty then [] else entriesFrom 0 [] 0 text

def parse (sections : List String) : Mapping (List Nat) :=
  ⟨(sections.flatMap (written ·.toList)).toArray⟩

def map {β : Type} (f : α → β) (m : Mapping α) : Mapping β :=
  ⟨m.entries.map fun (key, a) => (key, f a)⟩

def search (entries : Array (Nat × α)) (x lo hi : Nat) : Option α :=
  if lo < hi then
    let mid := (lo + hi) / 2
    match entries[mid]? with
    | none => none
    | some (key, a) =>
      if x < key then search entries x lo mid
      else if key < x then search entries x (mid + 1) hi
      else some a
  else none
termination_by hi - lo

def get? (m : Mapping α) (c : Char) : Option α :=
  search m.entries c.toNat 0 m.entries.size

end Mapping

end Licensing.Unicode
