import Licensing.Expression.Basic

namespace Licensing

/-- The identifiers of custom licenses on the left of a comparison, with those on the right. -/
abbrev Renaming : Type := List (String × String)

namespace Renaming

/-- Adds a pair; an identifier has one image. -/
def insert (t : Renaming) (source target : String) : Renaming :=
  (source, target) :: t.filter (·.1 != source)

def erase (t : Renaming) (source : String) : Renaming :=
  t.filter (·.1 != source)

end Renaming

/-- A pairing under construction: who holds each slot, and which slots the search has visited. -/
structure Pairing where
  owner : List (Option Nat)
  visited : List Bool

namespace Pairing

def visit (p : Pairing) (slot : Nat) : Pairing :=
  { p with visited := p.visited.set slot true }

def assign (p : Pairing) (slot member : Nat) : Pairing :=
  { p with owner := p.owner.set slot (some member) }

/-- Each round visits a slot that was not visited before, so their number bounds the rounds. -/
def augment (candidates : List (List Nat)) (rounds member : Nat) (slots : List Nat) (p : Pairing) :
    Bool × Pairing :=
  match slots with
  | [] => (false, p)
  | slot :: rest =>
    if p.visited.getD slot true then augment candidates rounds member rest p
    else
      let p := p.visit slot
      match p.owner.getD slot none with
      | none => (true, p.assign slot member)
      | some holder =>
        match rounds with
        | 0 => (false, p)
        | fewer + 1 =>
          match augment candidates fewer holder (candidates.getD holder []) p with
          | (true, p) => (true, p.assign slot member)
          | (false, p) => augment candidates (fewer + 1) member rest p
termination_by (rounds, slots.length)

/-- The first list holds all candidates, the second those of the members without a slot yet. -/
def findAll (candidates : List (List Nat)) (owner : List (Option Nat)) (member : Nat) :
    List (List Nat) → Bool
  | [] => true
  | slots :: rest =>
    let start : Pairing := ⟨owner, owner.map fun _ => false⟩
    match augment candidates owner.length member slots start with
    | (true, p) => findAll candidates p.owner (member + 1) rest
    | (false, _) => false

/-- Whether every member can have a slot of its own among its candidates. -/
def isPerfect (slots : Nat) (candidates : List (List Nat)) : Bool :=
  findAll candidates (List.replicate slots none) 0 candidates

end Pairing

def positionsOf {α : Type} (test : α → Bool) (start : Nat) : List α → List Nat
  | [] => []
  | a :: rest =>
    if test a then start :: positionsOf test (start + 1) rest else positionsOf test (start + 1) rest

namespace Expression

mutual

/-- Custom licenses are the same if the renaming takes one to the other. -/
def isEqual (t : Renaming) : Expression → Expression → Bool
  | conjunctive as, conjunctive bs =>
    as.length == bs.length && Pairing.isPerfect bs.length (candidates t as bs)
  | disjunctive as, disjunctive bs =>
    as.length == bs.length && Pairing.isPerfect bs.length (candidates t as bs)
  | custom a, custom b => t.lookup a == some b
  | withException a x, withException b y => x == y && isEqual t a b
  | orLater a, orLater b => isEqual t a b
  | a, b => a == b

def candidates (t : Renaming) : List Expression → List Expression → List (List Nat)
  | [], _ => []
  | a :: as, bs => positionsOf (isEqual t a) 0 bs :: candidates t as bs

end

end Expression

end Licensing
