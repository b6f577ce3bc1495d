import Licensing.Matching.Search

namespace Licensing.Matching

open Licensing.Text Licensing.Template

variable [Engine]

/-- Whether the template from a step on can match, and if not, the divergence that tells most. -/
inductive Answer where
  | matched
  | failed (divergence : Option Divergence)
  deriving DecidableEq, Repr

def Answer.isMatch : Answer → Bool
  | .matched => true
  | .failed _ => false

def Outcome.answer : Outcome → Answer
  | .matched _ => .matched
  | .failed divergence => .failed divergence

/-- The answers that are known, by step and position. -/
abbrev Memo : Type := List ((Nat × Nat) × Answer)

abbrev Walk : Type → Type := StateT Memo Option

def extendRegions (start stop : Nat) : List Region → List Region
  | (start', stop') :: before =>
    if stop' = start then (start', stop) :: before else (start, stop) :: (start', stop') :: before
  | [] => [(start, stop)]

namespace Walk

section

variable (p : Program) (d : Document) (mode : Mode)

def matchText (id place : Nat) : Option (Except Divergence Nat) :=
  p.steps[id]?.map fun step =>
    match step.action with
    | .text tokens => matchTokens d id 0 place tokens
    | _ => .ok place

def variableEnds (id place : Nat) : Option (Except Divergence (List Nat)) := do
  let step ← p.steps[id]?
  match step.action with
  | .variable rule literal =>
    match candidateEnds d mode place (following p d step.next) with
    | [] =>
      match step.next with
      | none => return .error (.variable place id)
      | some next =>
        match ← matchText p d next place with
        | .error divergence => return .error divergence
        | .ok _ => return .error (.variable place id)
    | ends =>
      match ends.filter (acceptsSpan d rule literal place) with
      | [] => return .error (.variable place id)
      | accepted => return .ok accepted
  | _ => return .ok [place]

def tryEach (size : Nat) (goOn : Nat → Walk Answer) : Option Divergence → List Nat → Walk Answer
  | best, [] => return .failed best
  | best, stop :: rest => do
    match ← goOn stop with
    | .matched => return .matched
    | .failed divergence =>
      tryEach size goOn (Divergence.better (Divergence.progressesLess size) best divergence) rest

/-- The answer of the step `id` at a position. What can come after it is asked by `goOn`. -/
def answerStep (goOn : Option Nat → Nat → Walk Answer) (id place : Nat) : Walk Answer := do
  let step ← p.steps[id]?
  match step.action with
  | .text _ =>
    match ← matchText p d id place with
    | .error divergence => return .failed (some divergence)
    | .ok stop => goOn step.next stop
  | .optional inner =>
    match ← (if inner.isSome then goOn inner place else pure (.failed none)) with
    | .matched => return .matched
    | .failed divergence =>
      match ← goOn step.next place with
      | .matched => return .matched
      | .failed divergence' =>
        return .failed (Divergence.better Divergence.reachesLess divergence divergence')
  | .variable _ _ =>
    match ← variableEnds p d mode id place with
    | .error divergence => return .failed (some divergence)
    | .ok ends => tryEach p.steps.length (goOn step.next) none ends

/-- The answer is known, or it is worked out and kept. -/
def solve : Nat → Option Nat → Nat → Walk Answer
  | _, none, place => return (endOutcome d mode place).answer
  | 0, some _, _ => failure
  | fuel + 1, some id, place => do
    match (← get).lookup (id, place) with
    | some known => return known
    | none =>
      let answer ← answerStep p d mode (solve fuel) id place
      modify (((id, place), answer) :: ·)
      return answer

def accepts (link : Option Nat) (place : Nat) : Walk Bool :=
  Answer.isMatch <$> solve p d mode p.steps.length link place

/-- Collects regions until the template ends or a variable has no end. -/
def regionsFrom : Nat → Option Nat → Nat → List Region → Walk (List Region)
  | _, none, _, found => return found.reverse
  | 0, some _, _, _ => failure
  | fuel + 1, some id, place, found => do
    let step ← p.steps[id]?
    match step.action with
    | .text tokens =>
      let stop := place + tokens.length
      regionsFrom fuel step.next stop
        (if step.depth = 0 then extendRegions place stop found else found)
    | .optional inner =>
      if ← (if inner.isSome then accepts p d mode inner place else pure false) then
        regionsFrom fuel inner place found
      else regionsFrom fuel step.next place found
    | .variable _ _ =>
      let ends := (← variableEnds p d mode id place).toOption.getD []
      match ← ends.findM? (accepts p d mode step.next) with
      | none => return found.reverse
      | some stop => regionsFrom fuel step.next stop found

end

/-- The regions that a match of the whole text leaves, or why there is none. -/
def compare (p : Program) (d : Document) : Walk Outcome := do
  match ← solve p d .exact p.steps.length p.entry 0 with
  | .matched => return .matched (← regionsFrom p d .exact p.steps.length p.entry 0 [])
  | .failed divergence => return .failed divergence

def occurs (p : Program) (d : Document) : Walk Bool :=
  if d.size = 0 then pure false
  else (candidateStarts p d).anyM fun start => accepts p d .contains p.entry start

end Walk

end Licensing.Matching
