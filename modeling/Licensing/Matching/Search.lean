import Licensing.Matching.Divergence
import Licensing.Text.Document

namespace Licensing.Matching

open Licensing.Text Licensing.Template

variable [Engine]

/-- Whether a template must cover the whole text or may match any run of tokens. -/
inductive Mode where
  | exact
  | contains
  deriving DecidableEq, Repr

/-- A range of tokens: its first index, and the index behind its last. -/
abbrev Region : Type := Nat × Nat

/-- A match with its regions, or a failure with the divergence that tells most. -/
inductive Outcome where
  | matched (regions : List Region)
  | failed (divergence : Option Divergence)
  deriving DecidableEq, Repr

def Outcome.isMatch : Outcome → Bool
  | .matched _ => true
  | .failed _ => false

/-- Puts a region in front of others; it joins one that it touches. -/
def addRegion (start stop : Nat) : List Region → List Region
  | (start', stop') :: rest =>
    if stop = start' then (start, stop') :: rest else (start, stop) :: (start', stop') :: rest
  | [] => [(start, stop)]

/-- The tokens from `offset` on must stand at `place`; the result is the position behind them. -/
def matchTokens (d : Document) (id offset place : Nat) : List String → Except Divergence Nat
  | [] => .ok place
  | token :: rest =>
    match d.text? place with
    | none => .error (.missing place id offset)
    | some found =>
      if found = token then matchTokens d id (offset + 1) (place + 1) rest
      else .error (.mismatch place id offset)

/-- The default word, a span within the length limit, or one that the pattern matches. -/
def acceptsSpan (d : Document) (rule : VariableRule) (literal : Option String) (start stop : Nat) :
    Bool :=
  (literal.isSome && stop = start + 1 && d.text? start = literal) ||
    match rule.limit with
    | some limit => limit.allows (d.normalizedLength start stop)
    | none =>
      rule.accepts (d.normalizedSpan start stop) ||
        rule.accepts (collapseWhitespace (d.sourceSpan start stop))

/-- What follows a variable. -/
inductive Following where
  | token (places : List Nat)
  | choice
  | nothing

def following (p : Program) (d : Document) (next : Option Nat) : Following :=
  match p.leadingToken? next with
  | some token => .token (d.occurrences token)
  | none => if next.isSome then .choice else .nothing

/-- The longest span first, unless nothing more has to match. -/
def candidateEnds (d : Document) (mode : Mode) (place : Nat) : Following → List Nat
  | .token places => places.reverse.filter (place ≤ ·)
  | .choice => (List.range' place (d.size + 1 - place)).reverse
  | .nothing =>
    match mode with
    | .exact => [d.size]
    | .contains => List.range' place (d.size + 1 - place)

/-- The divergence of a variable without a candidate: that of the text which should follow it. -/
def absentFollower (p : Program) (d : Document) (next : Option Nat) (id place : Nat) : Divergence :=
  match next.bind fun next => (p.textAt? next).map (matchTokens d next 0 place) with
  | some (.error divergence) => divergence
  | _ => .variable place id

/-- The best divergence so far is missing as long as no end was accepted. -/
def tryEnds (size : Nat) (accepts : Nat → Bool) (goOn : Nat → Outcome) (rejected : Divergence) :
    Option (Option Divergence) → List Nat → Outcome
  | none, [] => .failed (some rejected)
  | some best, [] => .failed best
  | best, stop :: rest =>
    if accepts stop then
      match goOn stop with
      | .matched regions => .matched regions
      | .failed divergence =>
        tryEnds size accepts goOn rejected
          (some (Divergence.better (Divergence.progressesLess size) best.join divergence)) rest
    else tryEnds size accepts goOn rejected best rest

def endOutcome (d : Document) (mode : Mode) (place : Nat) : Outcome :=
  match mode with
  | .contains => .matched []
  | .exact => if place = d.size then .matched [] else .failed (some (.additional place))

/-- The outcomes `goOn` are those of the steps that can come after it, or of the end. -/
def stepOutcome (p : Program) (d : Document) (mode : Mode) (goOn : Option Nat → Nat → Outcome)
    (id : Nat) (step : Step) (follower : Following) (place : Nat) : Outcome :=
  match step.action with
  | .text tokens =>
    match matchTokens d id 0 place tokens with
    | .error divergence => .failed (some divergence)
    | .ok stop =>
      match goOn step.next stop with
      | .matched regions =>
        .matched (if step.depth = 0 then addRegion place stop regions else regions)
      | failed => failed
  | .optional inner =>
    let present := match inner with
      | some inner => goOn (some inner) place
      | none => .failed none
    match present with
    | .matched regions => .matched regions
    | .failed divergence =>
      match goOn step.next place with
      | .matched regions => .matched regions
      | .failed divergence' =>
        .failed (Divergence.better Divergence.reachesLess divergence divergence')
  | .variable rule literal =>
    match candidateEnds d mode place follower with
    | [] => .failed (some (absentFollower p d step.next id place))
    | ends =>
      tryEnds p.steps.length (acceptsSpan d rule literal place) (goOn step.next)
        (.variable place id) none ends

abbrev Row : Type := Array (Thunk Outcome)

def outcomeAt (rows : List Row) (index place : Nat) : Outcome :=
  match rows[index]?.bind (·[place]?) with
  | some cell => cell.get
  | none => .failed none

def rowsFrom (p : Program) (d : Document) (mode : Mode) (id : Nat) : List Step → List Row
  | [] => []
  | step :: rest =>
    let later := rowsFrom p d mode (id + 1) rest
    let goOn (next : Option Nat) (place : Nat) : Outcome :=
      match next with
      | some next => outcomeAt later (next - (id + 1)) place
      | none => endOutcome d mode place
    let follower := match step.action with
      | .variable _ _ => following p d step.next
      | _ => .nothing
    Array.ofFn (n := d.size + 1) (fun place =>
      Thunk.mk fun _ => stepOutcome p d mode goOn id step follower place) :: later

/-- The table of all outcomes. -/
def rows (p : Program) (d : Document) (mode : Mode) : List Row :=
  rowsFrom p d mode 0 p.steps

def entryOutcome (p : Program) (d : Document) (mode : Mode) (table : List Row) (place : Nat) :
    Outcome :=
  match p.entry with
  | some id => outcomeAt table id place
  | none => endOutcome d mode place

/-- The outcome of matching the whole text. -/
def exactOutcome (p : Program) (d : Document) : Outcome :=
  entryOutcome p d .exact (rows p d .exact) 0

def candidateStarts (p : Program) (d : Document) : List Nat :=
  match p.leadingToken? p.entry with
  | some token => d.occurrences token
  | none => List.range d.size

/-- Whether the template matches some run of tokens. A text without tokens contains nothing. -/
def occursIn (p : Program) (d : Document) : Bool :=
  d.size ≠ 0 &&
    let table := rows p d .contains
    (candidateStarts p d).any fun place => (entryOutcome p d .contains table place).isMatch

end Licensing.Matching
