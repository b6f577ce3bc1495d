import Licensing.Matching.Search

namespace Licensing.Matching

open Licensing.Text

variable [Engine]

/-- The result of a comparison; the regions are present if no difference was found. -/
structure Difference where
  found : Bool
  message : String
  places : List Position
  regions : Option (List Region)
  deriving DecidableEq, Repr

namespace Difference

def noDifference (regions : List Region) : Difference :=
  ⟨false, "", [], some regions⟩

def difference (message : String) (place : Option Position) : Difference :=
  ⟨true, message, place.toList, none⟩

end Difference

def lastPosition? (d : Document) : Option Position :=
  d.tokens.back?.map (·.position)

/-- The place of a token, or of the last one if there is none with the given index. -/
def position? (d : Document) (i : Nat) : Option Position :=
  (d.tokens[i]?.map (·.position)).or (lastPosition? d)

/-- Nothing is quoted if 64 bits do not hold the index behind the quotation. -/
def textContext (d : Document) (i : Nat) (count : UInt64) : String :=
  String.ofList (d.normalizedSpan i (min (i.toUInt64 + count).toNat d.size))

def templateContext (p : Program) (id offset : Nat) (count : UInt64) : String :=
  " ".intercalate ((((p.textAt? id).getD []).drop offset).take count.toNat)

def variableName (p : Program) (id : Nat) : String :=
  match p.steps[id]? with
  | some { action := .variable rule _, .. } => String.ofList rule.name
  | _ => ""

def describePlace (place : Option Position) (quotation : String) : String :=
  let line := (place.map (·.line)).getD 0
  let column := (place.map (·.column)).getD 0
  s!"starting at line #{line} column #{column} \"" ++ quotation ++ "\""

/-- The report of a divergence, with quotations of at most `count` tokens. -/
def describe (p : Program) (d : Document) (count : UInt64) : Option Divergence → Difference
  | none => .difference "Template does not match the text" none
  | some (.mismatch place step offset) =>
    let position := (position? d place).getD ⟨0, 0, 0⟩
    .difference ("Normal text of license does not match " ++
        describePlace (some position) (textContext d place count) ++
        " when comparing to template text \"" ++ templateContext p step offset count ++ "\"")
      (some position)
  | some (.missing _ step offset) =>
    .difference ("End of license text reached with missing text starting with \"" ++
        templateContext p step offset count ++ "\"")
      (lastPosition? d)
  | some (.additional place) =>
    let position := (position? d place).getD ⟨0, 0, 0⟩
    .difference ("Additional text found after the end of the template " ++
        describePlace (some position) (textContext d place count))
      (some position)
  | some (.variable place step) =>
    let position := position? d place
    .difference ("Variable text rule \"" ++ variableName p step ++ "\" did not match the text " ++
        describePlace position (textContext d place count))
      position

def compareWith (p : Program) (d : Document) (contextTokens : UInt64) : Difference :=
  match exactOutcome p d with
  | .matched regions => .noDifference regions
  | .failed divergence => describe p d contextTokens divergence

end Licensing.Matching
