import Licensing.Template.Event

namespace Licensing.Template

open Licensing.Text

variable [Engine]

/-- What becomes of the variables, or of the optional regions, of a template. -/
inductive Treatment where
  /-- The text of the template's own license stays. -/
  | keep
  /-- A new segment starts. -/
  | omit
  /-- A pattern stands in its place. -/
  | regex
  deriving DecidableEq, Repr

/-- A pattern as it stands in a segment. -/
def markPattern (pattern : List Char) : List Char :=
  "~~~".toList ++ pattern ++ "~~~".toList

/-- Segments that are being collected, the last first. -/
structure Segments where
  variableTreatment : Treatment
  optionalTreatment : Treatment
  depth : Nat := 0
  current : List Char := []
  done : List (List Char) := []

namespace Segments

/-- Whether what comes now is dropped with the optional region around it. -/
def drops (s : Segments) : Bool :=
  0 < s.depth && s.optionalTreatment ≠ .keep

def write (s : Segments) (text : List Char) : Segments :=
  { s with current := s.current ++ text }

/-- Finishes the segment, which is dropped if it is blank. -/
def cut (s : Segments) : Segments :=
  let segment := trim s.current
  { s with current := [], done := if segment.isEmpty then s.done else segment :: s.done }

def sink : Sink Segments := fun s event =>
  .ok <| match event with
  | .text content _ => if s.drops then s else s.write content
  | .variable rule =>
    if s.drops then s
    else match s.variableTreatment with
      | .keep => s.write rule.defaultText
      | .omit => s.cut
      | .regex => s.write (markPattern rule.pattern)
  | .beginOptional _ =>
    let inside := { s with depth := s.depth + 1 }
    if s.depth = 0 then
      match s.optionalTreatment with
      | .keep => inside
      | .omit => inside.cut
      | .regex => inside.write (markPattern VariableRule.anyText)
    else inside
  | .endOptional _ => { s with depth := s.depth - 1 }
  | .finish => s.cut

def toList (s : Segments) : List (List Char) :=
  s.done.reverse

end Segments

/-- The segments of text that a matching text must hold. -/
def requiredText (template : List Char) (variableTreatment optionalTreatment : Treatment) :
    Except TemplateError (List (List Char)) :=
  (Segments.sink.run { variableTreatment, optionalTreatment } template).map (·.toList)

/-- The sink that writes the text a template was written from. -/
def plainSink : Sink (List Char) := fun s event =>
  .ok <| match event with
  | .text content _ => s ++ content
  | .variable rule => s ++ rule.defaultText
  | _ => s

/-- Variables with their default text, and all optional text. -/
def plainText (template : List Char) : Except TemplateError (List Char) :=
  plainSink.run [] template

end Licensing.Template
