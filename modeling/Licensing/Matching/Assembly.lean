import Licensing.Matching.Program

namespace Licensing.Matching

open Licensing.Text Licensing.Template

variable [Engine]

/-- What is known of a region: its first step, and the steps that go on with the next one. -/
structure Frame where
  first : Option Nat := none
  tail : List Nat := []

/-- The steps so far, the innermost open region, and the regions around it. -/
structure Assembly where
  steps : List Step := []
  frame : Frame := {}
  around : List (Nat × Frame) := []
  tokenCount : Nat := 0

/-- Makes the given steps go on with the step `target`. -/
def linkTo (target : Nat) (tail : List Nat) (steps : List Step) : List Step :=
  tail.foldl (fun steps id => steps.modify id ({ · with next := some target })) steps

def Step.withInner (first : Option Nat) (step : Step) : Step :=
  match step.action with
  | .optional _ => { step with action := .optional first }
  | _ => step

namespace Assembly

def push (a : Assembly) (action : Action) : Assembly :=
  let id := a.steps.length
  { a with
    steps := linkTo id a.frame.tail (a.steps ++ [⟨action, none, a.around.length⟩])
    frame := ⟨a.frame.first.or (some id), [id]⟩ }

def pushText (f : Folding) (a : Assembly) (content : List Char) : Assembly :=
  let tokens := textTokens f content
  if tokens.isEmpty then a
  else { a.push (.text tokens) with tokenCount := a.tokenCount + tokens.length }

def pushVariable (f : Folding) (a : Assembly) (rule : VariableRule) : Assembly :=
  a.push (.variable rule (literal? f rule))

def openRegion (a : Assembly) : Assembly :=
  let pushed := a.push (.optional none)
  { pushed with frame := {}, around := (a.steps.length, pushed.frame) :: a.around }

/-- The region gets its first step, and what ends in it goes on with what follows it. -/
def closeRegion (a : Assembly) : Assembly :=
  match a.around with
  | [] => a
  | (owner, outside) :: around =>
    { a with
      steps := a.steps.modify owner (.withInner a.frame.first)
      frame := { outside with tail := outside.tail ++ a.frame.tail }
      around }

def sink (f : Folding) : Sink Assembly := fun a event =>
  match event with
  | .text content _ => .ok (a.pushText f content)
  | .variable rule => .ok (a.pushVariable f rule)
  | .beginOptional _ => .ok a.openRegion
  | .endOptional rule =>
    if a.around.isEmpty then .error (.unexpectedEnd rule.line) else .ok a.closeRegion
  | .finish => .ok a

/-- Strips comment markers from a template and puts its program together. -/
def assemble (f : Folding) (template : List Char) : Except TemplateError Assembly :=
  (sink f).run {} (stripComments template)

def entry (a : Assembly) : Option Nat :=
  ((a.around.getLast?.map (·.2)).getD a.frame).first

end Assembly

end Licensing.Matching
