import Licensing.Template.Body
import Licensing.Text.Tokenize

namespace Licensing.Matching

open Licensing.Text Licensing.Template

variable [Engine]

inductive Action where
  | text (tokens : List String)
  | optional (inner : Option Nat)
  | variable (rule : VariableRule) (literal : Option String)

/-- A step, the step that follows it, and the number of optional regions around it. -/
structure Step where
  action : Action
  next : Option Nat
  depth : Nat

/-- A template ready for matching. -/
structure Program where
  steps : List Step
  folding : Folding

def textTokens (f : Folding) (content : List Char) : List String :=
  (tokenize f content).map (·.text)

/-- The default text of a variable, if it is a single word. -/
def literal? (f : Folding) (rule : VariableRule) : Option String :=
  if isSingleToken rule.defaultText then
    match tokenize f rule.defaultText with
    | [token] => some token.text
    | _ => none
  else none

/-- The number of steps that a body takes. Text without tokens takes none. -/
def stepCount (f : Folding) : Body → Nat
  | .done => 0
  | .text content rest => (if (textTokens f content).isEmpty then 0 else 1) + stepCount f rest
  | .optional _ inner rest => 1 + stepCount f inner + stepCount f rest
  | .variable _ rest => 1 + stepCount f rest

/-- The first of `count` steps from `id` on, or else the step that comes after them. -/
def firstStep (id count : Nat) (after : Option Nat) : Option Nat :=
  if count = 0 then after else some id

/-- The steps of a body inside `depth` regions, numbered from `id` on; `after` follows them. -/
def layout (f : Folding) (depth id : Nat) (after : Option Nat) : Body → List Step
  | .done => []
  | .text content rest =>
    let tokens := textTokens f content
    if tokens.isEmpty then layout f depth id after rest
    else
      ⟨.text tokens, firstStep (id + 1) (stepCount f rest) after, depth⟩ ::
        layout f depth (id + 1) after rest
  | .optional _ inner rest =>
    let innerCount := stepCount f inner
    let next := firstStep (id + 1 + innerCount) (stepCount f rest) after
    ⟨.optional (firstStep (id + 1) innerCount none), next, depth⟩ ::
      (layout f (depth + 1) (id + 1) next inner ++ layout f depth (id + 1 + innerCount) after rest)
  | .variable rule rest =>
    ⟨.variable rule (literal? f rule), firstStep (id + 1) (stepCount f rest) after, depth⟩ ::
      layout f depth (id + 1) after rest

namespace Program

def ofBody (f : Folding) (body : Body) : Program :=
  ⟨layout f 0 0 none body, f⟩

def compile (f : Folding) (template : List Char) : Except TemplateError Program :=
  (Body.parse (stripComments template)).map (ofBody f)

def entry (p : Program) : Option Nat :=
  firstStep 0 p.steps.length none

def isEmpty (p : Program) : Bool :=
  p.steps.isEmpty

def tokenCount (p : Program) : Nat :=
  p.steps.foldr (fun step n => match step.action with
    | .text tokens => tokens.length + n
    | _ => n) 0

def textAt? (p : Program) (id : Nat) : Option (List String) :=
  p.steps[id]?.bind fun step =>
    match step.action with
    | .text tokens => some tokens
    | _ => none

/-- The token that a match must begin with, if the text does not matter for it. -/
def leadingToken? (p : Program) (id : Option Nat) : Option String :=
  id.bind fun id => (p.textAt? id).bind (·.head?)

end Program

end Licensing.Matching
