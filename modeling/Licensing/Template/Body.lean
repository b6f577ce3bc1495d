import Licensing.Template.Event

namespace Licensing.Template

variable [Engine]

/-- A sequence of fixed texts, optional regions and variables. -/
inductive Body where
  | done
  | text (content : List Char) (rest : Body)
  | optional (rule : OptionalRule) (inner rest : Body)
  | variable (rule : VariableRule) (rest : Body)

namespace Body

/-- The bodies that events end: the rest of the innermost region, then of the one around it. -/
def rests : List Event → List Body
  | [] => [.done]
  | .text content _ :: events =>
    match rests events with
    | rest :: outer => .text content rest :: outer
    | [] => []
  | .variable rule :: events =>
    match rests events with
    | rest :: outer => .variable rule rest :: outer
    | [] => []
  | .beginOptional rule :: events =>
    match rests events with
    | inner :: rest :: outer => .optional rule inner rest :: outer
    | short => short
  | .endOptional _ :: events => .done :: rests events
  | .finish :: events => rests events

def parse (template : List Char) : Except TemplateError Body :=
  match read template with
  | ⟨_, some e⟩ => .error e
  | ⟨events, none⟩ => .ok ((rests events).headD .done)

end Body

end Licensing.Template
