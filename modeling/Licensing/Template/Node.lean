import Licensing.Template.Event

namespace Licensing.Template

variable [Engine]

inductive Node where
  | text (content : List Char)
  | optional (name : Option (List Char)) (children : List Node)
  | variable (name pattern defaultText : List Char) (sample : Option (List Char))
  deriving Repr, Inhabited

/-- A tree that is being built: the nodes at the top and the open regions, the last first. -/
structure Outline where
  top : List Node := []
  openRegions : List (Option (List Char) × List Node) := []

namespace Outline

/-- Adds a node behind others; a text joins a text in front of it. -/
def append (nodes : List Node) (node : Node) : List Node :=
  match node, nodes with
  | .text content, .text before :: rest => .text (before ++ content) :: rest
  | node, nodes => node :: nodes

def add (o : Outline) (node : Node) : Outline :=
  match o.openRegions with
  | (name, nodes) :: rest => { o with openRegions := (name, append nodes node) :: rest }
  | [] => { o with top := append o.top node }

def sink : Sink Outline := fun o event =>
  match event with
  | .text content _ => .ok (o.add (.text content))
  | .variable rule => .ok (o.add (.variable rule.name rule.pattern rule.defaultText rule.sample))
  | .beginOptional rule => .ok { o with openRegions := (rule.name, []) :: o.openRegions }
  | .endOptional rule =>
    match o.openRegions with
    | (name, nodes) :: rest =>
      .ok (Outline.add { o with openRegions := rest } (.optional name nodes.reverse))
    | [] => .error (.unexpectedEnd rule.line)
  | .finish => .ok o

def nodes (o : Outline) : List Node :=
  o.top.reverse

end Outline

def parseTree (template : List Char) : Except TemplateError (List Node) :=
  (Outline.sink.run {} template).map (·.nodes)

end Licensing.Template
