import Licensing.Json.Basic
import Licensing.Template.Node

namespace Licensing.Template.Node

open Json

mutual

def toJson : Node → Json
  | text content => object [("kind", string "text"), ("content", chars content)]
  | optional name children =>
    object [("kind", string "optional"), ("name", ofOption chars name),
      ("children", array (listToJson children))]
  | .variable name pattern defaultText sample =>
    object ([("kind", string "variable"), ("name", chars name), ("match_regex", chars pattern),
        ("original_text", chars defaultText)] ++
      match sample with
      | some sample => [("example", chars sample)]
      | none => [])

def listToJson : List Node → List Json
  | [] => []
  | node :: rest => toJson node :: listToJson rest

end

/-- The kind of a node and the value of its fields; an array has the kind in front of them. -/
def kind? : Json → Option (String × Json)
  | object members => (members.lookup "kind").bind fun kind => kind.string?.map (·, object members)
  | array (kind :: fields) => kind.string?.map (·, array fields)
  | _ => none

def ofJsonWithin : (depth : Nat) → Json → Option Node
  | 0, _ => none
  | depth + 1, j => do
    let (kind, fields) ← kind? j
    match kind with
    | "text" =>
      let r ← fields.record? ["content"]
      return text (← r.required "content" chars?)
    | "optional" =>
      let r ← fields.record? ["name", "children"]
      let name ← r.optional "name" chars?
      return optional name (← r.required "children" (·.list? (ofJsonWithin depth)))
    | "variable" =>
      let r ← fields.record? ["name", "match_regex", "original_text", "example"]
      let name ← r.required "name" chars?
      let pattern ← r.required "match_regex" chars?
      let defaultText ← r.required "original_text" chars?
      let sample ← r.withDefault "example" none (·.nullable? chars?)
      return .variable name pattern defaultText sample
    | _ => none

def ofJson? (j : Json) : Option Node :=
  ofJsonWithin j.depth j

end Licensing.Template.Node
