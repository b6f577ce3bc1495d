import Licensing.Expression.Basic
import Licensing.Json.Basic

namespace Licensing.Expression

open Json

mutual

def toJson : Expression → Json
  | simple id => object [("kind", string "simple"), ("value", string id)]
  | custom id => object [("kind", string "custom"), ("value", string id)]
  | conjunctive members =>
    object [("kind", string "conjunctive"), ("value", array (listToJson members))]
  | disjunctive members =>
    object [("kind", string "disjunctive"), ("value", array (listToJson members))]
  | noAssertion => object [("kind", string "no_assertion")]
  | none => object [("kind", string "none")]
  | withException license exception =>
    object [("kind", string "with_exception"),
      ("value", object [("license", toJson license), ("exception", string exception)])]
  | orLater license => object [("kind", string "or_later"), ("value", toJson license)]

def listToJson : List Expression → List Json
  | [] => []
  | e :: rest => toJson e :: listToJson rest

end

/-- The value under a key. Written as an array, the fields stand in the order of `names`. -/
def field? (names : List String) (j : Json) (name : String) : Option Json :=
  (j.record? names).bind (·.get? name)

def unit? (value : Option Json) (e : Expression) : Option Expression :=
  match value with
  | Option.none | some null => some e
  | some _ => Option.none

/-- Reads an expression that is nested at most `depth` levels deep. -/
def ofJsonWithin : (depth : Nat) → Json → Option Expression
  | 0, _ => Option.none
  | depth + 1, j => do
    let value := field? ["kind", "value"] j "value"
    let complete := match j with
      | array items => items.length = 2
      | _ => true
    if !complete then Option.none else
      match ← (← field? ["kind", "value"] j "kind").string? with
      | "simple" => return simple (← (← value).string?)
      | "custom" => return custom (← (← value).string?)
      | "conjunctive" => return conjunctive (← (← value).list? (ofJsonWithin depth))
      | "disjunctive" => return disjunctive (← (← value).list? (ofJsonWithin depth))
      | "no_assertion" => unit? value noAssertion
      | "none" => unit? value none
      | "with_exception" =>
        let names := ["license", "exception"]
        let license ← field? names (← value) "license"
        let exception ← field? names (← value) "exception"
        return withException (← ofJsonWithin depth license) (← exception.string?)
      | "or_later" => return orLater (← ofJsonWithin depth (← value))
      | _ => Option.none

def ofJson? (j : Json) : Option Expression :=
  ofJsonWithin j.depth j

end Licensing.Expression
