namespace Licensing

/-- A number written with a point or an exponent is a `decimal`, whatever its value. -/
inductive Json where
  | null
  | bool (b : Bool)
  | integer (n : Int)
  | decimal (mantissa exponent : Int)
  | string (s : String)
  | array (items : List Json)
  | object (members : List (String × Json))
  deriving Inhabited

namespace Json

mutual

def depth : Json → Nat
  | array items => 1 + listDepth items
  | object members => 1 + memberDepth members
  | _ => 1

def listDepth : List Json → Nat
  | [] => 0
  | j :: rest => max (depth j) (listDepth rest)

def memberDepth : List (String × Json) → Nat
  | [] => 0
  | (_, j) :: rest => max (depth j) (memberDepth rest)

end

def nat (n : Nat) : Json :=
  integer n

def chars (s : List Char) : Json :=
  string (String.ofList s)

def ofOption {α : Type} (encode : α → Json) : Option α → Json
  | some a => encode a
  | none => null

def bool? : Json → Option Bool
  | bool b => some b
  | _ => none

def string? : Json → Option String
  | string s => some s
  | _ => none

def chars? (j : Json) : Option (List Char) :=
  j.string?.map String.toList

def natBelow? (bound : Nat) : Json → Option Nat
  | integer n => if 0 ≤ n ∧ n < bound then some n.toNat else none
  | _ => none

/-- A number of things: it fits 64 bits. -/
def size? (j : Json) : Option Nat :=
  j.natBelow? UInt64.size

def version? (j : Json) : Option Nat :=
  j.natBelow? UInt32.size

def array? : Json → Option (List Json)
  | array items => some items
  | _ => none

def list? {α : Type} (decode : Json → Option α) (j : Json) : Option (List α) :=
  j.array?.bind (·.mapM decode)

def nullable? {α : Type} (decode : Json → Option α) : Json → Option (Option α)
  | null => some none
  | j => (decode j).map some

/-- The fields of a record. -/
structure Record where
  get? : String → Option Json
  positional : Bool

def object? : Json → Option Record
  | object members => some ⟨(members.lookup ·), false⟩
  | _ => none

/-- An object, or an array of at most as many items, which are then the fields in order. -/
def record? (names : List String) : Json → Option Record
  | object members => some ⟨(members.lookup ·), false⟩
  | array items =>
    if items.length ≤ names.length then some ⟨((names.zip items).lookup ·), true⟩ else none
  | _ => none

namespace Record

def required {α : Type} (r : Record) (name : String) (decode : Json → Option α) : Option α :=
  (r.get? name).bind decode

def withDefault {α : Type} (r : Record) (name : String) (default : α) (decode : Json → Option α) :
    Option α :=
  match r.get? name with
  | none => some default
  | some j => decode j

/-- A field that may be missing or null; by order, it must not be missing. -/
def optional {α : Type} (r : Record) (name : String) (decode : Json → Option α) :
    Option (Option α) :=
  match r.get? name with
  | none => if r.positional then none else some none
  | some j => j.nullable? decode

end Record

end Json

end Licensing
