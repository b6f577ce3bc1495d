namespace Licensing

/-- A license expression. Members of a set stand in the order in which they were written. -/
inductive Expression where
  | simple (id : String)
  | custom (id : String)
  | conjunctive (members : List Expression)
  | disjunctive (members : List Expression)
  | noAssertion
  | none
  | withException (license : Expression) (exception : String)
  | orLater (license : Expression)
  deriving Inhabited

namespace Expression

def isSet : Expression → Bool
  | conjunctive _ | disjunctive _ => true
  | _ => false

/-- A set with more than one member needs parentheses as an operand. -/
def needsParentheses : Expression → Bool
  | conjunctive members | disjunctive members => 1 < members.length
  | _ => false

def parenthesize (e : Expression) (text : String) : String :=
  if e.needsParentheses then "(" ++ text ++ ")" else text

mutual

def text : Expression → String
  | simple id => id
  | custom id => id
  | conjunctive members => " AND ".intercalate (operandTexts members)
  | disjunctive members => " OR ".intercalate (operandTexts members)
  | noAssertion => "NOASSERTION"
  | none => "NONE"
  | withException license exception => license.parenthesize license.text ++ " WITH " ++ exception
  | orLater license => license.parenthesize license.text ++ "+"

def operandTexts : List Expression → List String
  | [] => []
  | e :: rest => e.parenthesize e.text :: operandTexts rest

end

mutual

def beq : Expression → Expression → Bool
  | simple a, simple b => a == b
  | custom a, custom b => a == b
  | conjunctive as, conjunctive bs => beqAll as bs
  | disjunctive as, disjunctive bs => beqAll as bs
  | noAssertion, noAssertion => true
  | none, none => true
  | withException a x, withException b y => x == y && beq a b
  | orLater a, orLater b => beq a b
  | _, _ => false

def beqAll : List Expression → List Expression → Bool
  | [], [] => true
  | a :: as, b :: bs => beq a b && beqAll as bs
  | _, _ => false

end

instance : BEq Expression := ⟨beq⟩

end Expression

end Licensing
