import Licensing.Expression.Basic

namespace Licensing.Expression

mutual

/-- All members of a conjunction must pass, some member of a disjunction, and else the text. -/
def passes (test : String → Bool) : Expression → Bool
  | conjunctive members => allPass test members
  | disjunctive members => anyPasses test members
  | leaf => test leaf.text

def allPass (test : String → Bool) : List Expression → Bool
  | [] => true
  | e :: rest => passes test e && allPass test rest

def anyPasses (test : String → Bool) : List Expression → Bool
  | [] => false
  | e :: rest => passes test e || anyPasses test rest

end

/-- Whether an expression can be satisfied without a listed license. -/
def passesBlacklist (e : Expression) (list : List String) : Bool :=
  list.isEmpty || e.passes fun leaf => !list.contains leaf

/-- Whether an expression can be satisfied with listed licenses only. Nothing can with none. -/
def passesWhitelist (e : Expression) (list : List String) : Bool :=
  !list.isEmpty && e.passes fun leaf => list.contains leaf

end Licensing.Expression
