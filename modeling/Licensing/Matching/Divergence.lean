import Licensing.Matching.Program

namespace Licensing.Matching

inductive Divergence where
  /-- The token `at` differs from the token `offset` of the text step `step`. -/
  | mismatch (place step offset : Nat)
  /-- The text ends at `place`, where the text step `step` still asks for its token `offset`. -/
  | missing (place step offset : Nat)
  /-- The template ends at `place`, where the text goes on. -/
  | additional (place : Nat)
  /-- The variable of the step `step` accepts no span from `place` on. -/
  | variable (place step : Nat)
  deriving DecidableEq, Repr

namespace Divergence

def reach : Divergence → Nat
  | .mismatch place _ _ | .missing place _ _ | .additional place | .variable place _ => place

/-- How far into a template with `size` steps a divergence lies: the step and the token in it. -/
def progress (size : Nat) : Divergence → Nat × Nat
  | .mismatch _ step offset | .missing _ step offset => (step, offset)
  | .variable _ step => (step, 0)
  | .additional _ => (size, 0)

def reachesLess (d e : Divergence) : Bool :=
  d.reach < e.reach

def progressesLess (size : Nat) (d e : Divergence) : Bool :=
  let (step, offset) := d.progress size
  let (step', offset') := e.progress size
  step < step' || step = step' && (offset < offset' || offset = offset' && d.reach < e.reach)

/-- The better one of two divergences, the first if neither is. -/
def better (less : Divergence → Divergence → Bool) :
    Option Divergence → Option Divergence → Option Divergence
  | some d, some e => if less d e then some e else some d
  | some d, none => some d
  | none, e => e

end Divergence

end Licensing.Matching
