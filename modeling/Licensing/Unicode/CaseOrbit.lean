import Licensing.Unicode.Table
import Licensing.Unicode.Data.CaseOrbits

namespace Licensing.Unicode

def caseOrbitTable : Mapping (List Char) :=
  (Mapping.parse Data.caseOrbits).map (·.map Char.ofNat)

/-- All characters that differ from `c` at most in case, `c` included. -/
def caseOrbit (c : Char) : List Char :=
  (caseOrbitTable.get? c).getD [c]

end Licensing.Unicode
