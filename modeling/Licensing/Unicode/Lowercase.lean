import Licensing.Unicode.Table
import Licensing.Unicode.Data.Lowercase

namespace Licensing.Unicode

def lowercaseTable : Mapping (List Char) :=
  (Mapping.parse Data.lowercase).map (·.map Char.ofNat)

def lowercaseAscii (c : Char) : Char :=
  if 'A' ≤ c ∧ c ≤ 'Z' then Char.ofNat (c.toNat + 32) else c

/-- The lower-case form of a character; one character has a form of two. -/
def lowercase (c : Char) : List Char :=
  if c.toNat < 128 then [lowercaseAscii c] else (lowercaseTable.get? c).getD [c]

def eqIgnoringAsciiCase (s t : List Char) : Bool :=
  s.map lowercaseAscii == t.map lowercaseAscii

end Licensing.Unicode
