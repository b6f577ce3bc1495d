import Licensing.Unicode.Table
import Licensing.Unicode.Data.Category
import Licensing.Unicode.Data.Script
import Licensing.Unicode.Data.ScriptExtensions
import Licensing.Unicode.Data.Property
import Licensing.Unicode.Data.Age
import Licensing.Unicode.Data.Break

namespace Licensing.Unicode

/-- A property value: its loose names and the characters that have it. -/
structure NamedSet where
  names : List String
  members : Ranges

namespace NamedSet

def ofTable (rows : List (String × String)) : List NamedSet :=
  rows.map fun (names, members) => ⟨names.splitOn " ", Ranges.parse members⟩

def find? (sets : List NamedSet) (name : String) : Option Ranges :=
  (sets.find? (·.names.contains name)).map (·.members)

end NamedSet

namespace PropertyTables

def categories : List NamedSet := NamedSet.ofTable Data.categories
def scripts : List NamedSet := NamedSet.ofTable Data.scripts
def scriptExtensions : List NamedSet := NamedSet.ofTable Data.scriptExtensions
def properties : List NamedSet := NamedSet.ofTable Data.properties
def ages : List NamedSet := NamedSet.ofTable Data.ages
def graphemeBreaks : List NamedSet := NamedSet.ofTable Data.graphemeBreaks
def wordBreaks : List NamedSet := NamedSet.ofTable Data.wordBreaks
def sentenceBreaks : List NamedSet := NamedSet.ofTable Data.sentenceBreaks

end PropertyTables

open PropertyTables

/-- A lone `c` behind `is` is the short name of a comment property and not of a category. -/
def looseName (name : List Char) : String :=
  let lower := name.map fun c => if 'A' ≤ c ∧ c ≤ 'Z' then Char.ofNat (c.toNat + 32) else c
  let hasIs := lower.take 2 == ['i', 's']
  let kept := (if hasIs then lower.drop 2 else lower).filter fun c =>
    c.toNat < 128 && c ≠ ' ' && c ≠ '_' && c ≠ '-'
  String.ofList (if hasIs && kept == ['c'] then ['i', 's', 'c'] else kept)

def categoryGroups : List (List String × List String) := [
  (["c", "other"], ["cc", "cf", "cn", "co"]),
  (["l", "letter"], ["ll", "lm", "lo", "lt", "lu"]),
  (["lc", "casedletter"], ["ll", "lt", "lu"]),
  (["m", "mark", "combiningmark"], ["mc", "me", "mn"]),
  (["n", "number"], ["nd", "nl", "no"]),
  (["p", "punctuation", "punct"], ["pc", "pd", "pe", "pf", "pi", "po", "ps"]),
  (["s", "symbol"], ["sc", "sk", "sm", "so"]),
  (["z", "separator"], ["zl", "zp", "zs"])]

/-- A set of characters given as a union of ranges, or as the complement of one. -/
structure PropertySet where
  parts : List Ranges
  complemented : Bool := false

def PropertySet.contains (s : PropertySet) (c : Char) : Bool :=
  s.parts.any (·.contains c) != s.complemented

def category? (name : String) : Option PropertySet :=
  if name = "any" then some ⟨[], true⟩
  else if name = "ascii" then some ⟨[⟨#[(0, 127)]⟩], false⟩
  else if name = "assigned" then some ⟨(NamedSet.find? categories "cn").toList, true⟩
  else match categoryGroups.find? (·.1.contains name) with
    | some (_, members) => some ⟨members.filterMap (NamedSet.find? categories), false⟩
    | none => (NamedSet.find? categories name).map (⟨[·], false⟩)

def script? (name : String) : Option PropertySet :=
  (NamedSet.find? scripts name).map (⟨[·], false⟩)

def scriptExtension? (name : String) : Option PropertySet :=
  (NamedSet.find? scriptExtensions name <|> NamedSet.find? scripts name).map (⟨[·], false⟩)

def age? (name : String) : Option PropertySet :=
  if ages.any (·.names.contains name) then
    let older := ages.takeWhile (!·.names.contains name)
    some ⟨older.map (·.members) ++ (NamedSet.find? ages name).toList, false⟩
  else none

/-- A two-valued property, a category or a script. -/
def property? (name : List Char) : Option PropertySet :=
  let loose := looseName name
  let plain :=
    if loose = "cf" ∨ loose = "sc" ∨ loose = "lc" then none
    else (NamedSet.find? properties loose).map fun set => (⟨[set], false⟩ : PropertySet)
  plain <|> category? loose <|> script? loose

def propertyValue? (name value : List Char) : Option PropertySet :=
  let loose := looseName value
  let single (sets : List NamedSet) : Option PropertySet :=
    (NamedSet.find? sets loose).map (⟨[·], false⟩)
  match looseName name with
  | "gc" | "generalcategory" => category? loose
  | "sc" | "script" => script? loose
  | "scx" | "scriptextensions" => scriptExtension? loose
  | "age" => age? loose
  | "gcb" | "graphemeclusterbreak" => single graphemeBreaks
  | "wb" | "wordbreak" => single wordBreaks
  | "sb" | "sentencebreak" => single sentenceBreaks
  | _ => none

def alphabetic : Ranges := (NamedSet.find? properties "alphabetic").getD ⟨#[]⟩

def decimalDigits : Ranges := (NamedSet.find? categories "nd").getD ⟨#[]⟩

def numeric : List Ranges := ["nd", "nl", "no"].filterMap (NamedSet.find? categories)

def wordMarks : List Ranges :=
  ["mc", "me", "mn", "pc"].filterMap (NamedSet.find? categories) ++
    (NamedSet.find? properties "joincontrol").toList

def isAsciiLetter (c : Char) : Bool :=
  'a' ≤ c && c ≤ 'z' || 'A' ≤ c && c ≤ 'Z'

def isAsciiDigit (c : Char) : Bool :=
  '0' ≤ c && c ≤ '9'

def isAsciiWord (c : Char) : Bool :=
  isAsciiLetter c || isAsciiDigit c || c = '_'

def isAlphabetic (c : Char) : Bool :=
  if c.toNat < 128 then isAsciiLetter c else alphabetic.contains c

def isDigit (c : Char) : Bool :=
  if c.toNat < 128 then isAsciiDigit c else decimalDigits.contains c

def isAlphanumeric (c : Char) : Bool :=
  if c.toNat < 128 then isAsciiLetter c || isAsciiDigit c
  else alphabetic.contains c || numeric.any (·.contains c)

def isWord (c : Char) : Bool :=
  if c.toNat < 128 then isAsciiWord c
  else alphabetic.contains c || decimalDigits.contains c || wordMarks.any (·.contains c)

end Licensing.Unicode
