import Licensing.Unicode.Table
import Licensing.Unicode.Data.Normalization

namespace Licensing.Unicode

def decompositionTable : Mapping (List Char) :=
  (Mapping.parse Data.decompositions).map (·.map Char.ofNat)

def combiningClassTable : Mapping Nat :=
  (Mapping.parse Data.combiningClasses).map (·.headD 0)

def compositionTable : Mapping (List Nat) :=
  Mapping.parse Data.compositions

def hangulParts (index : Nat) : List Char :=
  let leading := Char.ofNat (0x1100 + index / 588)
  let vowel := Char.ofNat (0x1161 + index % 588 / 28)
  if index % 28 = 0 then [leading, vowel]
  else [leading, vowel, Char.ofNat (0x11A7 + index % 28)]

def isHangulSyllable (c : Char) : Bool :=
  0xAC00 ≤ c.toNat && c.toNat ≤ 0xD7A3

def decompose (c : Char) : List Char :=
  if c.toNat < 0xA0 then [c]
  else if isHangulSyllable c then hangulParts (c.toNat - 0xAC00)
  else (decompositionTable.get? c).getD [c]

def combiningClass (c : Char) : Nat :=
  if c.toNat < 0x300 then 0 else (combiningClassTable.get? c).getD 0

/-- Puts a character behind a reversed text, in front of the marks of higher class at its end. -/
def insertMark (c : Char) : List Char → List Char
  | [] => [c]
  | d :: ds =>
    if 0 < combiningClass c ∧ combiningClass c < combiningClass d then d :: insertMark c ds
    else c :: d :: ds

/-- Orders each run of combining marks by class, marks of one class keeping their order. -/
def orderMarks (s : List Char) : List Char :=
  (s.foldl (fun done c => insertMark c done) []).reverse

/-- The image of `x` in a list of alternating arguments and images. -/
def alternatingLookup (x : Nat) : List Nat → Option Nat
  | a :: b :: rest => if a = x then some b else alternatingLookup x rest
  | _ => none

def composePair (a b : Char) : Option Char :=
  if 0x1100 ≤ a.toNat ∧ a.toNat < 0x1113 ∧ 0x1161 ≤ b.toNat ∧ b.toNat < 0x1176 then
    some (Char.ofNat (0xAC00 + ((a.toNat - 0x1100) * 21 + (b.toNat - 0x1161)) * 28))
  else if isHangulSyllable a ∧ (a.toNat - 0xAC00) % 28 = 0 ∧
      0x11A8 ≤ b.toNat ∧ b.toNat < 0x11C3 then
    some (Char.ofNat (a.toNat + (b.toNat - 0x11A7)))
  else
    ((compositionTable.get? a).bind (alternatingLookup b.toNat)).map Char.ofNat

/-- A character composes with the starter unless a mark of no lower class stands between. -/
def composeFrom (starter : Char) (marks : List Char) (last : Nat) : List Char → List Char
  | [] => starter :: marks.reverse
  | c :: cs =>
    let k := combiningClass c
    match if marks.isEmpty || last < k then composePair starter c else none with
    | some composite => composeFrom composite marks last cs
    | none =>
      if k = 0 then starter :: (marks.reverse ++ composeFrom c [] 0 cs)
      else composeFrom starter (c :: marks) k cs

def compose : List Char → List Char
  | [] => []
  | c :: cs => if combiningClass c = 0 then composeFrom c [] 0 cs else c :: compose cs

/-- The compatibility form of a text, composed. -/
def compatibilityForm (s : List Char) : List Char :=
  compose (orderMarks (s.flatMap decompose))

end Licensing.Unicode
