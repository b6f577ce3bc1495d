namespace Licensing.Text

/-- A character that has been started, and the bounds of its next byte. -/
structure PendingChar where
  left : Nat
  low : Nat
  high : Nat
  value : Nat

/-- What a byte means that does not continue a character. -/
inductive FirstByte where
  | char (c : Char)
  | start (p : PendingChar)
  | malformed

/-- No character has two encodings, and none is a surrogate or too large. -/
def firstByte (b : Nat) : FirstByte :=
  if b < 0x80 then .char (Char.ofNat b)
  else if b < 0xC2 then .malformed
  else if b < 0xE0 then .start ⟨1, 0x80, 0xBF, b - 0xC0⟩
  else if b < 0xF0 then
    .start ⟨2, if b = 0xE0 then 0xA0 else 0x80, if b = 0xED then 0x9F else 0xBF, b - 0xE0⟩
  else if b < 0xF5 then
    .start ⟨3, if b = 0xF0 then 0x90 else 0x80, if b = 0xF4 then 0x8F else 0xBF, b - 0xF0⟩
  else .malformed

/-- The parts behind a character which may have been started. A malformation is `none`. -/
def decodeFrom (pending : Option PendingChar) : List UInt8 → List (Option Char)
  | [] => if pending.isSome then [none] else []
  | b :: bs =>
    let fresh := match firstByte b.toNat with
      | .char c => some c :: decodeFrom none bs
      | .start p => decodeFrom (some p) bs
      | .malformed => none :: decodeFrom none bs
    match pending with
    | none => fresh
    | some p =>
      if p.low ≤ b.toNat ∧ b.toNat ≤ p.high then
        let value := 64 * p.value + (b.toNat - 0x80)
        if p.left = 1 then some (Char.ofNat value) :: decodeFrom none bs
        else decodeFrom (some ⟨p.left - 1, 0x80, 0xBF, value⟩) bs
      else none :: fresh

/-- The characters of a byte sequence, with `none` for each malformation. -/
def decode (bytes : List UInt8) : List (Option Char) :=
  decodeFrom none bytes

def decodeLossy (bytes : List UInt8) : List Char :=
  (decode bytes).map (·.getD '\uFFFD')

def decodeStrict? (bytes : List UInt8) : Option (List Char) :=
  (decode bytes).mapM id

end Licensing.Text
