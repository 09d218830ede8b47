/-! # Texts as bytes

Bytes are natural numbers. A sequence of bytes is read character by character, and what is no
part of a character is found as long as it could still have become one. -/

namespace AccessControl.Text

def bytesOf (c : Char) : List Nat := (String.utf8EncodeChar c).map UInt8.toNat

/-- A character of which only the first bytes are read. -/
structure PartialChar where
  /-- How many bytes are missing. -/
  missing : Nat
  /-- Between which bounds the next byte has to be. -/
  low : Nat
  high : Nat
  /-- The bits that are read. -/
  bits : Nat

/-- What the first byte of a character says. -/
inductive FirstByte where
  | whole (c : Char)
  | start (p : PartialChar)
  | invalid

def FirstByte.of (b : Nat) : FirstByte :=
  if b < 0x80 then .whole (Char.ofNat b)
  else if 0xC2 ≤ b ∧ b ≤ 0xDF then .start ⟨1, 0x80, 0xBF, b - 0xC0⟩
  else if b = 0xE0 then .start ⟨2, 0xA0, 0xBF, 0⟩
  else if b = 0xED then .start ⟨2, 0x80, 0x9F, b - 0xE0⟩
  else if 0xE1 ≤ b ∧ b ≤ 0xEF then .start ⟨2, 0x80, 0xBF, b - 0xE0⟩
  else if b = 0xF0 then .start ⟨3, 0x90, 0xBF, 0⟩
  else if 0xF1 ≤ b ∧ b ≤ 0xF3 then .start ⟨3, 0x80, 0xBF, b - 0xF0⟩
  else if b = 0xF4 then .start ⟨3, 0x80, 0x8F, b - 0xF0⟩
  else .invalid

/-- The characters of a sequence of bytes, with `none` in the place of what is no character. -/
def decodeFrom : Option PartialChar → List Nat → List (Option Char)
  | none, [] => []
  | some _, [] => [none]
  | none, b :: bs =>
    match FirstByte.of b with
    | .whole c => some c :: decodeFrom none bs
    | .start p => decodeFrom (some p) bs
    | .invalid => none :: decodeFrom none bs
  | some p, b :: bs =>
    if p.low ≤ b ∧ b ≤ p.high then
      let bits := p.bits * 64 + (b - 0x80)
      if p.missing ≤ 1 then some (Char.ofNat bits) :: decodeFrom none bs
      else decodeFrom (some ⟨p.missing - 1, 0x80, 0xBF, bits⟩) bs
    else none :: decodeFrom none (b :: bs)
termination_by p bs => 2 * bs.length + if p.isSome then 1 else 0

/-- The text of a sequence of bytes that is one. -/
def ofBytes? (bs : List Nat) : Option String := ((decodeFrom none bs).mapM id).map String.ofList

/-- The text of a sequence of bytes, with a replacement character where it is none. -/
def ofBytesLossy (bs : List Nat) : String :=
  String.ofList ((decodeFrom none bs).map fun c => c.getD '\ufffd')

end AccessControl.Text
