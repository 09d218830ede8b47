import AccessControl.Json.Read

/-! # Decoding

A decoder makes something of the outline of a value. It goes through the text in order and stops
at the first flaw: where the text is no JSON, or where it is JSON of another kind than expected. -/

namespace AccessControl.Json

inductive Flaw where
  | malformed
  | unfit
deriving DecidableEq, Repr

abbrev Decoded (α : Type) := Except Flaw α

abbrev Decoder (α : Type) := Outline → Decoded α

/-- What is wrong with something in the place of something else. Containers are not looked into. -/
def Outline.flaw : Outline → Flaw
  | .beyond | .broken => .malformed
  | _ => .unfit

/-- A container that has to end. -/
def completed {α : Type} (complete : Bool) (a : α) : Decoded α :=
  if complete then .ok a else .error .malformed

/-- When a value is decoded: as soon as it is reached, or after it was put aside because it was not
known yet what it has to be. -/
inductive Manner where
  | atOnce
  | afterwards
deriving DecidableEq, Repr

namespace Decoder

variable {α : Type}

/-- A value of one kind. -/
def expecting (read : Outline → Option α) : Decoder α := fun o =>
  match read o with
  | some a => .ok a
  | none => .error o.flaw

def text : Decoder String := expecting fun o =>
  match o with
  | .string s => some s
  | _ => none

/-- A text of some form. -/
def textOf (read : String → Option α) : Decoder α := fun o => do
  match read (← text o) with
  | some a => .ok a
  | none => .error .unfit

def boolean : Decoder Bool := expecting fun o =>
  match o with
  | .bool b => some b
  | _ => none

/-- An integer between two bounds. -/
def integerWithin (least most : Int) : Decoder Int := expecting fun o =>
  match o with
  | .number (.integer n) => if least ≤ n ∧ n ≤ most then some n else none
  | _ => none

/-- An integer from zero up to `most`. -/
def natural (most : Nat) : Decoder Nat := fun o => (integerWithin 0 most o).map Int.toNat

/-- An integer of 32 bits with a sign. -/
def int32 : Decoder Int := integerWithin (-(UInt32.size / 2 : Nat)) ((UInt32.size / 2 : Nat) - 1)

/-- An integer of 64 bits with a sign. -/
def int64 : Decoder Int := integerWithin (-(UInt64.size / 2 : Nat)) ((UInt64.size / 2 : Nat) - 1)

def count : Decoder Nat := natural (UInt64.size - 1)

/-- A number of days. -/
def days : Decoder Nat := natural (UInt16.size - 1)

/-- A number of seconds. -/
def seconds : Decoder Nat := natural (UInt32.size - 1)

def byte : Decoder UInt8 := fun o => (natural (UInt8.size - 1) o).map UInt8.ofNat

def nullOr (read : Decoder α) : Decoder (Option α)
  | .null => .ok none
  | o => (read o).map some

def list (read : Decoder α) : Decoder (List α)
  | .array items complete => do completed complete (← items.mapM read)
  | o => .error o.flaw

/-- Anything that is a value. -/
def value : Decoder Json := fun o =>
  match o.toJson? with
  | some j => .ok j
  | none => .error .malformed

/-- The members of an object, whatever they are. -/
def members : Decoder (List (String × Json)) := fun o => do
  match ← value o with
  | .object members => .ok members
  | _ => .error .unfit

/-- What a text is decoded to, with nothing but blanks around the value. What follows the value is
looked at last. -/
def readText (decode : Decoder α) (s : String) : Decoded α := do
  let (o, isAll) := read s
  completed isAll (← decode o)

/-! ## Variants -/

/-- What a variant holds that holds nothing. -/
def nothing : Manner → Decoder Unit
  | .atOnce, .null | .afterwards, .null | .afterwards, .object [] true => .ok ()
  | _, o => .error o.flaw

def named (table : List (String × α)) (name : String) : Decoded α :=
  match table.lookup name with
  | some a => .ok a
  | none => .error .unfit

/-- One of several names, alone or as the only member of an object. -/
def choice (table : List (String × α)) (manner : Manner) : Decoder α
  | .string s => named table s
  | .object ((some s, o) :: rest) complete => do
    let a ← named table s
    nothing manner o
    completed (rest.isEmpty && complete) a
  | _ => .error .malformed

/-- The member in which a value names its variant. -/
def kindName : String := "kind"

/-- A value whose variant is named among the members of the variant, or before its items. It is read
as a whole before its variant is known. -/
def variant (table : List (String × Decoder α)) : Decoder α := fun o => do
  match ← value o with
  | .object members =>
    match members.filter fun m => m.1 = kindName with
    | [(_, .string kind)] =>
      (← named table kind) (outline (.object (members.filter fun m => m.1 ≠ kindName)))
    | _ => .error .unfit
  | .array (.string kind :: items) => do (← named table kind) (outline (.array items))
  | _ => .error .unfit

end Decoder

end AccessControl.Json
