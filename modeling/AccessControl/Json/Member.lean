import AccessControl.Json.Decode

/-! # Members of messages

A message is an object of which members are read one by one, and others are ignored. -/

namespace AccessControl.Json

variable {α : Type}

/-- What a value is decoded to. -/
def Decoder.ofJson? (decode : Decoder α) (j : Json) : Option α := (decode j.outline).toOption

def text? : Json → Option String := Decoder.text.ofJson?

def bool? : Json → Option Bool := Decoder.boolean.ofJson?

def int64? : Json → Option Int := Decoder.int64.ofJson?

/-- A number of things. -/
def count? : Json → Option Nat := Decoder.count.ofJson?

/-- A number of days. -/
def days? : Json → Option Nat := Decoder.days.ofJson?

/-- A number of seconds. -/
def seconds? : Json → Option Nat := Decoder.seconds.ofJson?

def list? (read : Json → Option α) : Json → Option (List α)
  | .array items => items.mapM read
  | _ => none

def members? : Json → Option (List (String × Json))
  | .object members => some members
  | _ => none

variable (j : Json) (name : String)

/-- A member that has to be there. -/
def need (read : Json → Option α) : Option α := j.get? name >>= read

/-- A member that may be missing or `null`. -/
def may (read : Json → Option α) : Option (Option α) :=
  match j.get? name with
  | none => some none
  | some .null => some none
  | some v => (read v).map some

/-- A member with a default for a missing one. -/
def orElse (default : α) (read : Json → Option α) : Option α :=
  match j.get? name with
  | none => some default
  | some v => read v

/-- A member with a default for one that is missing or `null`. -/
def orNull (default : α) (read : Json → Option α) : Option α := do
  return (← j.may name read).getD default

end AccessControl.Json
