import AccessControl.Json.Decode

/-! # Records

A record is written as an object, of which unknown members are ignored, or as an array of its
members in order. However its members are arranged, of several flaws the first in the text
counts. -/

namespace AccessControl.Json

/-- A result, or a flaw and its place: the number of members before it. -/
abbrev Placed (α : Type) := Except (Nat × Flaw) α

namespace Placed

variable {α β : Type}

def earlier (e f : Nat × Flaw) : Nat × Flaw := if f.1 < e.1 then f else e

/-- One result applied to another, or the earlier of two flaws. -/
def apply : Placed (α → β) → Placed α → Placed β
  | .ok f, .ok a => .ok (f a)
  | .error e, .ok _ => .error e
  | .ok _, .error e => .error e
  | .error e, .error f => .error (earlier e f)

def ofDecoded (place : Nat) : Decoded α → Placed α
  | .ok a => .ok a
  | .error flaw => .error (place, flaw)

def toDecoded : Placed α → Decoded α
  | .ok a => .ok a
  | .error (_, flaw) => .error flaw

end Placed

/-- What a text has for the members of a record. -/
structure Record where
  /-- With their names and their places. -/
  members : List (String × Nat × Outline)
  /-- By the order of the members, and not by their names. -/
  byPosition : Bool
  /-- The number of members in the text. -/
  size : Nat

namespace Record

def find? (r : Record) (name : String) : Option (Nat × Outline) := r.members.lookup name

/-- A member that is missing is missed at the end. -/
def missing {α : Type} (r : Record) : Placed α := .error (r.size + 1, .unfit)

def ofMembers (members : List (Option String × Outline)) : Record where
  members := members.zipIdx.filterMap fun ((name, o), place) => name.map fun s => (s, place, o)
  byPosition := false
  size := members.length

def ofItems (names : List String) (items : List Outline) : Record where
  members := names.zip (items.zipIdx.map fun (o, place) => (place, o))
  byPosition := true
  size := items.length

end Record

/-- The members of which something is made, and how. -/
structure Fields (α : Type) where
  names : List String
  read : Record → Placed α

namespace Fields

instance : Applicative Fields where
  pure a := ⟨[], fun _ => .ok a⟩
  map f a := ⟨a.names, fun r => .apply (.ok f) (a.read r)⟩
  seq f a := ⟨f.names ++ (a ()).names, fun r => .apply (f.read r) ((a ()).read r)⟩

variable {α β : Type}

def required (name : String) (decode : Decoder α) : Fields α where
  names := [name]
  read r :=
    match r.find? name with
    | none => r.missing
    | some (place, o) => .ofDecoded place (decode o)

/-- A member that may be missing, and then takes a default. -/
def withDefault (name : String) (default : α) (decode : Decoder α) : Fields α where
  names := [name]
  read r :=
    match r.find? name with
    | none => .ok default
    | some (place, o) => .ofDecoded place (decode o)

/-- A member that may be `null`, and that an object may leave out. -/
def nullable (name : String) (decode : Decoder α) : Fields (Option α) where
  names := [name]
  read r :=
    match r.find? name with
    | none => if r.byPosition then r.missing else .ok none
    | some (place, o) => .ofDecoded place (decode.nullOr o)

/-- A member that may be missing or `null`. -/
def optional (name : String) (decode : Decoder α) : Fields (Option α) :=
  withDefault name none decode.nullOr

/-- What is made of the content of a variant, which may be missing. -/
abbrev Content (α : Type) := Manner → Option Outline → Decoded α

/-- A variant without content, for which `null` can stand. -/
def Content.none (a : α) : Content α := fun _ o =>
  match o with
  | .none | some .null => .ok a
  | some o => .error o.flaw

def Content.one (decode : Manner → Decoder β) (make : β → α) : Content α := fun manner o =>
  match o with
  | .none => .error .unfit
  | some o => make <$> decode manner o

/-- A variant named by one member, with its content in another. The content is put aside where it
comes before the name. -/
def held (kind content : String) (table : List (String × Content α)) : Fields α where
  names := [kind, content]
  read r :=
    match r.find? kind with
    | none => r.missing
    | some (place, k) => do
      let decode ← .ofDecoded place (Decoder.choice table .atOnce k)
      match r.find? content with
      | none => if r.byPosition then r.missing else .ofDecoded r.size (decode .atOnce none)
      | some (own, o) =>
        if own < place then
          .ofDecoded own (do decode .afterwards (some (outline (← Decoder.value o))))
        else .ofDecoded own (decode .atOnce (some o))

/-! ## Records as a whole -/

/-- Names are texts, known names are not repeated, and the values of the others are skipped. -/
def checkMembers (names : List String) (complete : Bool) : Nat → List String →
    List (Option String × Outline) → Placed Unit
  | place, _, [] => .ofDecoded place (completed complete ())
  | place, _, (none, _) :: _ => .error (place, .malformed)
  | place, seen, (some name, o) :: rest =>
    if !names.contains name then
      if o.isWhole then checkMembers names complete (place + 1) seen rest
      else .error (place, .malformed)
    else if seen.contains name then .error (place, .unfit)
    else checkMembers names complete (place + 1) (name :: seen) rest

/-- No items follow the members. -/
def checkItems (names : List String) (complete : Bool) (items : List Outline) : Placed Unit :=
  if names.length < items.length then .error (names.length, .malformed)
  else .ofDecoded items.length (completed complete ())

/-- A record of which nothing is wrong as a whole. -/
def readChecked (fields : Fields α) (check : Placed Unit) (r : Record) : Decoded α :=
  (Placed.apply (Placed.apply (.ok fun _ a => a) check) (fields.read r)).toDecoded

end Fields

/-- A record with these members. -/
def Decoder.record {α : Type} (fields : Fields α) : Decoder α
  | .object members complete =>
    fields.readChecked (Fields.checkMembers fields.names complete 0 [] members)
      (.ofMembers members)
  | .array items complete =>
    fields.readChecked (Fields.checkItems fields.names complete items)
      (.ofItems fields.names items)
  | o => .error o.flaw

end AccessControl.Json
