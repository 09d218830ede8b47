import AccessControl.Administration.AuditLog
import AccessControl.Administration.Delegations
import AccessControl.Text.Percent
import AccessControl.Wire.Record

/-! # What queries ask for -/

namespace AccessControl.Http

/-- The fields of a query that are known, none of them repeated. -/
structure Query where
  fields : List (String × String)
deriving DecidableEq, Repr

namespace Query

def read? (names : List String) (query : List Char) : Option Query :=
  let known := (Text.formFields query).filter fun f => names.contains f.1
  if (known.map (·.1)).Nodup then some ⟨known⟩ else none

/-- A field that may be missing. -/
def field {α : Type} (q : Query) (name : String) (read : String → Option α) : Option (Option α) :=
  match q.fields.lookup name with
  | none => some none
  | some v => (read v).map some

def bool? : String → Option Bool
  | "true" => some true
  | "false" => some false
  | _ => none

def count? (s : String) : Option Nat := (Text.natUpTo (UInt64.size - 1) s).toOption

end Query

/-- What is asked of the audit log. -/
structure AuditParams where
  actor : Option UserId := none
  action : Option String := none
  resourceType : Option String := none
  permitted : Option Bool := none
  window : AuditWindow := {}
  limit : Option Nat := none
  offset : Option Nat := none
deriving DecidableEq, Repr

namespace AuditParams

open AccessControl.Json.Fields

def names : List String :=
  ["actor", "action", "resource_type", "permitted", "from", "to", "limit", "offset"]

def ofQuery? (query : List Char) : Option AuditParams := do
  let q ← Query.read? names query
  return {
    actor := ← q.field "actor" Id.ofText?
    action := ← q.field "action" some
    resourceType := ← q.field "resource_type" some
    permitted := ← q.field "permitted" Query.bool?
    window := {
      start := ← q.field "from" Instant.parse?
      stop := ← q.field "to" Instant.parse? }
    limit := ← q.field "limit" Query.count?
    offset := ← q.field "offset" Query.count? }

def decode : Json.Decoder AuditParams :=
  .record (AuditParams.mk
    <$> optional "actor" Id.decode
    <*> optional "action" .text
    <*> optional "resource_type" .text
    <*> optional "permitted" .boolean
    <*> (AuditWindow.mk <$> optional "from" Instant.decode <*> optional "to" Instant.decode)
    <*> optional "limit" .count
    <*> optional "offset" .count)

def defaultPageSize : Nat := 50

/-- The organization is left open, and blank texts ask for nothing. -/
def toQuery (p : AuditParams) : AuditQuery where
  actor := p.actor
  action := Text.shown? p.action
  resourceType := Text.shown? p.resourceType
  permitted := p.permitted
  window := p.window
  limit := min (p.limit.getD defaultPageSize) Administration.maxPageSize
  offset := p.offset.getD 0

end AuditParams

def windowOfQuery? (query : List Char) : Option AuditWindow := do
  let q ← Query.read? ["from", "to"] query
  return {
    start := ← q.field "from" Instant.parse?
    stop := ← q.field "to" Instant.parse? }

def filterOfQuery? (query : List Char) : Option ListFilter := do
  let q ← Query.read? ["user_id", "active_only"] query
  return {
    user := ← q.field "user_id" Id.ofText?
    activeOnly := (← q.field "active_only" Query.bool?).getD false }

end AccessControl.Http
