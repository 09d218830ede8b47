import AccessControl.Binary64
import AccessControl.Identifier
import AccessControl.Instant.Basic
import AccessControl.Json.Basic

/-! # Audit entries, queries and summaries -/

namespace AccessControl

/-- What administration is recorded as. -/
inductive AuditAction where
  | roleCreated
  | roleDuplicated
  | roleUpdated
  | roleDeleted
  | roleAssigned
  | rolePermissionAdded
  | rolePermissionRemoved
  | delegationCreated
  | delegationRevoked
  | delegationExtended
  | overrideGranted
  | overrideRevoked
  | overrideExtended
  | entriesPurged
deriving DecidableEq, Repr

namespace AuditAction

def all : List AuditAction :=
  [roleCreated, roleDuplicated, roleUpdated, roleDeleted, roleAssigned, rolePermissionAdded,
    rolePermissionRemoved, delegationCreated, delegationRevoked, delegationExtended,
    overrideGranted, overrideRevoked, overrideExtended, entriesPurged]

/-- The name in an entry. -/
def name : AuditAction → String
  | roleCreated => "security.role.created"
  | roleDuplicated => "security.role.duplicated"
  | roleUpdated => "security.role.updated"
  | roleDeleted => "security.role.deleted"
  | roleAssigned => "security.role.assigned"
  | rolePermissionAdded => "security.role_permission.added"
  | rolePermissionRemoved => "security.role_permission.removed"
  | delegationCreated => "security.delegation.created"
  | delegationRevoked => "security.delegation.revoked"
  | delegationExtended => "security.delegation.extended"
  | overrideGranted => "security.resource_permission.granted"
  | overrideRevoked => "security.resource_permission.revoked"
  | overrideExtended => "security.resource_permission.extended"
  | entriesPurged => "security.audit.purged"

end AuditAction

/-- Something to be entered into the log. -/
structure AuditRecord where
  organization : OrganizationId
  actor : Option UserId
  action : String
  resourceType : Option String
  resourceId : Option String
  permitted : Bool
  context : List (String × Json)
  ipAddress : Option String
  userAgent : Option String

structure AuditEntry extends AuditRecord where
  id : AuditEntryId
  createdAt : Instant

/-- A span of time, open at the sides that are not given. -/
structure AuditWindow where
  start : Option Instant := none
  /-- Not in the span itself. -/
  stop : Option Instant := none
deriving DecidableEq, Repr

def AuditWindow.contains (w : AuditWindow) (t : Instant) : Bool :=
  w.start.all (· ≤ t) && w.stop.all (t < ·)

theorem AuditWindow.contains_iff {w : AuditWindow} {t : Instant} :
    w.contains t = true ↔ (∀ u, w.start = some u → u ≤ t) ∧ ∀ u, w.stop = some u → t < u := by
  simp [contains, Option.all_eq_true]

structure AuditQuery where
  organization : Option OrganizationId := none
  actor : Option UserId := none
  action : Option String := none
  resourceType : Option String := none
  permitted : Option Bool := none
  window : AuditWindow := {}
  limit : Nat
  offset : Nat := 0
deriving DecidableEq, Repr

def AuditQuery.selects (q : AuditQuery) (e : AuditEntry) : Bool :=
  q.organization.all (e.organization = ·)
    && q.actor.all (e.actor = some ·)
    && q.action.all (e.action = ·)
    && q.resourceType.all (e.resourceType = some ·)
    && q.permitted.all (e.permitted = ·)
    && q.window.contains e.createdAt

/-- Every filter that is given has to be met. -/
theorem AuditQuery.selects_iff {q : AuditQuery} {e : AuditEntry} :
    q.selects e = true ↔
      (∀ organization, q.organization = some organization → e.organization = organization) ∧
      (∀ user, q.actor = some user → e.actor = some user) ∧
      (∀ action, q.action = some action → e.action = action) ∧
      (∀ type, q.resourceType = some type → e.resourceType = some type) ∧
      (∀ permitted, q.permitted = some permitted → e.permitted = permitted) ∧
      (∀ start, q.window.start = some start → start ≤ e.createdAt) ∧
      ∀ stop, q.window.stop = some stop → e.createdAt < stop := by
  simp [selects, Option.all_eq_true, AuditWindow.contains_iff, and_assoc]

/-- How many entries there are, and of which sort. -/
structure AuditSummary where
  total : Nat
  permitted : Nat
  denied : Nat
  /-- The part of the entries that are denials, as the bits of a double. -/
  denialRate : Nat
  distinctActors : Nat
  byAction : List (String × Nat)
  byResourceType : List (String × Nat)
deriving DecidableEq, Repr

/-- Zero where there is nothing. -/
def denialRate (denied total : Nat) : Nat := if total = 0 then 0 else Binary64.div denied total

/-- Count a label once more, among labels in their order. -/
def countLabel (label : String) : List (String × Nat) → List (String × Nat)
  | [] => [(label, 1)]
  | (l, n) :: rest =>
    if label < l then (label, 1) :: (l, n) :: rest
    else if label = l then (l, n + 1) :: rest
    else (l, n) :: countLabel label rest

/-- What has been counted of the entries so far. -/
structure AuditTally where
  total : Nat := 0
  permitted : Nat := 0
  denied : Nat := 0
  /-- Each of them once. -/
  actors : List UserId := []
  byAction : List (String × Nat) := []
  byResourceType : List (String × Nat) := []

namespace AuditTally

def enter (t : AuditTally) (e : AuditEntry) : AuditTally :=
  { total := t.total + 1
    permitted := if e.permitted then t.permitted + 1 else t.permitted
    denied := if e.permitted then t.denied else t.denied + 1
    actors := match e.actor with
      | some u => t.actors.insert u
      | none => t.actors
    byAction := countLabel e.action t.byAction
    byResourceType := match e.resourceType with
      | some r => countLabel r t.byResourceType
      | none => t.byResourceType }

def summary (t : AuditTally) : AuditSummary :=
  { total := t.total
    permitted := t.permitted
    denied := t.denied
    denialRate := denialRate t.denied t.total
    distinctActors := t.actors.length
    byAction := t.byAction
    byResourceType := t.byResourceType }

end AuditTally

def AuditSummary.ofEntries (entries : List AuditEntry) : AuditSummary :=
  (entries.foldl AuditTally.enter {}).summary

end AccessControl
