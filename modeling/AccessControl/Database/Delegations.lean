import AccessControl.Database.Session
import AccessControl.Wire.Record

/-! # Delegations in the database -/

namespace AccessControl.Database.Delegations

def columns : List String :=
  ["id", "organization_id", "delegator_id", "delegatee_id", "role_id", "permissions", "starts_at",
    "ends_at", "active", "revoked_at", "reason", "created_at"]

def toRow (d : Delegation) : Row := ⟨[
  ("id", .ofId d.id),
  ("organization_id", .ofId d.organization),
  ("delegator_id", .ofId d.delegator),
  ("delegatee_id", .ofId d.delegatee),
  ("role_id", .ofOption .ofId d.role),
  ("permissions", .jsonb (.ofList StoredPermission.toJson d.permissions)),
  ("starts_at", .ofInstant d.startsAt),
  ("ends_at", .ofInstant d.endsAt),
  ("active", .boolean d.active),
  ("revoked_at", .ofOption .ofInstant d.revokedAt),
  ("reason", .ofOption .text d.reason),
  ("created_at", .ofInstant d.createdAt)]⟩

def ofRow? (r : Row) : Option Delegation := do
  return {
    id := ← r.read? "id" Value.id?
    organization := ← r.read? "organization_id" Value.id?
    delegator := ← r.read? "delegator_id" Value.id?
    delegatee := ← r.read? "delegatee_id" Value.id?
    role := ← r.read? "role_id" (Value.nullable Value.id?)
    permissions := ← r.read? "permissions" (Value.json? (.list StoredPermission.decode))
    startsAt := ← r.read? "starts_at" Value.instant?
    endsAt := ← r.read? "ends_at" Value.instant?
    active := ← r.read? "active" Value.boolean?
    revokedAt := ← r.read? "revoked_at" (Value.nullable Value.instant?)
    reason := ← r.read? "reason" (Value.nullable Value.text?)
    createdAt := ← r.read? "created_at" Value.instant? }

/-- What the life of a delegation changes. -/
def changes (d : Delegation) : Row := ⟨[
  ("ends_at", .ofInstant d.endsAt),
  ("active", .boolean d.active),
  ("revoked_at", .ofOption .ofInstant d.revokedAt),
  ("reason", .ofOption .text d.reason)]⟩

def isDelegation (organization : OrganizationId) (id : DelegationId) : List Condition :=
  [.equals "organization_id" (.ofId organization), .equals "id" (.ofId id)]

def insert (d : Delegation) : Statement := .insert "permission_delegations" (toRow d)

def update (d : Delegation) : Statement :=
  .update "permission_delegations" (isDelegation d.organization d.id) (changes d) [] []

def select (conditions : List Condition) (order : List String) : Selection where
  columns
  table := "permission_delegations"
  conditions
  order

def create (d : Delegation) : Session Unit :=
  Session.write (faultOn uniqueViolation (.delegationExists d.id) "create delegation") (insert d)

def find (organization : OrganizationId) (id : DelegationId) : Session (Option Delegation) :=
  Session.first "find delegation" ofRow? (select (isDelegation organization id) [])

def save (d : Delegation) : Session Unit :=
  Session.change (.database "save delegation") (.delegationNotFound d.id) (update d)

/-- The delegations of an organization, or those that a user takes part in. -/
def list (organization : OrganizationId) (user : Option UserId) : Session (List Delegation) :=
  Session.all "list delegations" ofRow?
    (select [
      .equals "organization_id" (.ofId organization),
      .whenGiven .uuid [("delegator_id", .equal), ("delegatee_id", .equal)]
        (.ofOption .ofId user)]
      ["created_at", "id"])

/-- The delegations to a user that are not revoked. -/
def received (organization : OrganizationId) (user : UserId) : Session (List Delegation) :=
  Session.all "load delegations" ofRow?
    (select [
      .equals "organization_id" (.ofId organization),
      .equals "delegatee_id" (.ofId user),
      .isTrue "active"]
      ["created_at", "id"])

end AccessControl.Database.Delegations
