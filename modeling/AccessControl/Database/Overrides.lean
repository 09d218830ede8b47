import AccessControl.Database.Session
import AccessControl.Override

/-! # Overrides in the database -/

namespace AccessControl.Database.Overrides

def columns : List String :=
  ["id", "organization_id", "user_id", "resource_type", "permission_resource_type",
    "permission_action", "resource_id", "granted", "expires_at", "revoked_at", "granted_by",
    "created_at"]

def toRow (o : Override) : Row := ⟨[
  ("id", .ofId o.id),
  ("organization_id", .ofId o.organization),
  ("user_id", .ofId o.user),
  ("resource_type", .text o.resourceType),
  ("permission_resource_type", .text o.permission.resourceType),
  ("permission_action", .text o.permission.action),
  ("resource_id", .text o.resourceId),
  ("granted", .boolean o.granted),
  ("expires_at", .ofOption .ofInstant o.expiresAt),
  ("revoked_at", .ofOption .ofInstant o.revokedAt),
  ("granted_by", .ofOption .ofId o.grantedBy),
  ("created_at", .ofInstant o.createdAt)]⟩

def ofRow? (r : Row) : Option Override := do
  return {
    id := ← r.read? "id" Value.id?
    organization := ← r.read? "organization_id" Value.id?
    user := ← r.read? "user_id" Value.id?
    resourceType := ← r.read? "resource_type" Value.text?
    permission := {
      resourceType := ← r.read? "permission_resource_type" Value.text?
      action := ← r.read? "permission_action" Value.text? }
    resourceId := ← r.read? "resource_id" Value.text?
    granted := ← r.read? "granted" Value.boolean?
    expiresAt := ← r.read? "expires_at" (Value.nullable Value.instant?)
    revokedAt := ← r.read? "revoked_at" (Value.nullable Value.instant?)
    grantedBy := ← r.read? "granted_by" (Value.nullable Value.id?)
    createdAt := ← r.read? "created_at" Value.instant? }

/-- The times in the life of an override. -/
def changes (o : Override) : Row := ⟨[
  ("expires_at", .ofOption .ofInstant o.expiresAt),
  ("revoked_at", .ofOption .ofInstant o.revokedAt)]⟩

def isOverride (organization : OrganizationId) (id : OverrideId) : List Condition :=
  [.equals "organization_id" (.ofId organization), .equals "id" (.ofId id)]

def insert (o : Override) : Statement := .insert "resource_permissions" (toRow o)

def update (o : Override) : Statement :=
  .update "resource_permissions" (isOverride o.organization o.id) (changes o) [] []

def select (conditions : List Condition) (order : List String) : Selection where
  columns
  table := "resource_permissions"
  conditions
  order

def create (o : Override) : Session Unit :=
  Session.write (faultOn uniqueViolation (.overrideExists o.id) "create resource permission")
    (insert o)

def find (organization : OrganizationId) (id : OverrideId) : Session (Option Override) :=
  Session.first "find resource permission" ofRow? (select (isOverride organization id) [])

def save (o : Override) : Session Unit :=
  Session.change (.database "save resource permission") (.overrideNotFound o.id) (update o)

/-- The overrides of an organization, or those of a user. -/
def list (organization : OrganizationId) (user : Option UserId) : Session (List Override) :=
  Session.all "list resource permissions" ofRow?
    (select [
      .equals "organization_id" (.ofId organization),
      .whenGiven .uuid [("user_id", .equal)] (.ofOption .ofId user)]
      ["created_at", "id"])

/-- The overrides of a user that are not revoked. -/
def received (organization : OrganizationId) (user : UserId) : Session (List Override) :=
  Session.all "load resource permissions" ofRow?
    (select [
      .equals "organization_id" (.ofId organization),
      .equals "user_id" (.ofId user),
      .isNull "revoked_at"]
      ["created_at", "id"])

end AccessControl.Database.Overrides
