import AccessControl.Wire.Record

/-! # What responses show -/

namespace AccessControl.Http.View

def grant (g : RoleGrant) : Json :=
  .object [
    ("permission", .string g.permission.key),
    ("conditions", g.conditions.toJson),
    ("scope", g.scope.toJson)]

def role (r : Role) : Json :=
  .object [
    ("id", r.id.toJson),
    ("key", r.key.toJson),
    ("name", .string r.name),
    ("priority", r.priority.toJson),
    ("is_system", .bool r.isSystem),
    ("is_editable", .bool r.isEditable),
    ("grants", .ofList grant r.grants)]

def legacyRole? : MemberRole → Option LegacyRole
  | .legacy r => some r
  | .dynamic _ => none

def member (m : Member) : Json :=
  .object [
    ("user_id", m.user.toJson),
    ("organization_id", m.organization.toJson),
    ("active", .bool m.active),
    ("legacy_role", .ofOption LegacyRole.toJson (legacyRole? m.role)),
    ("role_id", .ofOption Id.toJson m.role.roleId?)]

/-- A delegation and what has become of it. -/
def delegation (now : Instant) (d : Delegation) : Json :=
  .object [
    ("id", d.id.toJson),
    ("delegator_id", d.delegator.toJson),
    ("delegatee_id", d.delegatee.toJson),
    ("role_id", .ofOption Id.toJson d.role),
    ("permissions", .ofTexts (d.permissions.map (·.key))),
    ("starts_at", d.startsAt.toJson),
    ("ends_at", d.endsAt.toJson),
    ("status", (d.status now).toJson),
    ("reason", .ofOption .string d.reason),
    ("revoked_at", .ofOption Instant.toJson d.revokedAt),
    ("created_at", d.createdAt.toJson)]

/-- An override and what has become of it. -/
def override (now : Instant) (o : Override) : Json :=
  .object [
    ("id", o.id.toJson),
    ("user_id", o.user.toJson),
    ("permission", .string o.permission.key),
    ("resource_type", .string o.resourceType),
    ("resource_id", .string o.resourceId),
    ("granted", .bool o.granted),
    ("status", (o.status now).toJson),
    ("expires_at", .ofOption Instant.toJson o.expiresAt),
    ("revoked_at", .ofOption Instant.toJson o.revokedAt),
    ("granted_by", .ofOption Id.toJson o.grantedBy),
    ("created_at", o.createdAt.toJson)]

def capabilities (ps : List Permission) : Json :=
  .object [("permissions", .ofTexts (ps.map (·.key)))]

def purged (n : Nat) : Json := .object [("purged", .ofNat n)]

def health : Json := .object [("status", .string "ok")]

end AccessControl.Http.View
