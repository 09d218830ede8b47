import AccessControl.Audit.Entry
import AccessControl.Resolution
import AccessControl.Wire.Rule

/-! # Delegations, overrides, sources and audit entries in JSON -/

namespace AccessControl

open AccessControl.Json.Fields

def Delegation.Status.toJson (s : Delegation.Status) : Json := .string s.name

namespace Delegation

def toJson (d : Delegation) : Json :=
  .object [
    ("id", d.id.toJson),
    ("organization_id", d.organization.toJson),
    ("delegator_id", d.delegator.toJson),
    ("delegatee_id", d.delegatee.toJson),
    ("role_id", .ofOption Id.toJson d.role),
    ("permissions", .ofList StoredPermission.toJson d.permissions),
    ("starts_at", d.startsAt.toJson),
    ("ends_at", d.endsAt.toJson),
    ("active", .bool d.active),
    ("revoked_at", .ofOption Instant.toJson d.revokedAt),
    ("reason", .ofOption .string d.reason),
    ("created_at", d.createdAt.toJson)]

def decode : Json.Decoder Delegation :=
  .record (Delegation.mk
    <$> required "id" Id.decode
    <*> required "organization_id" Id.decode
    <*> required "delegator_id" Id.decode
    <*> required "delegatee_id" Id.decode
    <*> nullable "role_id" Id.decode
    <*> required "permissions" (.list StoredPermission.decode)
    <*> required "starts_at" Instant.decode
    <*> required "ends_at" Instant.decode
    <*> required "active" .boolean
    <*> nullable "revoked_at" Instant.decode
    <*> nullable "reason" .text
    <*> required "created_at" Instant.decode)

end Delegation

def Override.Status.toJson (s : Override.Status) : Json := .string s.name

namespace Override

def toJson (o : Override) : Json :=
  .object [
    ("id", o.id.toJson),
    ("organization_id", o.organization.toJson),
    ("user_id", o.user.toJson),
    ("permission", o.permission.toJson),
    ("resource_type", .string o.resourceType),
    ("resource_id", .string o.resourceId),
    ("granted", .bool o.granted),
    ("expires_at", .ofOption Instant.toJson o.expiresAt),
    ("revoked_at", .ofOption Instant.toJson o.revokedAt),
    ("granted_by", .ofOption Id.toJson o.grantedBy),
    ("created_at", o.createdAt.toJson)]

def decode : Json.Decoder Override :=
  .record (Override.mk
    <$> required "id" Id.decode
    <*> required "organization_id" Id.decode
    <*> required "user_id" Id.decode
    <*> required "permission" StoredPermission.decode
    <*> required "resource_type" .text
    <*> required "resource_id" .text
    <*> required "granted" .boolean
    <*> nullable "expires_at" Instant.decode
    <*> nullable "revoked_at" Instant.decode
    <*> nullable "granted_by" Id.decode
    <*> required "created_at" Instant.decode)

end Override

namespace DelegatedAccess

def toJson (a : DelegatedAccess) : Json :=
  .object [
    ("delegation", a.delegation.toJson),
    ("role", .ofOption Role.toJson a.role)]

def decode : Json.Decoder DelegatedAccess :=
  .record (DelegatedAccess.mk
    <$> required "delegation" Delegation.decode
    <*> nullable "role" Role.decode)

end DelegatedAccess

namespace GrantSources

def toJson (s : GrantSources) : Json :=
  .object [
    ("membership", .ofOption Member.toJson s.membership),
    ("role", .ofOption Role.toJson s.role),
    ("team_ids", s.teams.toJson),
    ("delegations", .ofList DelegatedAccess.toJson s.delegations),
    ("resource_permissions", .ofList Override.toJson s.overrides)]

def decode : Json.Decoder GrantSources :=
  .record (GrantSources.mk
    <$> nullable "membership" Member.decode
    <*> nullable "role" Role.decode
    <*> required "team_ids" TextSet.decode
    <*> required "delegations" (.list DelegatedAccess.decode)
    <*> required "resource_permissions" (.list Override.decode))

end GrantSources

namespace AuditAction

/-- The name under which an action is chosen. -/
def tag : AuditAction → String
  | roleCreated => "role_created"
  | roleDuplicated => "role_duplicated"
  | roleUpdated => "role_updated"
  | roleDeleted => "role_deleted"
  | roleAssigned => "role_assigned"
  | rolePermissionAdded => "role_permission_added"
  | rolePermissionRemoved => "role_permission_removed"
  | delegationCreated => "delegation_created"
  | delegationRevoked => "delegation_revoked"
  | delegationExtended => "delegation_extended"
  | overrideGranted => "resource_permission_granted"
  | overrideRevoked => "resource_permission_revoked"
  | overrideExtended => "resource_permission_extended"
  | entriesPurged => "audit_entries_purged"

def decode : Json.Decoder AuditAction := .choice (all.map fun a => (a.tag, a)) .atOnce

end AuditAction

namespace AuditEntry

def toJson (e : AuditEntry) : Json :=
  .object [
    ("id", e.id.toJson),
    ("organization_id", e.organization.toJson),
    ("actor", .ofOption Id.toJson e.actor),
    ("action", .string e.action),
    ("resource_type", .ofOption .string e.resourceType),
    ("resource_id", .ofOption .string e.resourceId),
    ("permitted", .bool e.permitted),
    ("context", .object e.context),
    ("ip_address", .ofOption .string e.ipAddress),
    ("user_agent", .ofOption .string e.userAgent),
    ("created_at", e.createdAt.toJson)]

def decode : Json.Decoder AuditEntry :=
  .record ((fun id organization actor action resourceType resourceId permitted context ipAddress
      userAgent createdAt => {
        id, organization, actor, action, resourceType, resourceId, permitted, context, ipAddress,
        userAgent, createdAt })
    <$> required "id" Id.decode
    <*> required "organization_id" Id.decode
    <*> nullable "actor" Id.decode
    <*> required "action" .text
    <*> nullable "resource_type" .text
    <*> nullable "resource_id" .text
    <*> required "permitted" .boolean
    <*> required "context" .members
    <*> nullable "ip_address" .text
    <*> nullable "user_agent" .text
    <*> required "created_at" Instant.decode)

end AuditEntry

namespace AuditWindow

def toJson (w : AuditWindow) : Json :=
  .object [
    ("from", .ofOption Instant.toJson w.start),
    ("to", .ofOption Instant.toJson w.stop)]

def decode : Json.Decoder AuditWindow :=
  .record (AuditWindow.mk
    <$> nullable "from" Instant.decode
    <*> nullable "to" Instant.decode)

end AuditWindow

def AuditSummary.toJson (s : AuditSummary) : Json :=
  .object [
    ("total", .ofNat s.total),
    ("permitted", .ofNat s.permitted),
    ("denied", .ofNat s.denied),
    ("denial_rate", .number (.double s.denialRate)),
    ("distinct_actors", .ofNat s.distinctActors),
    ("by_action", .object (s.byAction.map fun (l, n) => (l, .ofNat n))),
    ("by_resource_type", .object (s.byResourceType.map fun (l, n) => (l, .ofNat n)))]

end AccessControl
