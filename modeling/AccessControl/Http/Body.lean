import AccessControl.Administration.Operation
import AccessControl.Http.Message
import AccessControl.Wire.Record

/-! # What the bodies of requests say -/

namespace AccessControl.Http

open AccessControl.Json.Fields

/-- How many bytes a body can have. -/
def maxBodySize : Nat := 2 * 1024 * 1024

/-- What the body of a request is decoded to. -/
def readBody {α : Type} (r : Request) (decode : Json.Decoder α) : Except Rejection α :=
  if !r.hasJsonBody then .error .unknownMediaType
  else if maxBodySize < r.body.utf8ByteSize then .error .bodyTooLarge
  else match decode.readText r.body with
    | .ok a => .ok a
    | .error .malformed => .error .malformedBody
    | .error .unfit => .error .unfitBody

/-- The resource of a check. Without an identifier it is the whole type. -/
structure TargetBody where
  resourceType : String
  resourceId : Option String
  /-- The owner of the resource, if it is not the organization that is asked. -/
  organization : Option OrganizationId
  owners : Owners
  team : Option String
  service : Option String
  roleKey : Option String
  /-- Matters only for organizations. -/
  active : Option Bool
deriving DecidableEq, Repr

namespace TargetBody

def decode : Json.Decoder TargetBody :=
  .record (TargetBody.mk
    <$> required "resource_type" .text
    <*> optional "resource_id" .text
    <*> optional "organization_id" Id.decode
    <*> withDefault "owners" {} Owners.decode
    <*> optional "team_id" .text
    <*> optional "service_id" .text
    <*> optional "role_key" .text
    <*> optional "active" .boolean)

/-- The resource without its attributes. An organization is its own owner. -/
def plainResource (b : TargetBody) (organization : OrganizationId) (t : ResourceType)
    (id : String) : Outcome Resource :=
  if t = .organization then do
    let own ← Id.parse id
    return .ofOrganization own (b.active.getD true)
  else .ok { resourceType := t, id, organization := b.organization.getD organization }

def toTarget (b : TargetBody) (organization : OrganizationId) : Outcome Target := do
  let t ← ResourceType.parse (Text.trim b.resourceType)
  match Text.shown? b.resourceId with
  | none => return .ofType t
  | some id =>
    let r ← b.plainResource organization t id
    return .resource
      { r with owners := b.owners, team := b.team, service := b.service, roleKey := b.roleKey }

end TargetBody

structure CheckBody where
  action : String
  target : TargetBody
deriving DecidableEq, Repr

namespace CheckBody

def decode : Json.Decoder CheckBody :=
  .record (CheckBody.mk
    <$> required "action" .text
    <*> required "target" TargetBody.decode)

def toCheck (b : CheckBody) (organization : OrganizationId) : Outcome (Action × Target) := do
  let action ← Action.parse (Text.trim b.action)
  let target ← b.target.toTarget organization
  return (action, target)

end CheckBody

structure GrantBody where
  permission : String
  conditions : GrantConditions
  scope : GrantScope
deriving DecidableEq, Repr

namespace GrantBody

def decode : Json.Decoder GrantBody :=
  .record (GrantBody.mk
    <$> required "permission" .text
    <*> withDefault "conditions" {} GrantConditions.decode
    <*> withDefault "scope" {} GrantScope.decode)

def toDraft (b : GrantBody) : Outcome GrantDraft := do
  let permission ← Permission.parse (Text.trim b.permission)
  return { permission, conditions := b.conditions, scope := b.scope }

end GrantBody

structure RoleBody where
  key : String
  name : String
  priority : Int
  grants : List GrantBody
deriving DecidableEq, Repr

namespace RoleBody

def decode : Json.Decoder RoleBody :=
  .record (RoleBody.mk
    <$> required "key" .text
    <*> required "name" .text
    <*> required "priority" .int64
    <*> withDefault "grants" [] (.list GrantBody.decode))

def toDraft (b : RoleBody) : Outcome RoleDraft := do
  let grants ← b.grants.mapM GrantBody.toDraft
  return { key := b.key, name := b.name, priority := b.priority, grants }

end RoleBody

def decodeRoleCopy : Json.Decoder RoleCopy :=
  .record (RoleCopy.mk
    <$> required "key" .text
    <*> required "name" .text)

def decodeRoleChange : Json.Decoder RoleChange :=
  .record (RoleChange.mk
    <$> optional "name" .text
    <*> optional "priority" .int64)

/-- A record of one member. -/
def decodeSingle {α : Type} (name : String) (decode : Json.Decoder α) : Json.Decoder α :=
  .record (required name decode)

structure DelegationBody where
  delegatee : UserId
  role : Option RoleId
  permissions : List String
  startsAt : Instant
  endsAt : Instant
  reason : Option String
deriving DecidableEq, Repr

namespace DelegationBody

def decode : Json.Decoder DelegationBody :=
  .record (DelegationBody.mk
    <$> required "delegatee_id" Id.decode
    <*> optional "role_id" Id.decode
    <*> withDefault "permissions" [] (.list .text)
    <*> required "starts_at" Instant.decode
    <*> required "ends_at" Instant.decode
    <*> optional "reason" .text)

def toRequest (b : DelegationBody) : Outcome DelegationRequest := do
  let permissions ← b.permissions.mapM fun p => Permission.parse (Text.trim p)
  return {
    delegatee := b.delegatee, role := b.role, permissions, startsAt := b.startsAt,
    endsAt := b.endsAt, reason := b.reason }

end DelegationBody

structure OverrideBody where
  user : UserId
  permission : String
  resourceId : String
  /-- Unless it is said otherwise, an override grants. -/
  granted : Bool
  expiresAt : Option Instant
deriving DecidableEq, Repr

namespace OverrideBody

def decode : Json.Decoder OverrideBody :=
  .record (OverrideBody.mk
    <$> required "user_id" Id.decode
    <*> required "permission" .text
    <*> required "resource_id" .text
    <*> withDefault "granted" true .boolean
    <*> optional "expires_at" Instant.decode)

def toRequest (b : OverrideBody) : Outcome OverrideRequest := do
  let permission ← Permission.parse (Text.trim b.permission)
  return {
    user := b.user, permission, resourceId := b.resourceId, granted := b.granted,
    expiresAt := b.expiresAt }

end OverrideBody

end AccessControl.Http
