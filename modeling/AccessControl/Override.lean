import AccessControl.Instant.Basic
import AccessControl.Permission

/-! # Overrides

An exception for one user and one resource, which grants or denies a permission. -/

namespace AccessControl

structure Override where
  id : OverrideId
  organization : OrganizationId
  user : UserId
  permission : StoredPermission
  /-- The type of the resource, as it is kept. -/
  resourceType : String
  resourceId : String
  granted : Bool
  /-- An override without an end is permanent. -/
  expiresAt : Option Instant
  revokedAt : Option Instant
  grantedBy : Option UserId
  createdAt : Instant
deriving DecidableEq, Repr

structure Override.Draft where
  organization : OrganizationId
  user : UserId
  permission : Permission
  resourceId : String
  granted : Bool
  expiresAt : Option Instant
  grantedBy : Option UserId
deriving DecidableEq, Repr

inductive Override.Status where
  | active
  | expired
  | revoked
deriving DecidableEq, Repr

namespace Override

def Status.name : Status → String
  | .active => "active"
  | .expired => "expired"
  | .revoked => "revoked"

def create (id : OverrideId) (draft : Draft) (now : Instant) : Outcome Override := do
  if !draft.permission.isCataloged then throw (.outsideCatalog draft.permission.key)
  let resourceId := Text.trim draft.resourceId
  if resourceId.isEmpty then throw .blankResourceId
  if draft.expiresAt.any (· ≤ now) then throw .overrideExpiryPassed
  return {
    id
    organization := draft.organization
    user := draft.user
    permission := draft.permission.stored
    resourceType := draft.permission.resourceType.name
    resourceId
    granted := draft.granted
    expiresAt := draft.expiresAt
    revokedAt := none
    grantedBy := draft.grantedBy
    createdAt := now }

def status (o : Override) (now : Instant) : Status :=
  if o.revokedAt.isSome then .revoked
  else if o.expiresAt.any (· ≤ now) then .expired
  else .active

def isActiveAt (o : Override) (now : Instant) : Bool := o.status now = .active

/-- The permission, when both of its names are known and its type is that of the resource. -/
def resolve? (o : Override) : Option Permission := do
  let permission ← o.permission.resolve?
  let resourceType ← ResourceType.ofName? o.resourceType
  if permission.resourceType = resourceType then some permission else none

/-- A revocation puts an override out of force: its flag is cleared, and its end is now. -/
def revoke (o : Override) (now : Instant) : Outcome Override :=
  if o.revokedAt.isSome then .error (.overrideRevoked o.id)
  else .ok { o with granted := false, expiresAt := some now, revokedAt := some now }

/-- Move the end of an active override to a later time. -/
def extend (o : Override) (expiresAt now : Instant) : Outcome Override :=
  match o.status now with
  | .active =>
    match o.expiresAt with
    | none => .error (.overridePermanent o.id)
    | some current =>
      if expiresAt ≤ current then .error .overrideExpiryNotLater
      else .ok { o with expiresAt := some expiresAt }
  | status => .error (.overrideNotExtendable o.id status.name)

end Override

end AccessControl
