import AccessControl.Administration.Delegations

/-! # Administration of overrides -/

namespace AccessControl

structure OverrideRequest where
  user : UserId
  permission : Permission
  resourceId : String
  granted : Bool
  expiresAt : Option Instant
deriving DecidableEq, Repr

namespace Administration

open Service

/-- The membership of a user as a resource, with the key of its role. -/
def membershipResource? (actor : Actor) (user : UserId) : Service (Option Resource) := do
  match ← ask (.findMember actor.organization user) with
  | none => return none
  | some m => return some (← memberResource actor m user)

/-- The resource that an override is about, as far as it is known. Memberships have to exist. -/
def overrideTarget (actor : Actor) (t : ResourceType) (resourceId : String) : Service Target := do
  if t = .membership then
    let user ← .ofOutcome (Id.parse resourceId)
    let resource ← found (.notMember user actor.organization) (← membershipResource? actor user)
    return .resource resource
  else return .resource { resourceType := t, id := resourceId, organization := actor.organization }

/-- Fail unless the actor may do each of the actions. -/
def requireAll (s : Setting) (actor : Actor) (target : Target) : List Action → Service Unit
  | [] => pure ()
  | action :: rest => do
    Authorization.require s actor action target
    requireAll s actor target rest

/-- The end of an override that is granted without one. -/
def defaultEnd (s : Setting) : Outcome (Option Instant) :=
  match s.defaultExpiry with
  | none => .ok none
  | some minutes =>
    match s.now.addMinutes? minutes with
    | some t => .ok (some t)
    | none => .error .calendarOverflow

def endOf (s : Setting) : Option Instant → Outcome (Option Instant)
  | some t => .ok (some t)
  | none => defaultEnd s

def reportOverride (s : Setting) (actor : Actor) (action : AuditAction) (id : OverrideId)
    (detail : String) : Service Unit :=
  report s (operationRecord actor action overrideName id.toString detail)

/-- The issuer has to hold all that the override gives or takes on the resource. -/
def grantOverride (s : Setting) (actor : Actor) (request : OverrideRequest) :
    Service Override := do
  .ofOutcome (if request.user = actor.user then .error .selfOverride else .ok ())
  let p := request.permission
  let target ← overrideTarget actor p.resourceType (Text.trim request.resourceId)
  requireAll s actor target (.manage :: p.coveredActions)
  requireActiveMember actor request.user
  let expiresAt ← .ofOutcome (endOf s request.expiresAt)
  let draft : Override.Draft :=
    { organization := actor.organization, user := request.user, permission := p,
      resourceId := request.resourceId, granted := request.granted, expiresAt,
      grantedBy := some actor.user }
  let id ← ask (.newId .override)
  let o ← .ofOutcome (Override.create id draft s.now)
  ask (.createOverride o)
  Authorization.forgetUser s actor.organization o.user
  let verb := if o.granted then "granted" else "denied"
  reportOverride s actor .overrideGranted o.id
    s!"{verb} '{p}' on {o.resourceType} '{o.resourceId}' for '{o.user}'"
  return o

/-- The resource on which a stored override has to be managed. Where it cannot be told, whoever
manages all members can manage the override. -/
def managedTarget (actor : Actor) (o : Override) : Service Target :=
  match ResourceType.ofName? o.resourceType with
  | none => pure (.ofType .membership)
  | some .membership =>
    match (Id.parse o.resourceId : Outcome UserId) with
    | .error _ => pure (.ofType .membership)
    | .ok user => do
      return ((← membershipResource? actor user).map .resource).getD (.ofType .membership)
  | some t => pure (.resource
    { resourceType := t, id := o.resourceId, organization := actor.organization })

def managedOverride (s : Setting) (actor : Actor) (id : OverrideId) : Service Override := do
  let o ← found (.overrideNotFound id) (← ask (.findOverride actor.organization id))
  let target ← managedTarget actor o
  Authorization.require s actor .manage target
  return o

def storeOverride (s : Setting) (actor : Actor) (o : Override) : Service Unit := do
  ask (.saveOverride o)
  Authorization.forgetUser s actor.organization o.user

def revokeOverride (s : Setting) (actor : Actor) (id : OverrideId) : Service Override := do
  let stored ← managedOverride s actor id
  let o ← .ofOutcome (stored.revoke s.now)
  storeOverride s actor o
  reportOverride s actor .overrideRevoked o.id
    s!"revoked override on {o.resourceType} '{o.resourceId}' for '{o.user}'"
  return o

def extendOverride (s : Setting) (actor : Actor) (id : OverrideId) (expiresAt : Instant) :
    Service Override := do
  let stored ← managedOverride s actor id
  let o ← .ofOutcome (stored.extend expiresAt s.now)
  storeOverride s actor o
  reportOverride s actor .overrideExtended o.id
    s!"extended override until {expiresAt.toOffsetString}"
  return o

def listOverrides (s : Setting) (actor : Actor) (f : ListFilter) : Service (List Override) := do
  Authorization.require s actor .read (.ofType .membership)
  let all : List Override ← ask (.listOverrides actor.organization f.user)
  return all.filter fun o => !f.activeOnly || o.isActiveAt s.now

end Administration

end AccessControl
