import AccessControl.Administration.Basic
import AccessControl.Instant.Text

/-! # Administration of delegations -/

namespace AccessControl

structure DelegationRequest where
  delegatee : UserId
  /-- Excludes permissions. -/
  role : Option RoleId
  permissions : List Permission
  startsAt : Instant
  endsAt : Instant
  reason : Option String
deriving DecidableEq, Repr

/-- Which of an organization's records are listed. -/
structure ListFilter where
  user : Option UserId := none
  activeOnly : Bool := false
deriving DecidableEq, Repr

namespace Administration

open Service

/-- Fail unless a user can be given something. -/
def requireActiveMember (actor : Actor) (user : UserId) : Service Unit := do
  let m : Option Member ← ask (.findMember actor.organization user)
  if m.any (·.isActiveFor user actor.organization) then pure ()
  else .fail (.recipientNotActive user actor.organization)

/-- A permission can be handed over only by one who holds it on every resource of its type. -/
def checkHeld (rules : RuleSet) (permissions : List Permission) : Outcome Unit :=
  match permissions.find? fun p => !rules.grantsUnconditionally p with
  | some p => .error (.permissionNotHeld p.key)
  | none => .ok ()

/-- What a request hands over. -/
def shareOf (s : Setting) (actor : Actor) (request : DelegationRequest) :
    Service Delegation.Share :=
  match request.role with
  | some id =>
    if request.permissions.isEmpty then do
      let role ← findRole actor id
      return .role id role.priority
    else .fail .mixedDelegation
  | none => do
    let rules ← Authorization.ruleSet s actor.organization (some actor.user)
    .ofOutcome (checkHeld rules request.permissions)
    return .permissions (request.permissions.map (·.stored))

def reportDelegation (s : Setting) (actor : Actor) (action : AuditAction) (id : DelegationId)
    (detail : String) : Service Unit :=
  report s (operationRecord actor action delegationName id.toString detail)

def createDelegation (s : Setting) (actor : Actor) (request : DelegationRequest) :
    Service Delegation := do
  let own ← ownPriority actor
  let share ← shareOf s actor request
  requireActiveMember actor request.delegatee
  let draft : Delegation.Draft :=
    { organization := actor.organization, delegator := actor.user,
      delegatee := request.delegatee, delegatorPriority := own, share,
      startsAt := request.startsAt, endsAt := request.endsAt, reason := request.reason }
  let id ← ask (.newId .delegation)
  let d ← .ofOutcome (Delegation.create id draft s.now)
  ask (.createDelegation d)
  Authorization.forgetUser s actor.organization d.delegatee
  reportDelegation s actor .delegationCreated d.id
    s!"delegated to '{d.delegatee}' until {d.endsAt.toOffsetString}"
  return d

/-- A delegation that the actor gave, or one of any member to those who manage members. -/
def managedDelegation (s : Setting) (actor : Actor) (id : DelegationId) : Service Delegation := do
  let d ← found (.delegationNotFound id) (← ask (.findDelegation actor.organization id))
  if d.delegator = actor.user then return d
  else
    Authorization.require s actor .manage (.ofType .membership)
    return d

def storeDelegation (s : Setting) (actor : Actor) (d : Delegation) : Service Unit := do
  ask (.saveDelegation d)
  Authorization.forgetUser s actor.organization d.delegatee

def revokeDelegation (s : Setting) (actor : Actor) (id : DelegationId) : Service Delegation := do
  let stored ← managedDelegation s actor id
  let d ← .ofOutcome (stored.revoke s.now)
  storeDelegation s actor d
  reportDelegation s actor .delegationRevoked d.id s!"revoked delegation to '{d.delegatee}'"
  return d

def extendDelegation (s : Setting) (actor : Actor) (id : DelegationId) (endsAt : Instant) :
    Service Delegation := do
  let stored ← managedDelegation s actor id
  let d ← .ofOutcome (stored.extend endsAt s.now)
  storeDelegation s actor d
  reportDelegation s actor .delegationExtended d.id
    s!"extended delegation until {endsAt.toOffsetString}"
  return d

def listDelegations (s : Setting) (actor : Actor) (f : ListFilter) :
    Service (List Delegation) := do
  Authorization.require s actor .read (.ofType .membership)
  let all : List Delegation ← ask (.listDelegations actor.organization f.user)
  return all.filter fun d => !f.activeOnly || d.isActiveAt s.now

end Administration

end AccessControl
