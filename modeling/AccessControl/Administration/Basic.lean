import AccessControl.Authorization

/-! # Administration: what all operations need

Every operation is carried out by an actor for the organization of the actor. -/

namespace AccessControl.Administration

open Service

/-- The priority of the actor's own role. -/
def ownPriority (actor : Actor) : Service RolePriority := do
  found (.actorNotActive actor.user actor.organization)
    (← Authorization.effectivePriority actor.organization actor.user)

def checkCeiling (priority own : RolePriority) : Outcome Unit :=
  if own < priority then .error (.priorityCeiling priority.value own.value) else .ok ()

/-- Fail when a priority is above the actor's own. -/
def requirePriority (actor : Actor) (priority : RolePriority) : Service Unit := do
  let own ← ownPriority actor
  .ofOutcome (checkCeiling priority own)

def findRole (actor : Actor) (id : RoleId) : Service Role := do
  found (.roleNotFound id) (← ask (.findRole actor.organization id))

/-- The key of a member's role, empty where the role is missing. -/
def memberRoleKey (actor : Actor) : MemberRole → Service String
  | .legacy r => pure r.name
  | .dynamic id => do
    let role ← ask (.findRole actor.organization id)
    return (role.map (·.key.text)).getD ""

/-- A member as a resource. -/
def memberResource (actor : Actor) (m : Member) (user : UserId) : Service Resource := do
  return .ofMembership actor.organization user (← memberRoleKey actor m.role)

/-- The audit record of an operation that was carried out. -/
def operationRecord (actor : Actor) (action : AuditAction) (resourceType resourceId : String)
    (detail : String) : AuditRecord where
  organization := actor.organization
  actor := some actor.user
  action := action.name
  resourceType := some resourceType
  resourceId := some resourceId
  permitted := true
  context := [("detail", .string detail)]
  ipAddress := actor.context.ipAddress
  userAgent := actor.context.userAgent

/-- Enter an operation into the log, which may fail without harm. -/
def report (s : Setting) (r : AuditRecord) : Service Unit := do
  let _ ← Audit.record s.now r

/-- What delegations are called in the audit log. -/
def delegationName : String := "delegation"

/-- What overrides are called in the audit log. -/
def overrideName : String := "resource_permission"

end AccessControl.Administration
