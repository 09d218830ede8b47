import AccessControl.Administration.Basic

/-! # Administration of roles -/

namespace AccessControl

structure GrantDraft where
  permission : Permission
  conditions : GrantConditions := {}
  scope : GrantScope := {}
deriving DecidableEq, Repr

structure RoleDraft where
  key : String
  name : String
  priority : Int
  grants : List GrantDraft
deriving DecidableEq, Repr

structure RoleCopy where
  key : String
  name : String
deriving DecidableEq, Repr

/-- What changes of a role. -/
structure RoleChange where
  name : Option String := none
  priority : Option Int := none
deriving DecidableEq, Repr

def GrantDraft.toGrant (d : GrantDraft) : Outcome RoleGrant :=
  RoleGrant.create d.permission d.conditions d.scope

/-- The grants of a list in which no permission is repeated, or among those seen before. -/
def GrantDraft.toGrants (seen : List Permission) : List GrantDraft → Outcome (List RoleGrant)
  | [] => .ok []
  | d :: rest => do
    if d.permission ∈ seen then throw (.repeatedPermission d.permission.key)
    let grant ← d.toGrant
    let others ← toGrants (d.permission :: seen) rest
    return grant :: others

namespace Administration

open Service

def requireOnRoles (s : Setting) (actor : Actor) (action : Action) : Service Unit :=
  Authorization.require s actor action (.ofType .role)

def listRoles (s : Setting) (actor : Actor) : Service (List Role) := do
  requireOnRoles s actor .read
  ask (.listRoles actor.organization)

def requireFreeKey (actor : Actor) (key : RoleKey) : Service Unit := do
  match ← ask (.findRoleByKey actor.organization key) with
  | none => return ()
  | some _ => .fail (.roleKeyTaken key.text)

def reportRole (s : Setting) (actor : Actor) (action : AuditAction) (id : RoleId)
    (detail : String) : Service Unit :=
  report s (operationRecord actor action ResourceType.role.name id.toString detail)

/-- Store a role that is neither of the system nor fixed. -/
def storeRole (actor : Actor) (key : RoleKey) (name : String) (priority : RolePriority)
    (grants : List RoleGrant) : Service Role := do
  let id ← ask (.newId .role)
  let role : Role :=
    { id, organization := actor.organization, key, name, priority, isSystem := false,
      isEditable := true, grants }
  ask (.createRole role)
  return role

def createRole (s : Setting) (actor : Actor) (draft : RoleDraft) : Service Role := do
  requireOnRoles s actor .create
  let key ← .ofOutcome (RoleKey.parse draft.key)
  let name ← .ofOutcome (checkName draft.name)
  let priority ← .ofOutcome (RolePriority.parse draft.priority)
  requirePriority actor priority
  let grants ← .ofOutcome (GrantDraft.toGrants [] draft.grants)
  requireFreeKey actor key
  let role ← storeRole actor key name priority grants
  reportRole s actor .roleCreated role.id
    s!"created role '{role.key}' with priority {role.priority.value}"
  return role

def duplicateRole (s : Setting) (actor : Actor) (id : RoleId) (copy : RoleCopy) :
    Service Role := do
  requireOnRoles s actor .create
  let source ← findRole actor id
  requirePriority actor source.priority
  let key ← .ofOutcome (RoleKey.parse copy.key)
  let name ← .ofOutcome (checkName copy.name)
  requireFreeKey actor key
  let role ← storeRole actor key name source.priority source.grants
  reportRole s actor .roleDuplicated role.id s!"duplicated role '{source.key}' into '{role.key}'"
  return role

def checkEditable (role : Role) : Outcome Unit :=
  if role.isSystem || !role.isEditable then .error (.systemRoleChange role.key.text) else .ok ()

/-- A role that the actor may change as its priority is now. -/
def editableRole (s : Setting) (actor : Actor) (id : RoleId) : Service Role := do
  requireOnRoles s actor .update
  let role ← findRole actor id
  .ofOutcome (checkEditable role)
  requirePriority actor role.priority
  return role

def changedName (role : Role) : Option String → Outcome String
  | none => .ok role.name
  | some name => checkName name

def changedPriority (actor : Actor) (role : Role) : Option Int → Service RolePriority
  | none => pure role.priority
  | some value => do
    let priority ← .ofOutcome (RolePriority.parse value)
    requirePriority actor priority
    return priority

def updateRole (s : Setting) (actor : Actor) (id : RoleId) (change : RoleChange) :
    Service Role := do
  let stored ← editableRole s actor id
  let name ← .ofOutcome (changedName stored change.name)
  let priority ← changedPriority actor stored change.priority
  let role := { stored with name, priority }
  ask (.updateRole role)
  Authorization.forgetOrganization s actor.organization
  reportRole s actor .roleUpdated role.id
    s!"updated role '{role.key}' (name '{role.name}', priority {role.priority.value})"
  return role

/-- Fail when something refers to the role. -/
def requireUnused (actor : Actor) (role : Role) (id : RoleId) : Service Unit := do
  let members : Nat ← ask (.countMembers actor.organization id)
  .ofOutcome (if 0 < members then .error (.roleAssigned role.key.text members) else .ok ())
  let delegations : Nat ← ask (.countDelegations actor.organization id)
  .ofOutcome
    (if 0 < delegations then .error (.roleDelegated role.key.text delegations) else .ok ())

def checkDeletable (role : Role) : Outcome Unit :=
  if role.isSystem then .error (.systemRoleDeletion role.key.text) else .ok ()

def deleteRole (s : Setting) (actor : Actor) (id : RoleId) : Service Unit := do
  requireOnRoles s actor .destroy
  let role ← findRole actor id
  .ofOutcome (checkDeletable role)
  requirePriority actor role.priority
  requireUnused actor role id
  ask (.deleteRole actor.organization id)
  Authorization.forgetOrganization s actor.organization
  reportRole s actor .roleDeleted id s!"deleted role '{role.key}'"

/-- Give a member another role. -/
def assignRole (s : Setting) (actor : Actor) (user : UserId) (id : RoleId) : Service Member := do
  let m ← found (.notMember user actor.organization) (← ask (.findMember actor.organization user))
  let resource ← memberResource actor m user
  Authorization.require s actor .changeRole (.resource resource)
  let role ← findRole actor id
  requirePriority actor role.priority
  let changed ← ask (.setMemberRole actor.organization user (.dynamic id))
  Authorization.forgetUser s actor.organization user
  report s (operationRecord actor .roleAssigned ResourceType.membership.name user.toString
    s!"assigned role '{role.key}' to '{user}'")
  return changed

def addPermission (s : Setting) (actor : Actor) (id : RoleId) (draft : GrantDraft) :
    Service Role := do
  let role ← editableRole s actor id
  let grant ← .ofOutcome draft.toGrant
  .ofOutcome (match role.grantFor? draft.permission with
    | some _ => .error (.grantHeld role.key.text draft.permission.key)
    | none => .ok ())
  ask (.addGrant actor.organization id grant)
  Authorization.forgetOrganization s actor.organization
  reportRole s actor .rolePermissionAdded id
    s!"granted '{draft.permission}' to role '{role.key}'"
  findRole actor id

def removePermission (s : Setting) (actor : Actor) (id : RoleId) (permission : Permission) :
    Service Role := do
  let role ← editableRole s actor id
  .ofOutcome (match role.grantFor? permission with
    | some _ => .ok ()
    | none => .error (.grantNotHeld role.key.text permission.key))
  ask (.removeGrant actor.organization id permission)
  Authorization.forgetOrganization s actor.organization
  reportRole s actor .rolePermissionRemoved id s!"removed '{permission}' from role '{role.key}'"
  findRole actor id

end Administration

end AccessControl
