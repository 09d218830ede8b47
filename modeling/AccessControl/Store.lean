import AccessControl.Resolution
import AccessControl.Table

/-! # What is stored

Members, roles, teams, delegations and overrides of all organizations. Every question and every
change names its organization, and rows of others are as good as absent. -/

namespace AccessControl

/-- A user's place in a team. -/
structure TeamSeat where
  organization : OrganizationId
  user : UserId
  team : String
deriving DecidableEq, Repr

def Member.key (m : Member) : OrganizationId × UserId := (m.organization, m.user)

structure Store where
  members : Table Member.key := {}
  roles : Table Role.id := {}
  seats : List TeamSeat := []
  delegations : Table Delegation.id := {}
  overrides : Table Override.id := {}

namespace Store

/-! ## Members and teams -/

def findMember (s : Store) (organization : OrganizationId) (user : UserId) : Option Member :=
  s.members.find? (organization, user)

def putMember (s : Store) (m : Member) : Store := { s with members := s.members.put m }

def setMemberRole (s : Store) (organization : OrganizationId) (user : UserId) (role : MemberRole) :
    Outcome (Member × Store) :=
  match s.findMember organization user with
  | none => .error (.notMember user organization)
  | some m => .ok ({ m with role }, s.putMember { m with role })

def addSeat (s : Store) (seat : TeamSeat) : Store := { s with seats := s.seats ++ [seat] }

def teams (s : Store) (organization : OrganizationId) (user : UserId) : TextSet :=
  .ofList ((s.seats.filter fun t => t.organization = organization && t.user = user).map (·.team))

/-! ## Roles -/

def findRole (s : Store) (organization : OrganizationId) (id : RoleId) : Option Role :=
  (s.roles.find? id).filter fun r => r.organization = organization

def rolesOf (s : Store) (organization : OrganizationId) : List Role :=
  s.roles.rows.filter fun r => r.organization = organization

/-- A higher priority comes first, and of one priority the lower key. -/
def roleComesBefore (a b : Role) : Bool :=
  b.priority < a.priority || (a.priority.value = b.priority.value && a.key.text ≤ b.key.text)

def listRoles (s : Store) (organization : OrganizationId) : List Role :=
  (s.rolesOf organization).mergeSort roleComesBefore

def findRoleByKey (s : Store) (organization : OrganizationId) (key : RoleKey) : Option Role :=
  (s.rolesOf organization).find? fun r => r.key = key

def putRole (s : Store) (role : Role) : Store := { s with roles := s.roles.put role }

def createRole (s : Store) (role : Role) : Outcome Store :=
  match s.findRoleByKey role.organization role.key with
  | some _ => .error (.roleKeyTaken role.key.text)
  | none => .ok (s.putRole role)

/-- Only the name and the priority change. -/
def updateRole (s : Store) (role : Role) : Outcome Store :=
  match s.findRole role.organization role.id with
  | none => .error (.roleNotFound role.id)
  | some stored =>
    .ok (s.putRole { stored with name := role.name, priority := role.priority })

def countMembers (s : Store) (organization : OrganizationId) (id : RoleId) : Nat :=
  s.members.rows.countP fun m => m.organization = organization && m.role.roleId? = some id

def countDelegations (s : Store) (organization : OrganizationId) (id : RoleId) : Nat :=
  s.delegations.rows.countP fun d => d.organization = organization && d.role = some id

def deleteRole (s : Store) (organization : OrganizationId) (id : RoleId) : Outcome Store :=
  if 0 < s.countMembers organization id ∨ 0 < s.countDelegations organization id then
    .error (.roleReferenced id)
  else
    match s.findRole organization id with
    | none => .error (.roleNotFound id)
    | some _ => .ok { s with roles := s.roles.erase id }

/-- The names of a permission may be held only once, as they are written. -/
def addGrant (s : Store) (organization : OrganizationId) (id : RoleId) (grant : RoleGrant) :
    Outcome Store :=
  match s.findRole organization id with
  | none => .error (.roleNotFound id)
  | some role =>
    if role.grants.any fun g => g.permission = grant.permission then
      .error (.grantStored id grant.permission.resourceType grant.permission.action)
    else .ok (s.putRole { role with grants := role.grants ++ [grant] })

/-- Remove every grant of the permission, under whichever of its names. -/
def removeGrant (s : Store) (organization : OrganizationId) (id : RoleId)
    (permission : Permission) : Outcome Store :=
  match s.findRole organization id with
  | none => .error (.roleNotFound id)
  | some role =>
    let kept := role.grants.filter fun g => g.permission.resolve? ≠ some permission
    if kept.length = role.grants.length then .error (.grantNotStored id permission.key)
    else .ok (s.putRole { role with grants := kept })

/-! ## Delegations -/

def putDelegation (s : Store) (d : Delegation) : Store :=
  { s with delegations := s.delegations.put d }

def createDelegation (s : Store) (d : Delegation) : Outcome Store :=
  match s.delegations.find? d.id with
  | some _ => .error (.delegationExists d.id)
  | none => .ok (s.putDelegation d)

def findDelegation (s : Store) (organization : OrganizationId) (id : DelegationId) :
    Option Delegation :=
  (s.delegations.find? id).filter fun d => d.organization = organization

def saveDelegation (s : Store) (d : Delegation) : Outcome Store :=
  match s.findDelegation d.organization d.id with
  | none => .error (.delegationNotFound d.id)
  | some _ => .ok (s.putDelegation d)

/-- The delegations that a user gave or received, or all of them. -/
def listDelegations (s : Store) (organization : OrganizationId) (user : Option UserId) :
    List Delegation :=
  s.delegations.rows.filter fun d =>
    d.organization = organization && user.all fun u => d.delegator = u || d.delegatee = u

/-- What a user received and was not revoked. -/
def receivedDelegations (s : Store) (organization : OrganizationId) (user : UserId) :
    List Delegation :=
  s.delegations.rows.filter fun d =>
    d.organization = organization && d.delegatee = user && d.active

/-! ## Overrides -/

def putOverride (s : Store) (o : Override) : Store := { s with overrides := s.overrides.put o }

def createOverride (s : Store) (o : Override) : Outcome Store :=
  match s.overrides.find? o.id with
  | some _ => .error (.overrideExists o.id)
  | none => .ok (s.putOverride o)

def findOverride (s : Store) (organization : OrganizationId) (id : OverrideId) : Option Override :=
  (s.overrides.find? id).filter fun o => o.organization = organization

def saveOverride (s : Store) (o : Override) : Outcome Store :=
  match s.findOverride o.organization o.id with
  | none => .error (.overrideNotFound o.id)
  | some _ => .ok (s.putOverride o)

def listOverrides (s : Store) (organization : OrganizationId) (user : Option UserId) :
    List Override :=
  s.overrides.rows.filter fun o => o.organization = organization && user.all fun u => o.user = u

/-- The exceptions of a user that were not revoked. -/
def receivedOverrides (s : Store) (organization : OrganizationId) (user : UserId) :
    List Override :=
  s.overrides.rows.filter fun o =>
    o.organization = organization && o.user = user && o.revokedAt.isNone

end Store

end AccessControl
