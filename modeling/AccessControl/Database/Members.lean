import AccessControl.Database.Session
import AccessControl.Member
import AccessControl.Text.Set

/-! # Members and teams in the database -/

namespace AccessControl.Database

/-- What the row of a member holds. -/
structure StoredMember where
  organization : OrganizationId
  user : UserId
  legacyRole : Option String
  role : Option RoleId
  active : Bool
deriving DecidableEq, Repr

namespace StoredMember

def columns : List String := ["organization_id", "user_id", "legacy_role", "role_id", "active"]

def ofRow? (r : Row) : Option StoredMember := do
  return {
    organization := ← r.read? "organization_id" Value.id?
    user := ← r.read? "user_id" Value.id?
    legacyRole := ← r.read? "legacy_role" (Value.nullable Value.text?)
    role := ← r.read? "role_id" (Value.nullable Value.id?)
    active := ← r.read? "active" Value.boolean? }

/-- A role of the organization goes before a fixed one. -/
def toRole (m : StoredMember) : Outcome MemberRole :=
  match m.role, m.legacyRole with
  | some id, _ => .ok (.dynamic id)
  | none, some name =>
    ((LegacyRole.parse name).mapError (.storedLegacyRole name)).map .legacy
  | none, none => .error (.storedMembership m.user m.organization)

def toMember (m : StoredMember) : Outcome Member := do
  return {
    user := m.user
    organization := m.organization
    active := m.active
    role := ← m.toRole }

end StoredMember

namespace Members

/-- The columns of a role, of which the other one is null. -/
def roleColumns : MemberRole → Row
  | .legacy role => ⟨[("legacy_role", .text role.name), ("role_id", .null)]⟩
  | .dynamic id => ⟨[("legacy_role", .null), ("role_id", .ofId id)]⟩

def isMember (organization : OrganizationId) (user : UserId) : List Condition :=
  [.equals "organization_id" (.ofId organization), .equals "user_id" (.ofId user)]

def selectMember (organization : OrganizationId) (user : UserId) : Selection where
  columns := StoredMember.columns
  table := "memberships"
  conditions := isMember organization user

def updateRole (organization : OrganizationId) (user : UserId) (role : MemberRole) : Statement :=
  .update "memberships" (isMember organization user) (roleColumns role) [] StoredMember.columns

def selectTeams (organization : OrganizationId) (user : UserId) : Selection where
  columns := ["team_id"]
  table := "team_memberships"
  conditions := isMember organization user

def find (organization : OrganizationId) (user : UserId) : Session (Option Member) := do
  match ← Session.first "load membership" StoredMember.ofRow? (selectMember organization user) with
  | none => return none
  | some m => return some (← .ofOutcome m.toMember)

/-- Give a member another role, and show the member as stored. -/
def setRole (organization : OrganizationId) (user : UserId) (role : MemberRole) :
    Session Member := do
  let task := "update membership role"
  let answer ← Session.send (.database task) (updateRole organization user role)
  match ← Session.firstOf task StoredMember.ofRow? answer with
  | none => .fail (.notMember user organization)
  | some m => .ofOutcome m.toMember

def teams (organization : OrganizationId) (user : UserId) : Session TextSet := do
  return TextSet.ofList
    (← Session.all "load team ids" (Row.single? Value.text?) (selectTeams organization user))

end Members

end AccessControl.Database
