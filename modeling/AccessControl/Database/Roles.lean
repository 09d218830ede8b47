import AccessControl.Database.Session
import AccessControl.Wire.Role

/-! # Roles in the database

A role has a row of its own and a row for each of its grants. -/

namespace AccessControl.Database

/-! ## Rows -/

/-- What the row of a role holds. The grants have rows of their own. -/
structure StoredRole where
  id : RoleId
  organization : OrganizationId
  key : String
  name : String
  priority : Int
  isSystem : Bool
  isEditable : Bool
deriving DecidableEq, Repr

namespace StoredRole

def columns : List String :=
  ["id", "organization_id", "key", "name", "priority", "is_system", "is_editable"]

def ofRow? (r : Row) : Option StoredRole := do
  return {
    id := ← r.read? "id" Value.id?
    organization := ← r.read? "organization_id" Value.id?
    key := ← r.read? "key" Value.text?
    name := ← r.read? "name" Value.text?
    priority := ← r.read? "priority" Value.integer?
    isSystem := ← r.read? "is_system" Value.boolean?
    isEditable := ← r.read? "is_editable" Value.boolean? }

/-- The key, the name and the priority are checked, in this order. -/
def toRole (r : StoredRole) (grants : List RoleGrant) : Outcome Role := do
  let key ← (RoleKey.parse r.key).mapError (.storedRoleKey r.key)
  let name ← (checkName r.name).mapError (.storedRoleName r.key)
  let priority ← (RolePriority.parse r.priority).mapError (.storedPriority r.key)
  return {
    id := r.id
    organization := r.organization
    key
    name
    priority
    isSystem := r.isSystem
    isEditable := r.isEditable
    grants }

end StoredRole

/-- A grant and the role that it belongs to. -/
structure StoredGrant where
  role : RoleId
  grant : RoleGrant
deriving DecidableEq, Repr

namespace StoredGrant

def columns : List String := ["role_id", "resource_type", "action", "conditions", "scope"]

def ofRow? (r : Row) : Option StoredGrant := do
  return {
    role := ← r.read? "role_id" Value.id?
    grant := {
      permission := {
        resourceType := ← r.read? "resource_type" Value.text?
        action := ← r.read? "action" Value.text? }
      conditions := ← r.read? "conditions" (Value.json? GrantConditions.decode)
      scope := ← r.read? "scope" (Value.json? GrantScope.decode) } }

end StoredGrant

/-- Each role with the grants that carry its identifier, in their order. Of two roles with one
identifier the first has the grants. -/
def withGrants : List StoredRole → List StoredGrant → Outcome (List Role)
  | [], _ => .ok []
  | r :: rest, grants => do
    let (own, others) := grants.partition fun g => g.role = r.id
    let role ← r.toRole (own.map (·.grant))
    return role :: (← withGrants rest others)

def priorityValue (p : RolePriority) : Value := .integer p.value

def roleRow (role : Role) : Row := ⟨[
  ("id", .ofId role.id),
  ("organization_id", .ofId role.organization),
  ("key", .text role.key.text),
  ("name", .text role.name),
  ("priority", priorityValue role.priority),
  ("is_system", .boolean role.isSystem),
  ("is_editable", .boolean role.isEditable)]⟩

/-- The row of a grant, less the role. -/
def grantRow (g : RoleGrant) : Row := ⟨[
  ("resource_type", .text g.permission.resourceType),
  ("action", .text g.permission.action),
  ("conditions", .jsonb g.conditions.toJson),
  ("scope", .jsonb g.scope.toJson)]⟩

/-! ## Statements -/

namespace Roles

def selectRoles (organization : OrganizationId) (id : Option RoleId) : Selection where
  columns := StoredRole.columns
  table := "roles"
  conditions := [
    .equals "organization_id" (.ofId organization),
    .whenGiven .uuid [("id", .equal)] (.ofOption .ofId id)]
  order := ["priority DESC", "key"]

def selectGrants (roles : List RoleId) : Selection where
  columns := StoredGrant.columns
  table := "role_permissions"
  conditions := [.isAmong "role_id" (roles.map (·.uuid))]
  order := ["created_at", "resource_type", "action"]

def selectByKey (organization : OrganizationId) (key : RoleKey) : Selection where
  columns := ["id"]
  table := "roles"
  conditions := [.equals "organization_id" (.ofId organization), .equals "key" (.text key.text)]

/-- The rows of a table that refer to a role. -/
def selectUses (table : String) (organization : OrganizationId) (id : RoleId) : Selection where
  columns := ["COUNT(*)"]
  table
  conditions := [.equals "organization_id" (.ofId organization), .equals "role_id" (.ofId id)]

/-- The conditions that single out a role. -/
def isRole (organization : OrganizationId) (id : RoleId) : List Condition :=
  [.equals "organization_id" (.ofId organization), .equals "id" (.ofId id)]

def insertRole (role : Role) : Statement := .insert "roles" (roleRow role)

def insertGrant (role : RoleId) (g : RoleGrant) : Statement :=
  .insert "role_permissions" ⟨("role_id", .ofId role) :: (grantRow g).cells⟩

def updateRole (role : Role) : Statement :=
  .update "roles" (isRole role.organization role.id)
    ⟨[("name", .text role.name), ("priority", priorityValue role.priority)]⟩ ["updated_at"] []

def deleteRole (organization : OrganizationId) (id : RoleId) : Statement :=
  .delete "roles" none (isRole organization id)

/-- The conditions that single out a role in a join with the table of roles. -/
def isJoinedRole (organization : OrganizationId) (id : RoleId) : List Condition :=
  [.equals "roles.organization_id" (.ofId organization), .equals "roles.id" (.ofId id)]

/-- A grant is added to a role only if the organization has the role. -/
def insertGrantInto (organization : OrganizationId) (id : RoleId) (g : RoleGrant) : Statement :=
  .insertFrom "role_permissions" ("role_id", "roles.id") (grantRow g) "roles"
    (isJoinedRole organization id)

def deleteGrant (organization : OrganizationId) (id : RoleId) (p : StoredPermission) : Statement :=
  .delete "role_permissions" (some "roles")
    (.joins "role_permissions.role_id" "roles.id" :: isJoinedRole organization id ++ [
      .equals "role_permissions.resource_type" (.text p.resourceType),
      .equals "role_permissions.action" (.text p.action)])

/-! ## What is asked for -/

/-- The roles of an organization, or one of them. Without roles no grants are looked for. -/
def load (organization : OrganizationId) (id : Option RoleId) : Session (List Role) := do
  let roles ← Session.all "load roles" StoredRole.ofRow? (selectRoles organization id)
  if roles.isEmpty then return []
  let grants ← Session.all "load role permissions" StoredGrant.ofRow?
    (selectGrants (roles.map (·.id)))
  .ofOutcome (withGrants roles grants)

def list (organization : OrganizationId) : Session (List Role) := load organization none

def find (organization : OrganizationId) (id : RoleId) : Session (Option Role) := do
  return (← load organization (some id)).head?

def findByKey (organization : OrganizationId) (key : RoleKey) : Session (Option Role) := do
  let id ← Session.first "find role by key" (Row.single? Value.id?) (selectByKey organization key)
  match id with
  | none => return none
  | some id => find organization id

def writeGrants (role : Role) : List RoleGrant → Session Unit
  | [] => pure ()
  | g :: rest => do
    let taken := .grantListedTwice role.key.text g.permission.resourceType g.permission.action
    Session.write (faultOn uniqueViolation taken "persist role grants") (insertGrant role.id g)
    writeGrants role rest

/-- The role and its grants are written together or not at all. -/
def create (role : Role) : Session Unit := do
  Session.write (.database "begin transaction") .start
  Session.write (faultOn uniqueViolation (.roleKeyTaken role.key.text) "create role")
    (insertRole role)
  writeGrants role role.grants
  Session.write (.database "commit transaction") .commit

def update (role : Role) : Session Unit :=
  Session.change (.database "update role") (.roleNotFound role.id) (updateRole role)

def delete (organization : OrganizationId) (id : RoleId) : Session Unit :=
  Session.change (faultOn foreignKeyViolation (.roleReferenced id) "delete role")
    (.roleNotFound id) (deleteRole organization id)

def countMembers (organization : OrganizationId) (id : RoleId) : Session Nat :=
  Session.only "count role memberships" (Row.single? Value.count?)
    (selectUses "memberships" organization id)

def countDelegations (organization : OrganizationId) (id : RoleId) : Session Nat :=
  Session.only "count role delegations" (Row.single? Value.count?)
    (selectUses "permission_delegations" organization id)

def addGrant (organization : OrganizationId) (id : RoleId) (g : RoleGrant) : Session Unit :=
  let held := .grantStored id g.permission.resourceType g.permission.action
  Session.change (faultOn uniqueViolation held "add role permission") (.roleNotFound id)
    (insertGrantInto organization id g)

def removeGrant (organization : OrganizationId) (id : RoleId) (p : Permission) : Session Unit :=
  Session.change (.database "remove role permission") (.grantNotStored id p.key)
    (deleteGrant organization id p.stored)

end Roles

end AccessControl.Database
