import AccessControl.Role

/-! # The roles every organization starts with

Memberships can name these roles directly, and they are also created as roles of their own. Both
have the grants of the template. -/

namespace AccessControl

/-- The fixed roles that a membership can name. -/
inductive LegacyRole where
  | owner
  | admin
  | member
  | viewer
deriving DecidableEq, Repr

namespace LegacyRole

def all : List LegacyRole := [owner, admin, member, viewer]

/-- The stored name, which is also the key of the role made from the template. -/
def name : LegacyRole → String
  | owner => "owner"
  | admin => "admin"
  | member => "member"
  | viewer => "viewer"

def ofName? (s : String) : Option LegacyRole := all.find? fun r => r.name = s

def parse (s : String) : Outcome LegacyRole :=
  match ofName? s with
  | some r => .ok r
  | none => .error (.unknownLegacyRole s)

@[simp] theorem ofName?_name (r : LegacyRole) : ofName? r.name = some r := by
  cases r <;> decide

/-- The name that is displayed. -/
def title : LegacyRole → String
  | owner => "Owner"
  | admin => "Administrator"
  | member => "Member"
  | viewer => "Viewer"

def priority : LegacyRole → RolePriority
  | owner => .owner
  | admin => .admin
  | member => .member
  | viewer => .viewer

def key (r : LegacyRole) : RoleKey := ⟨r.name, by cases r <;> decide⟩

def everyType (action : Action) : List RoleGrant :=
  ResourceType.all.map fun t => .unconditional ⟨t, action⟩

/-- Destroying the organization and defining roles is left to owners. -/
def adminGrants : List RoleGrant :=
  (ResourceType.all.filter fun t => t ≠ .organization ∧ t ≠ .role).map
      (fun t => .unconditional ⟨t, .manage⟩)
    ++ [.unconditional ⟨.organization, .read⟩, .unconditional ⟨.organization, .update⟩,
      .unconditional ⟨.role, .read⟩]

/-- What members may create. -/
def memberTypes : List ResourceType :=
  [.project, .sprint, .task, .pomodoroSession, .comment, .dashboard, .notification]

def ownGrant (permission : Permission) : RoleGrant :=
  { permission := permission.stored, conditions := { ownOnly := true } }

def memberGrants : List RoleGrant :=
  everyType .read ++ (memberTypes.map fun t => .unconditional ⟨t, .create⟩)
    ++ [ownGrant ⟨.task, .update⟩, ownGrant ⟨.pomodoroSession, .manage⟩]

def grants : LegacyRole → List RoleGrant
  | owner => everyType .manage
  | admin => adminGrants
  | member => memberGrants
  | viewer => everyType .read

/-- The role made from the template. It can be neither changed nor deleted. -/
def toRole (r : LegacyRole) (id : RoleId) (organization : OrganizationId) : Role :=
  { id, organization, key := r.key, name := r.title, priority := r.priority, isSystem := true,
    isEditable := false, grants := r.grants }

end LegacyRole

end AccessControl
