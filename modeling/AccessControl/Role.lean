import AccessControl.Permission

/-! # Roles -/

namespace AccessControl

/-! ## Keys and priorities -/

namespace RoleKey

def isLower (c : Char) : Bool := 'a' ≤ c ∧ c ≤ 'z'

def isKeyChar (c : Char) : Bool := isLower c || c.isDigit || c = '_'

/-- Why a text is no role key. -/
def fault? (s : String) : Option Fault :=
  if s.isEmpty ∨ 50 < s.utf8ByteSize then some .roleKeyLength
  else if !(s.toList.head?.any isLower) then some (.roleKeyStart s)
  else if !s.toList.all isKeyChar then some (.roleKeyCharacters s)
  else none

end RoleKey

/-- A short name made of lower-case letters, digits and underscores, a letter first. -/
structure RoleKey where
  text : String
  valid : RoleKey.fault? text = none
deriving DecidableEq, Repr

namespace RoleKey

instance : ToString RoleKey := ⟨text⟩

def parse (s : String) : Outcome RoleKey :=
  match h : fault? s with
  | some fault => .error fault
  | none => .ok ⟨s, h⟩

@[simp] theorem parse_text (key : RoleKey) : parse key.text = .ok key := by
  obtain ⟨s, h⟩ := key
  rw [parse]
  split
  · rename_i fault hf
    rw [h] at hf
    contradiction
  · rfl

end RoleKey

/-- How much authority a role carries. -/
structure RolePriority where
  value : Nat
  le_max : value ≤ 1000 := by decide
deriving DecidableEq, Repr

namespace RolePriority

instance : LE RolePriority := ⟨fun a b => a.value ≤ b.value⟩

instance : LT RolePriority := ⟨fun a b => a.value < b.value⟩

instance (a b : RolePriority) : Decidable (a ≤ b) := inferInstanceAs (Decidable (a.value ≤ b.value))

instance (a b : RolePriority) : Decidable (a < b) := inferInstanceAs (Decidable (a.value < b.value))

/-- From here on a role administers memberships. -/
def admin : RolePriority := ⟨80, by decide⟩

/-- From here on a role may do everything. -/
def owner : RolePriority := ⟨100, by decide⟩

def member : RolePriority := ⟨50, by decide⟩

def viewer : RolePriority := ⟨10, by decide⟩

def isAdmin (p : RolePriority) : Bool := admin ≤ p

def isOwner (p : RolePriority) : Bool := owner ≤ p

def parse (value : Int) : Outcome RolePriority :=
  if value < 0 then .error (.negativePriority value)
  else if h : value.toNat ≤ 1000 then .ok ⟨value.toNat, h⟩
  else .error (.excessivePriority value)

@[simp] theorem parse_value (p : RolePriority) : parse p.value = .ok p := by
  obtain ⟨n, h⟩ := p
  simp [parse, h]

end RolePriority

/-! ## Conditions and scopes of a grant -/

/-- Hours of the day, the last one excluded. A window that starts at or after its end goes past
midnight. -/
structure HourWindow where
  start : UInt8
  stop : UInt8
deriving DecidableEq, Repr

namespace HourWindow

def parse (start stop : UInt8) : Outcome HourWindow :=
  if 23 < start ∨ 24 < stop then .error (.hoursOutOfRange start.toNat stop.toNat)
  else if start = stop then .error .emptyHours
  else .ok ⟨start, stop⟩

def contains (w : HourWindow) (hour : Nat) : Bool :=
  if w.start < w.stop then w.start.toNat ≤ hour && hour < w.stop.toNat
  else w.start.toNat ≤ hour || hour < w.stop.toNat

end HourWindow

/-- Conditions that narrow a grant. -/
structure GrantConditions where
  ownOnly : Bool := false
  teamOnly : Bool := false
  timeRestricted : Bool := false
  /-- Matters only when the grant is restricted in time. -/
  hours : Option HourWindow := none
deriving DecidableEq, Repr

namespace GrantConditions

def isUnconditional (c : GrantConditions) : Bool := !c.ownOnly && !c.teamOnly && !c.timeRestricted

def validate (c : GrantConditions) : Outcome Unit :=
  if c.timeRestricted ∧ c.hours.isNone then .error .hoursMissing else .ok ()

end GrantConditions

/-- The services to which a grant is limited. -/
structure GrantScope where
  services : Option (List String) := none
deriving DecidableEq, Repr

namespace GrantScope

def isUnrestricted (s : GrantScope) : Bool := s.services.isNone

def validate (s : GrantScope) : Outcome Unit :=
  match s.services with
  | none => .ok ()
  | some ids =>
    if ids.isEmpty then .error .emptyScope
    else if ids.any Text.allBlank then .error .blankScopeId
    else .ok ()

end GrantScope

/-! ## Grants and roles -/

structure RoleGrant where
  permission : StoredPermission
  conditions : GrantConditions := {}
  scope : GrantScope := {}
deriving DecidableEq, Repr

namespace RoleGrant

/-- A grant of a permission of the catalog, with valid conditions and scope. -/
def create (permission : Permission) (conditions : GrantConditions) (scope : GrantScope) :
    Outcome RoleGrant := do
  if !permission.isCataloged then throw (.outsideCatalog permission.key)
  conditions.validate
  scope.validate
  return { permission := permission.stored, conditions, scope }

def unconditional (permission : Permission) : RoleGrant := { permission := permission.stored }

end RoleGrant

/-- A name that shows something. -/
def checkName (s : String) : Outcome String :=
  if Text.allBlank s then .error .blankText else .ok s

/-- A bundle of grants of one organization. -/
structure Role where
  id : RoleId
  organization : OrganizationId
  /-- Unique in the organization. -/
  key : RoleKey
  name : String
  priority : RolePriority
  isSystem : Bool
  isEditable : Bool
  grants : List RoleGrant
deriving DecidableEq, Repr

/-- The grant of a permission, under whichever of its names it is kept. -/
def Role.grantFor? (role : Role) (permission : Permission) : Option RoleGrant :=
  role.grants.find? fun g => g.permission.resolve? = some permission

end AccessControl
