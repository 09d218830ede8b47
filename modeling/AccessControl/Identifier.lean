import AccessControl.Text.Blank
import AccessControl.Uuid

/-! # Identifiers -/

namespace AccessControl

/-- The kinds of records that have identifiers of their own. -/
inductive Entity where
  | organization
  | user
  | role
  | delegation
  | override
  | auditEntry
deriving DecidableEq, Repr

/-- The identifier of a record of one kind. -/
structure Id (kind : Entity) where
  uuid : Uuid
deriving DecidableEq, Repr

abbrev OrganizationId := Id .organization

abbrev UserId := Id .user

abbrev RoleId := Id .role

abbrev DelegationId := Id .delegation

abbrev OverrideId := Id .override

abbrev AuditEntryId := Id .auditEntry

/-- The name under which messages mention the identifiers of a kind. -/
def Entity.idName : Entity → String
  | .organization => "OrganizationId"
  | .user => "UserId"
  | .role => "RoleId"
  | .delegation => "DelegationId"
  | .override => "ResourcePermissionId"
  | .auditEntry => "AuditLogEntryId"

namespace Id

variable {kind : Entity}

def toString (id : Id kind) : String := id.uuid.toString

instance : ToString (Id kind) := ⟨toString⟩

instance : LE (Id kind) := ⟨fun a b => a.uuid ≤ b.uuid⟩

instance (a b : Id kind) : Decidable (a ≤ b) := inferInstanceAs (Decidable (a.uuid ≤ b.uuid))

/-- Any written form of a UUID, with nothing around it. -/
def ofText? (s : String) : Option (Id kind) := (Uuid.parse? s).map Id.mk

theorem ofText?_toString (id : Id kind) : ofText? id.toString = some id := by
  rw [ofText?, toString, Uuid.parse?_toString]
  rfl

end Id

end AccessControl
