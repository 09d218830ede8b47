import AccessControl.Administration.AuditLog
import AccessControl.Administration.Overrides
import AccessControl.Administration.Roles

/-! # The operations of administration -/

namespace AccessControl.Administration

inductive Operation where
  | listRoles
  | createRole (draft : RoleDraft)
  | duplicateRole (id : RoleId) (copy : RoleCopy)
  | updateRole (id : RoleId) (change : RoleChange)
  | deleteRole (id : RoleId)
  | assignRole (user : UserId) (id : RoleId)
  | addPermission (id : RoleId) (draft : GrantDraft)
  | removePermission (id : RoleId) (permission : Permission)
  | createDelegation (request : DelegationRequest)
  | revokeDelegation (id : DelegationId)
  | extendDelegation (id : DelegationId) (endsAt : Instant)
  | listDelegations (f : ListFilter)
  | grantOverride (request : OverrideRequest)
  | revokeOverride (id : OverrideId)
  | extendOverride (id : OverrideId) (expiresAt : Instant)
  | listOverrides (f : ListFilter)
  | listEntries (q : AuditQuery)
  | auditSummary (window : AuditWindow)
  | exportEntries (window : AuditWindow)
  | purgeEntries (days : Nat)
deriving DecidableEq, Repr

namespace Operation

abbrev Result : Operation → Type
  | listRoles => List Role
  | createRole _ | duplicateRole .. | updateRole .. => Role
  | deleteRole _ => Unit
  | assignRole .. => Member
  | addPermission .. | removePermission .. => Role
  | createDelegation _ | revokeDelegation _ | extendDelegation .. => Delegation
  | listDelegations _ => List Delegation
  | grantOverride _ | revokeOverride _ | extendOverride .. => Override
  | listOverrides _ => List Override
  | listEntries _ | exportEntries _ => List AuditEntry
  | auditSummary _ => AuditSummary
  | purgeEntries _ => Nat

/-- The program of an operation. -/
def perform (s : Setting) (actor : Actor) : (op : Operation) → Service op.Result
  | listRoles => Administration.listRoles s actor
  | createRole draft => Administration.createRole s actor draft
  | duplicateRole id copy => Administration.duplicateRole s actor id copy
  | updateRole id change => Administration.updateRole s actor id change
  | deleteRole id => Administration.deleteRole s actor id
  | assignRole user id => Administration.assignRole s actor user id
  | addPermission id draft => Administration.addPermission s actor id draft
  | removePermission id permission => Administration.removePermission s actor id permission
  | createDelegation request => Administration.createDelegation s actor request
  | revokeDelegation id => Administration.revokeDelegation s actor id
  | extendDelegation id endsAt => Administration.extendDelegation s actor id endsAt
  | listDelegations f => Administration.listDelegations s actor f
  | grantOverride request => Administration.grantOverride s actor request
  | revokeOverride id => Administration.revokeOverride s actor id
  | extendOverride id expiresAt => Administration.extendOverride s actor id expiresAt
  | listOverrides f => Administration.listOverrides s actor f
  | listEntries q => Administration.listEntries s actor q
  | auditSummary window => Administration.auditSummary s actor window
  | exportEntries window => Administration.exportEntries s actor window
  | purgeEntries days => Administration.purgeEntries s actor days

end Operation

end AccessControl.Administration
