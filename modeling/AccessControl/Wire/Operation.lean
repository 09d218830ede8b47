import AccessControl.Administration.Operation
import AccessControl.Wire.Call

/-! # Operations of administration in JSON -/

namespace AccessControl

def GrantDraft.ofMembers? (j : Json) : Option GrantDraft := do
  return {
    permission := ← j.need "permission" Permission.ofKey?
    conditions := ← j.orNull "conditions" {} GrantConditions.decode.ofJson?
    scope := ← j.orNull "scope" {} GrantScope.decode.ofJson? }

def ListFilter.ofMembers? (j : Json) : Option ListFilter := do
  return {
    user := ← j.may "user" Id.decode.ofJson?
    activeOnly := ← j.orNull "active_only" false Json.bool? }

namespace Administration.Operation

def ofJson? (name : String) (j : Json) : Option Operation := do
  let roleId : Option RoleId := j.need "role_id" Id.decode.ofJson?
  match name with
  | "list_roles" => return .listRoles
  | "create_role" =>
    return .createRole {
      key := ← j.need "key" Json.text?
      name := ← j.need "name" Json.text?
      priority := ← j.need "priority" Json.int64?
      grants := ← j.need "grants" (Json.list? GrantDraft.ofMembers?) }
  | "duplicate_role" =>
    return .duplicateRole (← roleId)
      { key := ← j.need "key" Json.text?, name := ← j.need "name" Json.text? }
  | "update_role" =>
    return .updateRole (← roleId)
      { name := ← j.may "name" Json.text?, priority := ← j.may "priority" Json.int64? }
  | "delete_role" => return .deleteRole (← roleId)
  | "assign_role" => return .assignRole (← j.need "user" Id.decode.ofJson?) (← roleId)
  | "add_permission" => return .addPermission (← roleId) (← GrantDraft.ofMembers? j)
  | "remove_permission" =>
    return .removePermission (← roleId) (← j.need "permission" Permission.ofKey?)
  | "create_delegation" =>
    return .createDelegation {
      delegatee := ← j.need "user" Id.decode.ofJson?
      role := ← j.may "role_id" Id.decode.ofJson?
      permissions := ← j.orNull "permissions" [] (Json.list? Permission.ofKey?)
      startsAt := ← j.need "starts_at" Instant.decode.ofJson?
      endsAt := ← j.need "ends_at" Instant.decode.ofJson?
      reason := ← j.may "reason" Json.text? }
  | "revoke_delegation" => return .revokeDelegation (← j.need "id" Id.decode.ofJson?)
  | "extend_delegation" =>
    let stop ← j.need "ends_at" Instant.decode.ofJson?
    return .extendDelegation (← j.need "id" Id.decode.ofJson?) stop
  | "list_delegations" => return .listDelegations (← ListFilter.ofMembers? j)
  | "grant_override" =>
    return .grantOverride {
      user := ← j.need "user" Id.decode.ofJson?
      permission := ← j.need "permission" Permission.ofKey?
      resourceId := ← j.need "resource_id" Json.text?
      granted := ← j.need "granted" Json.bool?
      expiresAt := ← j.may "expires_at" Instant.decode.ofJson? }
  | "revoke_override" => return .revokeOverride (← j.need "id" Id.decode.ofJson?)
  | "extend_override" =>
    let stop ← j.need "expires_at" Instant.decode.ofJson?
    return .extendOverride (← j.need "id" Id.decode.ofJson?) stop
  | "list_overrides" => return .listOverrides (← ListFilter.ofMembers? j)
  | "list_audit" => return .listEntries (← AuditQuery.ofMembers? j)
  | "audit_summary" => return .auditSummary (← AuditWindow.ofMembers? j)
  | "export_audit" => return .exportEntries (← AuditWindow.ofMembers? j)
  | "purge_audit" => return .purgeEntries (← j.need "days" Json.days?)
  | _ => none

def resultJson : (op : Operation) → op.Result → Json
  | listRoles, r => .ofList Role.toJson r
  | createRole _, r | duplicateRole .., r | updateRole .., r | addPermission .., r
  | removePermission .., r => Role.toJson r
  | deleteRole _, _ => .null
  | assignRole .., r => Member.toJson r
  | createDelegation _, r | revokeDelegation _, r | extendDelegation .., r => Delegation.toJson r
  | listDelegations _, r => .ofList Delegation.toJson r
  | grantOverride _, r | revokeOverride _, r | extendOverride .., r => Override.toJson r
  | listOverrides _, r => .ofList Override.toJson r
  | listEntries _, r | exportEntries _, r => .ofList AuditEntry.toJson r
  | auditSummary _, r => r.toJson
  | purgeEntries _, r => .ofNat r

end Administration.Operation

end AccessControl
