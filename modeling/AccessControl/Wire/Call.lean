import AccessControl.Call
import AccessControl.Json.Member
import AccessControl.Wire.Record

/-! # Calls in JSON

A call is a name and a message about an organization. -/

namespace AccessControl

/-- A permission by its two names, in or outside the catalog. -/
def Permission.ofKey? : Json → Option Permission
  | .string s => do
    let names ← split? s
    return {
      resourceType := ← ResourceType.ofStorageName? names.resourceType
      action := ← Action.ofName? names.action }
  | _ => none

def AuditWindow.ofMembers? (j : Json) : Option AuditWindow := do
  return {
    start := ← j.may "from" Instant.decode.ofJson?
    stop := ← j.may "to" Instant.decode.ofJson? }

/-- Without a limit a query is for a thousand entries. -/
def AuditQuery.ofMembers? (j : Json) : Option AuditQuery := do
  return {
    organization := ← j.may "organization_id" Id.decode.ofJson?
    actor := ← j.may "actor" Id.decode.ofJson?
    action := ← j.may "action" Json.text?
    resourceType := ← j.may "resource_type" Json.text?
    permitted := ← j.may "permitted" Json.bool?
    window := ← AuditWindow.ofMembers? j
    limit := ← j.orNull "limit" 1000 Json.count?
    offset := ← j.orNull "offset" 0 Json.count? }

namespace Call

def ofJson? (organization : OrganizationId) (name : String) (j : Json) : Option Call := do
  let user : Option UserId := j.need "user" Id.decode.ofJson?
  let anyUser : Option (Option UserId) := j.may "user" Id.decode.ofJson?
  let roleId : Option RoleId := j.need "role_id" Id.decode.ofJson?
  let delegation := j.need "delegation" Delegation.decode.ofJson?
  let exception := j.need "resource_permission" Override.decode.ofJson?
  match name with
  | "find_membership" => return .findMember organization (← user)
  | "find_role" => return .findRole organization (← roleId)
  | "list_team_ids" => return .listTeams organization (← user)
  | "list_delegations_for_delegatee" => return .listReceivedDelegations organization (← user)
  | "list_resource_permissions_for_user" => return .listReceivedOverrides organization (← user)
  | "list_roles" => return .listRoles organization
  | "find_role_by_key" => return .findRoleByKey organization (← j.need "key" RoleKey.decode.ofJson?)
  | "create_role" => return .createRole (← j.need "role" Role.decode.ofJson?)
  | "update_role" => return .updateRole (← j.need "role" Role.decode.ofJson?)
  | "delete_role" => return .deleteRole organization (← roleId)
  | "count_role_memberships" => return .countMembers organization (← roleId)
  | "count_role_delegations" => return .countDelegations organization (← roleId)
  | "add_role_grant" =>
    return .addGrant organization (← roleId) (← j.need "grant" RoleGrant.decode.ofJson?)
  | "remove_role_grant" =>
    return .removeGrant organization (← roleId) (← j.need "permission" Permission.ofKey?)
  | "set_membership_role" =>
    return .setMemberRole organization (← user) (← j.need "role" MemberRole.decode.ofJson?)
  | "create_delegation" => return .createDelegation (← delegation)
  | "find_delegation" => return .findDelegation organization (← j.need "id" Id.decode.ofJson?)
  | "save_delegation" => return .saveDelegation (← delegation)
  | "list_delegations" => return .listDelegations organization (← anyUser)
  | "create_resource_permission" => return .createOverride (← exception)
  | "find_resource_permission" =>
    return .findOverride organization (← j.need "id" Id.decode.ofJson?)
  | "save_resource_permission" => return .saveOverride (← exception)
  | "list_resource_permissions" => return .listOverrides organization (← anyUser)
  | "get_rule_set" => return .cachedRules organization (← user)
  | "set_rule_set" =>
    return .cacheRules organization (← user) (← j.need "rule_set" RuleSet.decode.ofJson?)
      (← j.need "ttl" Json.seconds?)
  | "invalidate_actor" => return .forgetUser organization (← user)
  | "invalidate_organization" => return .forgetOrganization organization
  | "append_entry" => return .appendEntry (← j.need "entry" AuditEntry.decode.ofJson?)
  | "list_entries" => return .listEntries (← AuditQuery.ofMembers? j)
  | "summarize" =>
    return .summarize (← j.may "organization_id" Id.decode.ofJson?) (← AuditWindow.ofMembers? j)
  | "purge_entries_older_than" => return .purgeEntries organization (← j.need "days" Json.days?)
  | _ => none

/-- The reply to a call. A call for its effect alone has none to speak of. -/
def replyJson : (c : Call) → c.Reply → Json
  | newId _, r => r.toJson
  | findMember .., r => .ofOption Member.toJson r
  | findRole .., r | findRoleByKey .., r => .ofOption Role.toJson r
  | listTeams .., r => r.toJson
  | listReceivedDelegations .., r | listDelegations .., r => .ofList Delegation.toJson r
  | listReceivedOverrides .., r | listOverrides .., r => .ofList Override.toJson r
  | listRoles _, r => .ofList Role.toJson r
  | countMembers .., r | countDelegations .., r | purgeEntries .., r => .ofNat r
  | setMemberRole .., r => r.toJson
  | findDelegation .., r => .ofOption Delegation.toJson r
  | findOverride .., r => .ofOption Override.toJson r
  | cachedRules .., r => .ofOption RuleSet.toJson r
  | listEntries _, r => .ofList AuditEntry.toJson r
  | summarize .., r => r.toJson
  | createRole _, _ | updateRole _, _ | deleteRole .., _ | addGrant .., _ | removeGrant .., _
  | createDelegation _, _ | saveDelegation _, _ | createOverride _, _ | saveOverride _, _
  | cacheRules .., _ | forgetUser .., _ | forgetOrganization _, _ | appendEntry _, _ => .null

end Call

end AccessControl
