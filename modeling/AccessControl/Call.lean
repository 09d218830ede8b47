import AccessControl.Audit.Entry
import AccessControl.Program
import AccessControl.Resolution

/-! # The calls of the services

The services reach what is stored, the capability cache and the audit log through these calls
alone. -/

namespace AccessControl

inductive Call where
  -- Identifiers
  | newId (kind : Entity)
  -- What a user's rules are made of
  | findMember (organization : OrganizationId) (user : UserId)
  | findRole (organization : OrganizationId) (id : RoleId)
  | listTeams (organization : OrganizationId) (user : UserId)
  | listReceivedDelegations (organization : OrganizationId) (user : UserId)
  | listReceivedOverrides (organization : OrganizationId) (user : UserId)
  -- Roles and memberships
  | listRoles (organization : OrganizationId)
  | findRoleByKey (organization : OrganizationId) (key : RoleKey)
  | createRole (role : Role)
  | updateRole (role : Role)
  | deleteRole (organization : OrganizationId) (id : RoleId)
  | countMembers (organization : OrganizationId) (id : RoleId)
  | countDelegations (organization : OrganizationId) (id : RoleId)
  | addGrant (organization : OrganizationId) (id : RoleId) (grant : RoleGrant)
  | removeGrant (organization : OrganizationId) (id : RoleId) (permission : Permission)
  | setMemberRole (organization : OrganizationId) (user : UserId) (role : MemberRole)
  -- Delegations and overrides
  | createDelegation (delegation : Delegation)
  | findDelegation (organization : OrganizationId) (id : DelegationId)
  | saveDelegation (delegation : Delegation)
  | listDelegations (organization : OrganizationId) (user : Option UserId)
  | createOverride (override : Override)
  | findOverride (organization : OrganizationId) (id : OverrideId)
  | saveOverride (override : Override)
  | listOverrides (organization : OrganizationId) (user : Option UserId)
  -- The capability cache
  | cachedRules (organization : OrganizationId) (user : UserId)
  | cacheRules (organization : OrganizationId) (user : UserId) (rules : RuleSet) (ttl : Nat)
  | forgetUser (organization : OrganizationId) (user : UserId)
  | forgetOrganization (organization : OrganizationId)
  -- The audit log
  | appendEntry (entry : AuditEntry)
  | listEntries (query : AuditQuery)
  | summarize (organization : Option OrganizationId) (window : AuditWindow)
  | purgeEntries (organization : OrganizationId) (days : Nat)

namespace Call

abbrev Reply : Call → Type
  | newId kind => Id kind
  | findMember .. => Option Member
  | findRole .. => Option Role
  | listTeams .. => TextSet
  | listReceivedDelegations .. => List Delegation
  | listReceivedOverrides .. => List Override
  | listRoles .. => List Role
  | findRoleByKey .. => Option Role
  | createRole .. => Unit
  | updateRole .. => Unit
  | deleteRole .. => Unit
  | countMembers .. => Nat
  | countDelegations .. => Nat
  | addGrant .. => Unit
  | removeGrant .. => Unit
  | setMemberRole .. => Member
  | createDelegation .. => Unit
  | findDelegation .. => Option Delegation
  | saveDelegation .. => Unit
  | listDelegations .. => List Delegation
  | createOverride .. => Unit
  | findOverride .. => Option Override
  | saveOverride .. => Unit
  | listOverrides .. => List Override
  | cachedRules .. => Option RuleSet
  | cacheRules .. => Unit
  | forgetUser .. => Unit
  | forgetOrganization .. => Unit
  | appendEntry .. => Unit
  | listEntries .. => List AuditEntry
  | summarize .. => AuditSummary
  | purgeEntries .. => Nat

/-- The name of the call, for those that can be out of order. -/
def name? : Call → Option String
  | newId _ => none
  | findMember .. => some "find_membership"
  | findRole .. => some "find_role"
  | listTeams .. => some "list_team_ids"
  | listReceivedDelegations .. => some "list_delegations_for_delegatee"
  | listReceivedOverrides .. => some "list_resource_permissions_for_user"
  | listRoles .. => some "list_roles"
  | findRoleByKey .. => some "find_role_by_key"
  | createRole .. => some "create_role"
  | updateRole .. => some "update_role"
  | deleteRole .. => some "delete_role"
  | countMembers .. => some "count_role_memberships"
  | countDelegations .. => some "count_role_delegations"
  | addGrant .. => some "add_role_grant"
  | removeGrant .. => some "remove_role_grant"
  | setMemberRole .. => some "set_membership_role"
  | createDelegation .. => some "create_delegation"
  | findDelegation .. => some "find_delegation"
  | saveDelegation .. => some "save_delegation"
  | listDelegations .. => some "list_delegations"
  | createOverride .. => some "create_resource_permission"
  | findOverride .. => some "find_resource_permission"
  | saveOverride .. => some "save_resource_permission"
  | listOverrides .. => some "list_resource_permissions"
  | cachedRules .. => some "get_rule_set"
  | cacheRules .. => some "set_rule_set"
  | forgetUser .. => some "invalidate_actor"
  | forgetOrganization .. => some "invalidate_organization"
  | appendEntry .. => some "append_entry"
  | listEntries .. => some "list_entries"
  | summarize .. => some "summarize"
  | purgeEntries .. => some "purge_entries_older_than"

end Call

/-- A program over the calls of the services. -/
abbrev Service (α : Type) := Program Call Call.Reply α

namespace Service

/-- Make a call and fail as it fails. -/
def ask (c : Call) : Service c.Reply := Program.perform c

/-- Make a call for its effect only, and go on if it fails. -/
def tell (c : Call) : Service Unit := do
  let _ ← (Program.perform c : Service c.Reply).attempt

/-- What was looked for, or a fault where there is nothing. -/
def found {α : Type} (fault : Fault) : Option α → Service α
  | some a => pure a
  | none => .fail fault

end Service

end AccessControl
