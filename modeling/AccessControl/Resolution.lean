import AccessControl.Delegation
import AccessControl.Member
import AccessControl.Override
import AccessControl.Rule

/-! # The rules of a user

What is stored about a user in an organization becomes a rule set, layer by layer: the grants of
the role, the authority of its priority, delegations, overrides. Later layers win. -/

namespace AccessControl

/-- A delegation and the role that it hands over, if that was found. -/
structure DelegatedAccess where
  delegation : Delegation
  role : Option Role
deriving DecidableEq, Repr

/-- All that is stored about one user in one organization. -/
structure GrantSources where
  membership : Option Member := none
  /-- The role that the membership refers to. -/
  role : Option Role := none
  teams : TextSet := .empty
  delegations : List DelegatedAccess := []
  overrides : List Override := []
deriving DecidableEq, Repr

/-- What counts of a member's role. -/
structure BaseRole where
  priority : RolePriority
  grants : List RoleGrant
deriving DecidableEq, Repr

namespace BaseRole

def ofLegacy (r : LegacyRole) : BaseRole := ⟨r.priority, r.grants⟩

def ofRole (r : Role) : BaseRole := ⟨r.priority, r.grants⟩

end BaseRole

/-- The role, if it is the one asked for. -/
def Role.matching? (role : Option Role) (id : RoleId) (organization : OrganizationId) :
    Option Role :=
  role.filter fun r => r.id = id && r.organization = organization

namespace GrantSources

/-- The role of an active member. A role that is missing makes the member a guest. -/
def baseRole? (s : GrantSources) (user : UserId) (organization : OrganizationId) :
    Option BaseRole := do
  let membership ← s.membership.filter (·.isActiveFor user organization)
  match membership.role with
  | .legacy r => some (.ofLegacy r)
  | .dynamic id => (Role.matching? s.role id organization).map .ofRole

/-- The priority of the member's own role, which delegations do not raise. -/
def effectivePriority? (s : GrantSources) (user : UserId) (organization : OrganizationId) :
    Option RolePriority :=
  (s.baseRole? user organization).map (·.priority)

end GrantSources

/-- The user whose rules are made, where, and at which hour. -/
structure Bearer where
  user : UserId
  organization : OrganizationId
  teams : TextSet
  hour : Nat
deriving DecidableEq, Repr

/-- The key of the role whose members administrators cannot touch. -/
def ownerRoleKey : String := "owner"

namespace Bearer

/-- A grant that is not restricted in time applies at every hour. -/
def inHours (b : Bearer) (c : GrantConditions) : Bool :=
  !c.timeRestricted || c.hours.any (·.contains b.hour)

def grantConditions (b : Bearer) (t : ResourceType) (g : RoleGrant) : List RuleCondition :=
  (if g.conditions.ownOnly then [.ownedBy t.ownerFields b.user] else [])
    ++ (if g.conditions.teamOnly then [.inTeams b.teams] else [])
    ++ (g.scope.services.map fun ids => RuleCondition.inServices (.ofList ids)).toList

/-- A grant of an unknown permission, or one outside its hours, makes no rule. -/
def grantRule? (b : Bearer) (source : RuleSource) (g : RoleGrant) : Option Rule := do
  let p ← g.permission.resolve?
  if b.inHours g.conditions then
    some (.grant p.action (.only p.resourceType) source (b.grantConditions p.resourceType g))
  else none

/-- The authority that comes with a priority: from the administrators' level on over the
memberships of others than owners, and from the owners' level on over everything. -/
def escalationRules (b : Bearer) (source : RuleSource) (priority : RolePriority) : List Rule :=
  (if priority.isAdmin then
    [.changeRole, .toggleActive, .manage].map (fun a =>
        Rule.grant a (.only .membership) source [.inOrganization b.organization])
      ++ [.update, .destroy, .changeRole].map (fun a =>
        Rule.deny a (.only .membership) source [.holdsRole ownerRoleKey])
  else [])
    ++ (if priority.isOwner then [Rule.grant .manage .all source] else [])

def roleRules (b : Bearer) (grantSource escalationSource : RuleSource) (role : BaseRole) :
    List Rule :=
  role.grants.filterMap (b.grantRule? grantSource)
    ++ b.escalationRules escalationSource role.priority

/-- A delegated role that is missing gives nothing, and so does an unknown permission. -/
def delegationRules (b : Bearer) (access : DelegatedAccess) : List Rule :=
  match access.delegation.role with
  | some id =>
    match Role.matching? access.role id b.organization with
    | some role => b.roleRules .delegation .delegation (.ofRole role)
    | none => []
  | none => access.delegation.permissions.filterMap fun names =>
    names.resolve?.map fun p => .grant p.action (.only p.resourceType) .delegation

def overrideRule? (b : Bearer) (o : Override) : Option Rule :=
  o.resolve?.map fun p =>
    { effect := if o.granted then .grant else .deny
      action := p.action
      subject := .only p.resourceType
      conditions := [.inOrganization b.organization, .isResource o.resourceId]
      source := .override }

/-- The delegation counts for the bearer at the time. -/
def receives (b : Bearer) (now : Instant) (access : DelegatedAccess) : Bool :=
  access.delegation.delegatee = b.user && access.delegation.organization = b.organization
    && access.delegation.isActiveAt now

/-- The override counts for the bearer at the time. -/
def isExcepted (b : Bearer) (now : Instant) (o : Override) : Bool :=
  o.user = b.user && o.organization = b.organization && o.isActiveAt now

end Bearer

/-- The older of two records comes first, and of two of one age the one with the lower id. -/
def comesBefore {kind : Entity} (a b : Instant × Id kind) : Bool :=
  a.1 < b.1 || (a.1 = b.1 && a.2 ≤ b.2)

def DelegatedAccess.age (a : DelegatedAccess) : Instant × DelegationId :=
  (a.delegation.createdAt, a.delegation.id)

def Override.age (o : Override) : Instant × OverrideId := (o.createdAt, o.id)

def guestRule (organization : OrganizationId) : Rule :=
  .grant .read (.only .organization) .guest [.inOrganization organization, .activeOrganization]

/-- Whoever is no member may see that an active organization exists. -/
def guestRuleSet (organization : OrganizationId) : RuleSet :=
  ⟨organization, [guestRule organization]⟩

/-- The rules of a member at a time. -/
def memberRules (b : Bearer) (role : BaseRole) (sources : GrantSources) (now : Instant) :
    List Rule :=
  b.roleRules .role .escalation role
    ++ ((sources.delegations.filter (b.receives now)).mergeSort
        fun a b => comesBefore a.age b.age).flatMap b.delegationRules
    ++ ((sources.overrides.filter (b.isExcepted now)).mergeSort
        fun a b => comesBefore a.age b.age).filterMap b.overrideRule?

/-- The rule set of a user, or of nobody in particular, at a time. -/
def resolve (user : Option UserId) (organization : OrganizationId) (sources : GrantSources)
    (now : Instant) : RuleSet :=
  match user with
  | none => guestRuleSet organization
  | some user =>
    match sources.baseRole? user organization with
    | none => guestRuleSet organization
    | some role =>
      ⟨organization, memberRules ⟨user, organization, sources.teams, now.hour⟩ role sources now⟩

end AccessControl
