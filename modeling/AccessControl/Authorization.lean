import AccessControl.Audit.Service
import AccessControl.Setting

/-! # Authorization

Decisions about what a user may do in an organization, made by the rule set of the user. Rule sets
are remembered where there is a cache, and a cache that fails is as good as none. -/

namespace AccessControl.Authorization

open Service

/-! ## Rule sets -/

def findRole? (organization : OrganizationId) : Option RoleId → Service (Option Role)
  | none => pure none
  | some id => ask (.findRole organization id)

/-- Each delegation with the role that it hands over. -/
def withRoles (organization : OrganizationId) : List Delegation → Service (List DelegatedAccess)
  | [] => pure []
  | delegation :: rest => do
    let role ← findRole? organization delegation.role
    let others ← withRoles organization rest
    return ⟨delegation, role⟩ :: others

/-- All that is stored about a user; of one who is no member, nothing. -/
def sources (organization : OrganizationId) (user : UserId) : Service GrantSources := do
  match ← ask (.findMember organization user) with
  | none => return {}
  | some membership =>
    let role ← findRole? organization membership.role.roleId?
    let delegations ← withRoles organization (← ask (.listReceivedDelegations organization user))
    let teams ← ask (.listTeams organization user)
    let overrides ← ask (.listReceivedOverrides organization user)
    return { membership := some membership, role, teams, delegations, overrides }

def remembered (s : Setting) (organization : OrganizationId) (user : UserId) :
    Service (Option RuleSet) :=
  match s.ttl? with
  | none => pure none
  | some _ => do
    match ← (ask (.cachedRules organization user)).attempt with
    | .ok rules => return rules
    | .error _ => return none

def remember (s : Setting) (organization : OrganizationId) (user : UserId) (rules : RuleSet) :
    Service Unit :=
  match s.ttl? with
  | none => pure ()
  | some ttl => tell (.cacheRules organization user rules ttl)

def memberRuleSet (s : Setting) (organization : OrganizationId) (user : UserId) :
    Service RuleSet := do
  match ← remembered s organization user with
  | some rules => return rules
  | none =>
    let rules := resolve (some user) organization (← sources organization user) s.now
    remember s organization user rules
    return rules

def ruleSet (s : Setting) (organization : OrganizationId) : Option UserId → Service RuleSet
  | none => pure (guestRuleSet organization)
  | some user => memberRuleSet s organization user

def forgetUser (s : Setting) (organization : OrganizationId) (user : UserId) : Service Unit :=
  match s.cacheTtl with
  | none => pure ()
  | some _ => tell (.forgetUser organization user)

def forgetOrganization (s : Setting) (organization : OrganizationId) : Service Unit :=
  match s.cacheTtl with
  | none => pure ()
  | some _ => tell (.forgetOrganization organization)

/-! ## Decisions -/

def explain (s : Setting) (organization : OrganizationId) (user : Option UserId) (action : Action)
    (target : Target) : Service Explanation := do
  return (← ruleSet s organization user).explain action target

def authorize (s : Setting) (organization : OrganizationId) (user : Option UserId)
    (action : Action) (target : Target) : Service Bool := do
  return (← ruleSet s organization user).permits action target

def capabilities (s : Setting) (organization : OrganizationId) (user : Option UserId) :
    Service (List Permission) := do
  return (← ruleSet s organization user).capabilities

def effectivePriority (organization : OrganizationId) (user : UserId) :
    Service (Option RolePriority) := do
  return (← sources organization user).effectivePriority? user organization

/-- The audit record of a decision. -/
def decisionRecord (organization : OrganizationId) (user : Option UserId) (context : RequestContext)
    (action : Action) (target : Target) (e : Explanation) : AuditRecord where
  organization
  actor := user
  action := action.name
  resourceType := some target.resourceType.name
  resourceId := target.resource?.map (·.id)
  permitted := e.permitted
  context := [("matching_rule_source", .ofOption (fun source => .string source.name) e.source)]
  ipAddress := context.ipAddress
  userAgent := context.userAgent

def recordDecision (s : Setting) (r : AuditRecord) : Service Unit :=
  if s.auditsChecks then do
    let _ ← Audit.record s.now r
  else pure ()

/-- Explain a check and enter the decision into the log. -/
def decide (s : Setting) (organization : OrganizationId) (user : Option UserId)
    (context : RequestContext) (action : Action) (target : Target) : Service Explanation := do
  let e ← explain s organization user action target
  recordDecision s (decisionRecord organization user context action target e)
  return e

/-- Enter a refusal into the log and fail. -/
def refuse (s : Setting) (actor : Actor) (action : Action) (target : Target) (e : Explanation) :
    Service Unit := do
  recordDecision s
    (decisionRecord actor.organization (some actor.user) actor.context action target e)
  .fail (.notPermitted actor.user action.name target.resourceType.name actor.organization)

/-- Fail unless the actor may do it. -/
def require (s : Setting) (actor : Actor) (action : Action) (target : Target) : Service Unit := do
  let e ← explain s actor.organization (some actor.user) action target
  if e.permitted then pure () else refuse s actor action target e

end AccessControl.Authorization
