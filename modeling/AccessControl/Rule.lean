import AccessControl.Resource
import AccessControl.Text.Set

/-! # Rules and their evaluation

A rule set is a list of rules. Of the rules that match a check, the one appended last decides, and
where none matches the answer is no. -/

namespace AccessControl

inductive Effect where
  | grant
  | deny
deriving DecidableEq, Repr

/-- The resource types that a rule is about. -/
inductive RuleSubject where
  | all
  | only (resourceType : ResourceType)
deriving DecidableEq, Repr

/-- A condition on a resource. -/
inductive RuleCondition where
  | ownedBy (fields : List OwnerField) (user : UserId)
  | inTeams (teams : TextSet)
  | inServices (services : TextSet)
  | isResource (id : String)
  | inOrganization (organization : OrganizationId)
  | activeOrganization
  | holdsRole (key : String)
deriving DecidableEq, Repr

/-- The layer that appended a rule. -/
inductive RuleSource where
  | guest
  | role
  | escalation
  | delegation
  | override
deriving DecidableEq, Repr

structure Rule where
  effect : Effect
  action : Action
  subject : RuleSubject
  conditions : List RuleCondition := []
  source : RuleSource
deriving DecidableEq, Repr

structure RuleSet where
  organization : OrganizationId
  rules : List Rule
deriving DecidableEq, Repr

/-- A verdict, and the layer of the rule that decided. -/
structure Explanation where
  permitted : Bool
  source : Option RuleSource
deriving DecidableEq, Repr

namespace Effect

def name : Effect → String
  | grant => "grant"
  | deny => "deny"

def all : List Effect := [grant, deny]

end Effect

namespace RuleSource

def name : RuleSource → String
  | guest => "guest"
  | role => "role"
  | escalation => "escalation"
  | delegation => "delegation"
  | override => "override"

def all : List RuleSource := [guest, role, escalation, delegation, override]

end RuleSource

namespace RuleSubject

def includes : RuleSubject → ResourceType → Bool
  | all, _ => true
  | only t, u => t = u

@[simp] theorem all_includes (t : ResourceType) : all.includes t = true := rfl
@[simp] theorem only_includes (t u : ResourceType) : (only t).includes u = decide (t = u) := rfl

end RuleSubject

namespace RuleCondition

/-- Whether a resource fulfils the condition. -/
def holds : RuleCondition → Resource → Bool
  | ownedBy fields user, r => fields.any fun f => r.owners.get f = some user
  | inTeams teams, r => r.team.any fun t => t ∈ teams
  | inServices services, r => r.serviceScope.any fun s => s ∈ services
  | isResource id, r => r.id = id
  | inOrganization organization, r => r.organization = organization
  | activeOrganization, r => r.resourceType = .organization && r.active
  | holdsRole key, r => r.roleKey = some key

end RuleCondition

namespace Rule

def grant (action : Action) (subject : RuleSubject) (source : RuleSource)
    (conditions : List RuleCondition := []) : Rule :=
  { effect := .grant, action, subject, conditions, source }

def deny (action : Action) (subject : RuleSubject) (source : RuleSource)
    (conditions : List RuleCondition := []) : Rule :=
  { effect := .deny, action, subject, conditions, source }

/-- The rule is about the action on the type, under whatever conditions. -/
def concerns (rule : Rule) (action : Action) (t : ResourceType) : Bool :=
  rule.action.covers action && rule.subject.includes t

/-- The rule decides the check. On a whole type a conditional grant counts, since it permits the
action on some resources, and a conditional denial does not. -/
def applies (rule : Rule) (action : Action) (target : Target) : Bool :=
  rule.concerns action target.resourceType &&
    match target with
    | .ofType _ => rule.conditions.isEmpty || rule.effect = .grant
    | .resource r => rule.conditions.all (·.holds r)

end Rule

namespace Explanation

/-- No rule matched. -/
def byDefault : Explanation := ⟨false, none⟩

def ofRule (rule : Rule) : Explanation := ⟨rule.effect = .grant, some rule.source⟩

end Explanation

namespace RuleSet

/-- The last rule that applies. -/
def deciding? (s : RuleSet) (action : Action) (target : Target) : Option Rule :=
  s.rules.reverse.find? fun rule => rule.applies action target

/-- Resources of other organizations are out of reach. -/
def explain (s : RuleSet) (action : Action) (target : Target) : Explanation :=
  if target.resource?.any fun r => r.organization ≠ s.organization then .byDefault
  else ((s.deciding? action target).map .ofRule).getD .byDefault

def permits (s : RuleSet) (action : Action) (target : Target) : Bool :=
  (s.explain action target).permitted

/-- The permissions of the catalog that are held on the type as a whole. -/
def capabilities (s : RuleSet) : List Permission :=
  Permission.catalog.filter fun p => s.permits p.action (.ofType p.resourceType)

/-- The last rule that is a denial or has no conditions, of those about the action and type. -/
def settling? (s : RuleSet) (action : Action) (t : ResourceType) : Option Rule :=
  (s.rules.reverse.filter fun rule => rule.concerns action t).find? fun rule =>
    rule.effect = .deny || rule.conditions.isEmpty

/-- Whether the permission is held on every resource of its type. Conditional grants do not count,
and any later denial takes the permission away. -/
def grantsUnconditionally (s : RuleSet) (p : Permission) : Bool :=
  p.coveredActions.all fun a => (s.settling? a p.resourceType).any fun rule => rule.effect = .grant

/-- The positions of the rules that apply to a check. -/
def applying (s : RuleSet) (action : Action) (target : Target) : List Nat :=
  (s.rules.zipIdx.filter fun (rule, _) => rule.applies action target).map (·.2)

end RuleSet

end AccessControl
