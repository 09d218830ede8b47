import Mathlib.Data.Fintype.EquivFin
import AccessControl.Proofs.Layers
import AccessControl.Proofs.Sources

/-!
# Checks about a type as a whole

A check about a type is decided by a reading of the rules of its own: conditional grants count
there, since some resource may fulfil the conditions, and conditional denials do not.  All denials
that rule sets are made of have conditions, so on a type one grant is enough, wherever it stands
(`verdict?_ofType_iff`).  What is permitted on a resource is therefore permitted on its type.

The other way round a permitted type needs a resource that fulfils the conditions of the grant and
none of those of the denials.  There is one that belongs to the user in every way, in a team and a
service that the grant asks for, with an id that no override names (`Bearer.resourceOf`).  Together
this is `resolve_permits_ofType`.
-/

namespace AccessControl

/-! ## One grant is enough -/

section OneGrant

variable {rules : List Rule} {action : Action} {t : ResourceType}

/-- Where every denial has conditions, a type is permitted when some grant is about it. -/
theorem verdict?_ofType_iff
    (hdenials : ∀ rule ∈ rules, rule.effect = .deny → rule.conditions ≠ []) :
    verdict? rules action (.ofType t) = some .grant ↔
      ∃ rule ∈ rules, rule.effect = .grant ∧ rule.concerns action t = true := by
  constructor
  · intro h
    obtain ⟨rule, hrule, happlies, hgrant⟩ := exists_rule_of_verdict? h
    exact ⟨rule, hrule, hgrant, Rule.concerns_of_applies happlies⟩
  · rintro ⟨rule, hrule, hgrant, hconcerns⟩
    refine verdict?_eq_of_mem hrule (Rule.applies_ofType.mpr ⟨hconcerns, .inr hgrant⟩) ?_
    intro other hother happlies
    rcases (Rule.applies_ofType.mp happlies).2 with hnil | hgrant
    · cases heffect : other.effect with
      | grant => rfl
      | deny => exact absurd hnil (hdenials other hother heffect)
    · exact hgrant

end OneGrant

/-- Every denial that a rule set is made of has conditions. -/
theorem conditions_ne_nil_of_denial {user : Option UserId} {organization : OrganizationId}
    {sources : GrantSources} {now : Instant} {rule : Rule}
    (h : rule ∈ (resolve user organization sources now).rules) (hdeny : rule.effect = .deny) :
    rule.conditions ≠ [] := by
  have hguest : rule ∉ (guestRuleSet organization).rules := by
    intro h
    obtain rfl := List.mem_singleton.mp h
    cases hdeny
  cases user with
  | none => exact absurd h hguest
  | some u =>
      cases hrole : sources.baseRole? u organization with
      | none =>
          rw [resolve_of_baseRole?_eq_none now hrole] at h
          exact absurd h hguest
      | some role =>
          rw [resolve_of_baseRole? now hrole] at h
          rcases Bearer.denial_of_mem_memberRules h hdeny with ⟨source, a, -, rfl⟩ | ⟨o, -, -, h⟩
          · exact List.cons_ne_nil _ _
          · obtain ⟨p, -, -, -, -, hconditions, -⟩ := Bearer.overrideRule?_eq_some h
            rw [hconditions]
            exact List.cons_ne_nil _ _

theorem resolve_permits_ofType_iff {user : Option UserId} {organization : OrganizationId}
    {sources : GrantSources} {now : Instant} {action : Action} {t : ResourceType} :
    (resolve user organization sources now).permits action (.ofType t) = true ↔
      ∃ rule ∈ (resolve user organization sources now).rules,
        rule.effect = .grant ∧ rule.concerns action t = true := by
  rw [RuleSet.permits_iff, verdict?_ofType_iff fun _ => conditions_ne_nil_of_denial]
  exact and_iff_right rfl

/-! ## A resource for every grant -/

theorem ResourceType.ownerFields_ne_nil (t : ResourceType) : t.ownerFields ≠ [] := by
  cases t <;> decide

/-- One service is enough for a scope, unless the scope is an empty list. -/
theorem GrantScope.exists_service {scope : GrantScope} (h : scope.services ≠ some []) :
    ∃ service : Option String, ∀ ids, scope.services = some ids → ∃ s ∈ ids, service = some s := by
  cases hids : scope.services with
  | none => exact ⟨none, by simp⟩
  | some ids =>
      have hne : ids ≠ [] := by
        rintro rfl
        exact h hids
      obtain ⟨s, hs⟩ := List.exists_mem_of_ne_nil _ hne
      refine ⟨some s, ?_⟩
      intro ids' hids'
      obtain rfl := Option.some.inj hids'
      exact ⟨s, hs, rfl⟩

namespace Bearer

variable {b : Bearer} {team : String} {rule : Rule}

/-- A resource of the organization that belongs to the bearer in every way, and is no membership of
an owner. -/
def resourceOf (b : Bearer) (t : ResourceType) (id team : String) (service : Option String) :
    Resource where
  resourceType := t
  id
  organization := b.organization
  owners := { assignee := some b.user, creator := some b.user, user := some b.user,
              owner := some b.user }
  team := some team
  service

/-- In some service the bearer's resources, whatever their ids, fulfil the conditions of the rule.
-/
def Fulfils (b : Bearer) (team : String) (rule : Rule) : Prop :=
  ∃ service, ∀ t id, rule.subject.includes t = true →
    ∀ c ∈ rule.conditions, c.holds (b.resourceOf t id team service) = true

theorem fulfils_of_unconditional (h : rule.conditions = []) : b.Fulfils team rule :=
  ⟨none, by simp [h]⟩

theorem fulfils_of_mem_adminGrants {source : RuleSource} (h : rule ∈ b.adminGrants source) :
    b.Fulfils team rule := by
  obtain ⟨a, -, rfl⟩ := List.mem_map.mp h
  refine ⟨none, ?_⟩
  rintro t id - c hc
  obtain rfl := List.mem_singleton.mp hc
  simp [RuleCondition.holds, resourceOf]

/-- The bearer owns the resource under every attribute that names an owner of its type. -/
theorem holds_ownedBy (t : ResourceType) (id : String) (service : Option String) :
    (RuleCondition.ownedBy t.ownerFields b.user).holds (b.resourceOf t id team service) = true := by
  obtain ⟨field, hfield⟩ := List.exists_mem_of_ne_nil _ t.ownerFields_ne_nil
  refine List.any_eq_true.mpr ⟨field, hfield, ?_⟩
  cases field <;> simp [resourceOf, Owners.get]

/-- The conditions of a grant can be fulfilled together when the bearer is in a team and the list of
services is not empty. -/
theorem fulfils_of_grantRule? {source : RuleSource} {g : RoleGrant} (hteam : team ∈ b.teams)
    (hscope : g.scope.services ≠ some []) (h : b.grantRule? source g = some rule) :
    b.Fulfils team rule := by
  obtain ⟨p, -, -, -, hsubject, hconditions⟩ := grantRule?_eq_some h
  obtain ⟨service, hservice⟩ := GrantScope.exists_service hscope
  refine ⟨service, ?_⟩
  intro t id hincludes c hc
  rw [hsubject, RuleSubject.only_includes, decide_eq_true_eq] at hincludes
  rw [hconditions, hincludes] at hc
  rcases List.mem_append.mp hc with hc | hc
  · rcases List.mem_append.mp hc with hc | hc
    · obtain ⟨-, rfl⟩ : g.conditions.ownOnly = true ∧ c = .ownedBy t.ownerFields b.user := by
        simpa using hc
      exact holds_ownedBy t id service
    · obtain ⟨-, rfl⟩ : g.conditions.teamOnly = true ∧ c = .inTeams b.teams := by
        simpa using hc
      simpa [RuleCondition.holds, resourceOf] using hteam
  · obtain ⟨ids, hids, rfl⟩ := Option.map_eq_some_iff.mp (Option.mem_toList.mp hc)
    obtain ⟨s, hs, rfl⟩ := hservice ids hids
    simpa [RuleCondition.holds, resourceOf, Resource.serviceScope] using hs

theorem fulfils_of_mem_roleRules {grantSource escalationSource : RuleSource} {role : BaseRole}
    (hteam : team ∈ b.teams) (hscopes : ∀ g ∈ role.grants, g.scope.services ≠ some [])
    (h : rule ∈ b.roleRules grantSource escalationSource role) (hgrant : rule.effect = .grant) :
    b.Fulfils team rule := by
  rcases mem_roleRules.mp h with ⟨g, hg, hrule⟩ | h
  · exact fulfils_of_grantRule? hteam (hscopes g hg) hrule
  · rcases mem_escalationRules h with h | ⟨a, -, rfl⟩ | rfl
    · exact fulfils_of_mem_adminGrants h
    · cases hgrant
    · exact fulfils_of_unconditional rfl

end Bearer

/-- What a user is granted can be met by resources: the user is in a team, no grant of the user's
own or received roles is limited to an empty list of services, and no override in force grants. -/
structure Fulfillable (b : Bearer) (sources : GrantSources) (now : Instant) : Prop where
  team : ∃ team, team ∈ b.teams
  own : ∀ role, sources.baseRole? b.user b.organization = some role →
    ∀ g ∈ role.grants, g.scope.services ≠ some []
  received : ∀ access ∈ sources.delegations, b.receives now access = true →
    ∀ role, b.delegatedRole? access = some role → ∀ g ∈ role.grants, g.scope.services ≠ some []
  overrides : ∀ o ∈ sources.overrides, b.isExcepted now o = true → o.granted = false

namespace Bearer

variable {b : Bearer} {sources : GrantSources} {now : Instant} {role : BaseRole}

/-- Every grant of a member has resources that fulfil it. -/
theorem exists_team_fulfils (h : Fulfillable b sources now)
    (hrole : sources.baseRole? b.user b.organization = some role) :
    ∃ team, ∀ rule ∈ memberRules b role sources now, rule.effect = .grant →
      b.Fulfils team rule := by
  obtain ⟨team, hteam⟩ := h.team
  refine ⟨team, ?_⟩
  intro rule hrule hgrant
  rcases mem_memberRules.mp hrule with hrule | ⟨access, haccess, hreceives, hrule⟩ |
    ⟨o, ho, hexcepted, hrule⟩
  · exact fulfils_of_mem_roleRules hteam (h.own role hrole) hrule hgrant
  · rcases mem_delegationRules hrule with ⟨role, hrole, hrule⟩ | hrule
    · exact fulfils_of_mem_roleRules hteam (h.received access haccess hreceives role hrole) hrule
        hgrant
    · obtain ⟨names, -, p, -, rfl⟩ := mem_permissionRules.mp hrule
      exact fulfils_of_unconditional rfl
  · obtain ⟨p, -, heffect, -⟩ := overrideRule?_eq_some hrule
    rw [hgrant, h.overrides o ho hexcepted] at heffect
    cases heffect

/-- No denial of a member applies to a resource with an id that no override names. -/
theorem effect_of_applies_resourceOf {rule : Rule} {action : Action} {t : ResourceType}
    {id team : String} {service : Option String} (hid : ∀ o ∈ sources.overrides, o.resourceId ≠ id)
    (hrule : rule ∈ memberRules b role sources now)
    (happlies : rule.applies action (.resource (b.resourceOf t id team service)) = true) :
    rule.effect = .grant := by
  cases hdeny : rule.effect with
  | grant => rfl
  | deny =>
      have hholds := (Rule.applies_resource.mp happlies).2
      rcases denial_of_mem_memberRules hrule hdeny with ⟨source, a, -, rfl⟩ | ⟨o, ho, -, hrule⟩
      · cases hholds _ (List.mem_singleton_self _)
      · obtain ⟨p, -, -, -, -, hconditions, -⟩ := overrideRule?_eq_some hrule
        have hsame := hholds (.isResource o.resourceId) (by simp [hconditions])
        rw [RuleCondition.holds, decide_eq_true_eq] at hsame
        exact absurd hsame.symm (hid o ho)

/-- A type that is permitted has a resource that is permitted. -/
theorem exists_resource_of_verdict? {action : Action} {t : ResourceType}
    (h : Fulfillable b sources now) (hrole : sources.baseRole? b.user b.organization = some role)
    (hgrant : ∃ rule ∈ memberRules b role sources now,
      rule.effect = .grant ∧ rule.concerns action t = true) :
    ∃ r : Resource, r.resourceType = t ∧ r.organization = b.organization ∧
      verdict? (memberRules b role sources now) action (.resource r) = some .grant := by
  obtain ⟨team, hfulfils⟩ := exists_team_fulfils h hrole
  obtain ⟨rule, hrule, heffect, hconcerns⟩ := hgrant
  obtain ⟨service, hholds⟩ := hfulfils rule hrule heffect
  obtain ⟨id, hid⟩ := Infinite.exists_notMem_finset (sources.overrides.map (·.resourceId)).toFinset
  have hfree : ∀ o ∈ sources.overrides, o.resourceId ≠ id := by
    rintro o ho rfl
    exact hid (List.mem_toFinset.mpr (List.mem_map_of_mem ho))
  have hincludes : rule.subject.includes t = true := by
    rw [Rule.concerns, Bool.and_eq_true] at hconcerns
    exact hconcerns.2
  refine ⟨b.resourceOf t id team service, rfl, rfl, ?_⟩
  refine verdict?_eq_of_mem hrule (Rule.applies_resource.mpr ⟨hconcerns, hholds t id hincludes⟩) ?_
  intro other hother
  exact effect_of_applies_resourceOf hfree hother

end Bearer

/-! ## Types and their resources -/

theorem guest_reads_organization (organization : OrganizationId) :
    (guestRuleSet organization).permits .read
      (.resource (.ofOrganization organization true)) = true := by
  have hwithin : (Target.resource (.ofOrganization organization true)).within
      (guestRuleSet organization).organization = true := by
    simp [Target.within, Resource.ofOrganization, guestRuleSet]
  refine RuleSet.permits_iff.mpr ⟨hwithin, ?_⟩
  refine verdict?_eq_of_mem (List.mem_singleton_self _) ?_ ?_
  · refine Rule.applies_resource.mpr ⟨rfl, ?_⟩
    intro c hc
    simp only [guestRule, Rule.grant, List.mem_cons, List.not_mem_nil, or_false] at hc
    rcases hc with rfl | rfl <;> simp [RuleCondition.holds, Resource.ofOrganization]
  · intro rule hrule _
    obtain rfl := List.mem_singleton.mp hrule
    rfl

/-- All that guests may do about types, they may do about the organization when it is public. -/
theorem guest_exists_resource {organization : OrganizationId} {action : Action} {t : ResourceType}
    (h : (guestRuleSet organization).permits action (.ofType t) = true) :
    ∃ r : Resource, r.resourceType = t ∧ r.organization = organization ∧
      (guestRuleSet organization).permits action (.resource r) = true := by
  obtain ⟨rule, hrule, happlies, -⟩ := exists_rule_of_verdict? (RuleSet.permits_iff.mp h).2
  obtain rfl := List.mem_singleton.mp hrule
  obtain rfl : ResourceType.organization = t :=
    of_decide_eq_true (Rule.includes_of_applies happlies)
  obtain hmanage | rfl := Action.covers_iff.mp (Rule.covers_of_applies happlies)
  · cases hmanage
  · exact ⟨_, rfl, rfl, guest_reads_organization organization⟩

/-- What is permitted on a resource is permitted on its type, and so a permission of the catalog
that is of use is among the capabilities.  Where what the user is granted can be met by resources,
a type that is permitted has a resource on which the action is permitted. -/
theorem resolve_permits_ofType {user : Option UserId} {organization : OrganizationId}
    {sources : GrantSources} {now : Instant} :
    (∀ action r,
      (resolve user organization sources now).permits action (.resource r) = true →
        (resolve user organization sources now).permits action (.ofType r.resourceType) = true ∧
        ((⟨r.resourceType, action⟩ : Permission).isCataloged = true →
          ⟨r.resourceType, action⟩ ∈ (resolve user organization sources now).capabilities)) ∧
    ((∀ u, user = some u → Fulfillable (sources.bearer u organization now) sources now) →
      ∀ action t, (resolve user organization sources now).permits action (.ofType t) = true →
        ∃ r : Resource, r.resourceType = t ∧ r.organization = organization ∧
          (resolve user organization sources now).permits action (.resource r) = true) := by
  constructor
  · intro action r h
    have htype : (resolve user organization sources now).permits action (.ofType r.resourceType) =
        true := by
      obtain ⟨rule, hrule, happlies, hgrant⟩ := exists_rule_of_verdict? (RuleSet.permits_iff.mp h).2
      exact resolve_permits_ofType_iff.mpr
        ⟨rule, hrule, hgrant, Rule.concerns_of_applies happlies⟩
    exact ⟨htype, fun hcataloged =>
      List.mem_filter.mpr ⟨Permission.mem_catalog.mpr hcataloged, htype⟩⟩
  · intro hfulfillable action t h
    cases user with
    | none => exact guest_exists_resource h
    | some u =>
        cases hrole : sources.baseRole? u organization with
        | none =>
            rw [resolve_of_baseRole?_eq_none now hrole] at h ⊢
            exact guest_exists_resource h
        | some role =>
            have hrule := resolve_permits_ofType_iff.mp h
            rw [resolve_of_baseRole? now hrole] at hrule ⊢
            obtain ⟨r, htype, horganization, hverdict⟩ :=
              Bearer.exists_resource_of_verdict? (hfulfillable u rfl) hrole hrule
            refine ⟨r, htype, horganization, RuleSet.permits_iff.mpr ⟨?_, hverdict⟩⟩
            exact decide_eq_true horganization

/-! ## A steward -/

namespace Sample

def steward : UserId := ⟨⟨4⟩⟩

def customRole (id : Nat) (key : RoleKey) (priority : RolePriority) (grants : List RoleGrant) :
    Role where
  id := ⟨⟨id⟩⟩
  organization
  key
  name := key.text
  priority
  isSystem := false
  isEditable := true
  grants

/-- Stewards administer memberships, and change tasks of billing that are their own and those of a
team of theirs. -/
def stewardRole : Role :=
  customRole 5 ⟨"steward", by decide⟩ ⟨85, by decide⟩
    [{ permission := (⟨.task, .update⟩ : Permission).stored
       conditions := { ownOnly := true, teamOnly := true }
       scope := { services := some ["billing"] } }]

def deputyRole : Role :=
  customRole 6 ⟨"deputy", by decide⟩ ⟨90, by decide⟩ [.unconditional ⟨.membership, .manage⟩]

/-- A role that a user receives from the owner. -/
def received (id : Nat) (delegatee : UserId) (role : Role) : DelegatedAccess where
  delegation :=
    { id := ⟨⟨id⟩⟩, organization, delegator := owner, delegatee, role := some role.id,
      permissions := [], startsAt := ⟨0⟩, endsAt := ⟨1⟩, active := true, revokedAt := none,
      reason := none, createdAt := ⟨0⟩ }
  role := some role

def exception (id : Nat) (user : UserId) (permission : Permission) (resourceId : String)
    (granted : Bool) : Override where
  id := ⟨⟨id⟩⟩
  organization
  user
  permission := permission.stored
  resourceType := permission.resourceType.name
  resourceId
  granted
  expiresAt := none
  revokedAt := none
  grantedBy := none
  createdAt := ⟨0⟩

/-- What is stored about a steward, who is the owner's deputy as well. -/
def stewardSources (overrides : List Override) : GrantSources where
  membership := some (memberAs steward (.dynamic stewardRole.id))
  role := some stewardRole
  teams := .ofList ["blue"]
  delegations := [received 1 steward deputyRole]
  overrides

theorem baseRole?_stewardSources (overrides : List Override) :
    (stewardSources overrides).baseRole? steward organization = some (.ofRole stewardRole) := rfl

end Sample

open Sample

/-- There is a task that the steward may change, although one is excepted, and the change of tasks
is a capability of the steward. -/
theorem steward_updates_some_task :
    let rules := resolve (some steward) organization
      (stewardSources [exception 1 steward ⟨.task, .update⟩ "7" false]) ⟨0⟩
    rules.permits .update (.ofType .task) = true ∧
      ∃ r : Resource, r.resourceType = .task ∧ r.organization = organization ∧
        rules.permits .update (.resource r) = true ∧
        ⟨r.resourceType, .update⟩ ∈ rules.capabilities := by
  intro rules
  have hpermitted : rules.permits .update (.ofType .task) = true := by decide +kernel
  have hfulfillable : ∀ u, some steward = some u → Fulfillable
      ((stewardSources [exception 1 steward ⟨.task, .update⟩ "7" false]).bearer u organization ⟨0⟩)
      (stewardSources [exception 1 steward ⟨.task, .update⟩ "7" false]) ⟨0⟩ := by
    rintro u hu
    obtain rfl := Option.some.inj hu
    refine ⟨⟨"blue", by decide⟩, ?_, ?_, ?_⟩
    · intro role hrole
      obtain rfl := Option.some.inj ((baseRole?_stewardSources _).symm.trans hrole)
      decide
    · intro access haccess _ role hrole
      obtain rfl := List.mem_singleton.mp haccess
      obtain rfl : deputyRole = role := Option.some.inj hrole
      decide
    · intro o ho _
      obtain rfl := List.mem_singleton.mp ho
      rfl
  obtain ⟨r, htype, horganization, hr⟩ :=
    resolve_permits_ofType.2 hfulfillable .update .task hpermitted
  have hcapability := (resolve_permits_ofType.1 .update r hr).2 (by rw [htype]; decide)
  exact ⟨hpermitted, r, htype, horganization, hr, hcapability⟩

end AccessControl
