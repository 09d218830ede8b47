import AccessControl.Proofs.Layers

/-!
# What a role comes to on one resource

A grant reaches a resource when it is about the action and the type, the hour is one of its hours,
and the resource is what its conditions and its scope ask for (`Bearer.Reaches`).  The rules of a
role grant a check about the resource when a grant reaches it or the level of the priority gives it,
and the denials of the administrators' level do not stand in the way
(`Bearer.verdict?_roleRules_eq_grant`).  Delegations hand over such roles, or permissions without
conditions.
-/

namespace AccessControl

section Verdicts

variable {action : Action} {target : Target}

/-- A grant stands unless it is denied behind it. -/
theorem verdict?_append_eq_grant {earlier later : List Rule} :
    verdict? (earlier ++ later) action target = some .grant ↔
      verdict? later action target = some .grant ∨
        verdict? later action target ≠ some .deny ∧
          verdict? earlier action target = some .grant := by
  rw [verdict?_append]
  cases verdict? later action target with
  | none => simp
  | some effect => cases effect <;> simp

/-- Blocks of rules none of which denies a check grant it together when one of them does. -/
theorem verdict?_flatMap_eq_grant {α : Type} {blocks : List α} {f : α → List Rule}
    (hdeny : ∀ block ∈ blocks, verdict? (f block) action target ≠ some .deny) :
    verdict? (blocks.flatMap f) action target = some .grant ↔
      ∃ block ∈ blocks, verdict? (f block) action target = some .grant := by
  induction blocks with
  | nil => simp
  | cons block blocks ih =>
      have hothers : ∀ other ∈ blocks, verdict? (f other) action target ≠ some .deny :=
        fun other hother => hdeny other (List.mem_cons_of_mem _ hother)
      rw [List.flatMap_cons, verdict?_append_eq_grant, ih hothers,
        and_iff_right (verdict?_flatMap_ne hothers), or_comm]
      simp only [List.mem_cons, exists_eq_or_imp]

end Verdicts

namespace Bearer

variable {b : Bearer} {source : RuleSource} {g : RoleGrant} {action : Action} {r : Resource}

/-! ## Grants -/

/-- The grant gives the bearer the action on the resource. -/
structure Reaches (b : Bearer) (g : RoleGrant) (action : Action) (r : Resource) : Prop where
  permission : ∃ p, g.permission.resolve? = some p ∧ p.action.covers action = true ∧
    p.resourceType = r.resourceType
  hours : b.inHours g.conditions = true
  own : g.conditions.ownOnly = true →
    ∃ field ∈ r.resourceType.ownerFields, r.owners.get field = some b.user
  team : g.conditions.teamOnly = true → ∃ team, r.team = some team ∧ team ∈ b.teams
  scope : ∀ services, g.scope.services = some services →
    ∃ service, r.serviceScope = some service ∧ service ∈ services

theorem grantRule?_eq_some_iff {rule : Rule} :
    b.grantRule? source g = some rule ↔ ∃ p, g.permission.resolve? = some p ∧
      b.inHours g.conditions = true ∧
      rule =
        .grant p.action (.only p.resourceType) source (b.grantConditions p.resourceType g) := by
  rw [grantRule?]
  cases g.permission.resolve? with
  | none => simp
  | some p => simp [eq_comm (b := rule)]

theorem grantConditions_hold_iff :
    (∀ c ∈ b.grantConditions r.resourceType g, c.holds r = true) ↔
      (g.conditions.ownOnly = true →
        ∃ field ∈ r.resourceType.ownerFields, r.owners.get field = some b.user) ∧
      (g.conditions.teamOnly = true → ∃ team, r.team = some team ∧ team ∈ b.teams) ∧
      ∀ services, g.scope.services = some services →
        ∃ service, r.serviceScope = some service ∧ service ∈ services := by
  simp only [grantConditions, List.mem_append, or_imp, forall_and, and_assoc]
  refine and_congr ?_ (and_congr ?_ ?_)
  · cases g.conditions.ownOnly <;> simp [RuleCondition.holds]
  · cases g.conditions.teamOnly <;> simp [RuleCondition.holds, Option.any_eq_true]
  · cases g.scope.services <;> simp [RuleCondition.holds, Option.any_eq_true]

/-- The rule of a grant applies to what the grant reaches. -/
theorem reaches_iff_applies (source : RuleSource) :
    b.Reaches g action r ↔
      ∃ rule, b.grantRule? source g = some rule ∧ rule.applies action (.resource r) = true := by
  simp only [grantRule?_eq_some_iff]
  constructor
  · rintro ⟨⟨p, hp, hcovers, htype⟩, hhours, hown, hteam, hscope⟩
    refine ⟨_, ⟨p, hp, hhours, rfl⟩, Rule.applies_resource.mpr ⟨?_, ?_⟩⟩
    · simp [Rule.concerns, Rule.grant, hcovers, htype]
    · rw [htype]
      exact grantConditions_hold_iff.mpr ⟨hown, hteam, hscope⟩
  · rintro ⟨_, ⟨p, hp, hhours, rfl⟩, happlies⟩
    obtain ⟨hcovers, htype⟩ := covers_of_rule rfl rfl happlies
    have hholds := (Rule.applies_resource.mp happlies).2
    rw [htype] at hholds
    obtain ⟨hown, hteam, hscope⟩ := grantConditions_hold_iff.mp hholds
    exact ⟨⟨p, hp, hcovers, htype⟩, hhours, hown, hteam, hscope⟩

/-- The grant gives the bearer the action on a resource of the type that is in no team and in no
service.  Whether such a resource is the bearer's own is left open. -/
structure ReachesUnattached (b : Bearer) (g : RoleGrant) (action : Action) (t : ResourceType)
    (own : Prop) : Prop where
  permission : ∃ p, g.permission.resolve? = some p ∧ p.action.covers action = true ∧
    p.resourceType = t
  hours : b.inHours g.conditions = true
  own : g.conditions.ownOnly = true → own
  team : g.conditions.teamOnly = false
  scope : g.scope.services = none

theorem reaches_iff_of_unattached {own : Prop} (hteam : r.team = none)
    (hservice : r.serviceScope = none)
    (hown : (∃ field ∈ r.resourceType.ownerFields, r.owners.get field = some b.user) ↔ own) :
    b.Reaches g action r ↔ b.ReachesUnattached g action r.resourceType own := by
  constructor
  · intro h
    refine ⟨h.permission, h.hours, fun hownOnly => hown.mp (h.own hownOnly), ?_, ?_⟩
    · refine Bool.eq_false_iff.mpr fun hteamOnly => ?_
      obtain ⟨team, hsome, -⟩ := h.team hteamOnly
      cases hteam.symm.trans hsome
    · refine Option.eq_none_iff_forall_ne_some.mpr fun services hservices => ?_
      obtain ⟨service, hsome, -⟩ := h.scope services hservices
      cases hservice.symm.trans hsome
  · intro h
    refine ⟨h.permission, h.hours, fun hownOnly => hown.mpr (h.own hownOnly), ?_, ?_⟩
    · intro hteamOnly
      cases h.team.symm.trans hteamOnly
    · intro services hservices
      cases h.scope.symm.trans hservices

/-- The grants of a role grant what one of them reaches. -/
theorem verdict?_grants_eq_grant {grants : List RoleGrant} :
    verdict? (grants.filterMap (b.grantRule? source)) action (.resource r) = some .grant ↔
      ∃ g ∈ grants, b.Reaches g action r := by
  constructor
  · intro h
    obtain ⟨rule, hmem, happlies, -⟩ := exists_rule_of_verdict? h
    obtain ⟨g, hg, hrule⟩ := List.mem_filterMap.mp hmem
    exact ⟨g, hg, (reaches_iff_applies source).mpr ⟨rule, hrule, happlies⟩⟩
  · rintro ⟨g, hg, hreaches⟩
    obtain ⟨rule, hrule, happlies⟩ := (reaches_iff_applies source).mp hreaches
    refine verdict?_eq_of_mem (List.mem_filterMap.mpr ⟨g, hg, hrule⟩) happlies ?_
    rintro other hother -
    obtain ⟨g', -, hother⟩ := List.mem_filterMap.mp hother
    obtain ⟨p, -, hgrant, -⟩ := grantRule?_eq_some hother
    exact hgrant

/-! ## Levels -/

/-- A priority of the administrators' level is about the memberships of the organization. -/
structure Administers (b : Bearer) (priority : RolePriority) (r : Resource) : Prop where
  level : priority.isAdmin = true
  type : r.resourceType = .membership
  organization : r.organization = b.organization

theorem verdict?_adminGrants_eq_grant :
    verdict? (b.adminGrants source) action (.resource r) = some .grant ↔
      r.resourceType = .membership ∧ r.organization = b.organization := by
  constructor
  · intro h
    obtain ⟨rule, hrule, happlies, -⟩ := exists_rule_of_verdict? h
    obtain ⟨a, -, rfl⟩ := List.mem_map.mp hrule
    have hholds := (Rule.applies_resource.mp happlies).2 _ (List.mem_singleton_self _)
    exact ⟨(of_decide_eq_true (Rule.includes_of_applies happlies)).symm, of_decide_eq_true hholds⟩
  · rintro ⟨htype, horganization⟩
    -- Of the three grants that of `manage` covers every action.
    refine verdict?_eq_of_mem (List.mem_map_of_mem (a := Action.manage) (by decide)) ?_ ?_
    · simp [Rule.applies, Rule.concerns, Rule.grant, RuleCondition.holds, htype, horganization]
    · rintro rule hrule -
      obtain ⟨a, -, rfl⟩ := List.mem_map.mp hrule
      rfl

/-- What the level of a priority gives. -/
theorem verdict?_escalationRules_eq_grant {priority : RolePriority} :
    verdict? (b.escalationRules source priority) action (.resource r) = some .grant ↔
      priority.isOwner = true ∨
        b.Administers priority r ∧ ¬OwnerProtected action (.resource r) := by
  cases howner : priority.isOwner with
  | true => simp [verdict?_escalationRules_of_owner howner]
  | false =>
      rw [escalationRules_eq, howner]
      cases hadmin : priority.isAdmin with
      | false =>
          simp only [Bool.false_eq_true, if_false, List.append_nil, verdict?_nil, false_or]
          refine iff_of_false nofun ?_
          rintro ⟨⟨hlevel, -, -⟩, -⟩
          exact absurd hlevel (by simp [hadmin])
      | true =>
          simp only [if_true, Bool.false_eq_true, if_false, List.append_nil, false_or,
            verdict?_append]
          rw [← verdict?_adminDenials_eq_deny source]
          rcases verdict?_adminDenials source action (.resource r) with h | h
          · rw [h, Option.none_or, verdict?_adminGrants_eq_grant]
            exact ⟨fun ⟨htype, horganization⟩ => ⟨⟨hadmin, htype, horganization⟩, nofun⟩,
              fun ⟨hadministers, _⟩ => ⟨hadministers.type, hadministers.organization⟩⟩
          · simp [h]

/-! ## Roles and delegations -/

/-- A role grants a check about a resource at the owners' level always, and else, unless it denies
it, when a grant reaches the resource or the level is about it. -/
theorem verdict?_roleRules_eq_grant {grantSource escalationSource : RuleSource} {role : BaseRole} :
    verdict? (b.roleRules grantSource escalationSource role) action (.resource r) = some .grant ↔
      role.priority.isOwner = true ∨
        ¬(role.priority.isAdmin = true ∧ OwnerProtected action (.resource r)) ∧
          (b.Administers role.priority r ∨ ∃ g ∈ role.grants, b.Reaches g action r) := by
  have hadministers : b.Administers role.priority r → role.priority.isAdmin = true := (·.level)
  rw [roleRules, verdict?_append_eq_grant, verdict?_grants_eq_grant,
    verdict?_escalationRules_eq_grant, Ne, verdict?_escalationRules_eq_deny]
  cases role.priority.isOwner with
  | true => simp
  | false =>
      simp only [Bool.false_eq_true, false_or, true_and]
      tauto

theorem verdict?_permissionRules_eq_grant {permissions : List StoredPermission} {target : Target} :
    verdict? (permissionRules permissions) action target = some .grant ↔
      ∃ names ∈ permissions, ∃ p, names.resolve? = some p ∧ p.action.covers action = true ∧
        p.resourceType = target.resourceType := by
  constructor
  · exact exists_permission_of_verdict?
  · rintro ⟨names, hnames, p, hp, hcovers, htype⟩
    refine verdict?_eq_of_mem (mem_permissionRules.mpr ⟨names, hnames, p, hp, rfl⟩) ?_ ?_
    · exact Rule.applies_of_unconditional rfl (by simp [Rule.concerns, Rule.grant, hcovers, htype])
    · rintro other hother -
      obtain ⟨names, -, p, -, rfl⟩ := mem_permissionRules.mp hother
      rfl

/-- A delegation grants what the role grants that it hands over, or what its permissions are
about. -/
theorem verdict?_delegationRules_eq_grant {access : DelegatedAccess} {target : Target} :
    verdict? (b.delegationRules access) action target = some .grant ↔
      (∃ role, b.delegatedRole? access = some role ∧
        verdict? (b.roleRules .delegation .delegation (.ofRole role)) action target =
          some .grant) ∨
      access.delegation.role = none ∧
        ∃ names ∈ access.delegation.permissions, ∃ p, names.resolve? = some p ∧
          p.action.covers action = true ∧ p.resourceType = target.resourceType := by
  cases hid : access.delegation.role with
  | none =>
      have hrole : b.delegatedRole? access = none := by simp [delegatedRole?, hid]
      rw [delegationRules_of_permissions hid, verdict?_permissionRules_eq_grant, hrole]
      simp
  | some id =>
      rw [delegationRules_of_role hid]
      cases b.delegatedRole? access with
      | none => simp
      | some role => simp

end Bearer

end AccessControl
