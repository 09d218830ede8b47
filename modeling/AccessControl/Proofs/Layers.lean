import Mathlib.Data.List.Basic
import AccessControl.Proofs.Ordering
import AccessControl.Proofs.Verdict

/-!
# What the layers of a rule set decide

The rules of a member are those of the role, those of the delegations in force and those of the
overrides in force, one layer behind the other.  The only denials that a role brings are those of
the administrators' level, which protect the memberships of owners.  At the owners' level a grant
of everything stands behind them, so a role denies a check exactly when its priority is between
the two levels.
-/

namespace AccessControl

/-- The changes that administrators are denied on the memberships of owners. -/
def protectedActions : List Action := [.update, .destroy, .changeRole]

/-- The check is about such a change of an owner's membership. -/
structure OwnerProtected (action : Action) (target : Target) : Prop where
  action : action ∈ protectedActions
  target : ∃ r, target = .resource r ∧ r.resourceType = .membership ∧ r.roleKey = some ownerRoleKey

/-- Between the two levels. -/
theorem isAdmin_and_not_isOwner {priority : RolePriority} :
    priority.isAdmin = true ∧ priority.isOwner = false ↔
      RolePriority.admin ≤ priority ∧ priority < .owner := by
  have hle : priority < .owner ↔ ¬RolePriority.owner ≤ priority := Nat.not_le.symm
  rw [RolePriority.isAdmin, RolePriority.isOwner, hle]
  simp

namespace Bearer

variable {b : Bearer} {source : RuleSource} {action : Action} {target : Target}

/-! ## Grants -/

theorem grantRule?_eq_some {g : RoleGrant} {rule : Rule} (h : b.grantRule? source g = some rule) :
    ∃ p, g.permission.resolve? = some p ∧ rule.effect = .grant ∧ rule.action = p.action ∧
      rule.subject = .only p.resourceType ∧
      rule.conditions = b.grantConditions p.resourceType g := by
  rw [grantRule?] at h
  cases hp : g.permission.resolve? with
  | none => simp [hp] at h
  | some p =>
      simp only [hp, Option.bind_eq_bind, Option.bind_some] at h
      split at h
      · obtain rfl := Option.some.inj h
        exact ⟨p, rfl, rfl, rfl, rfl, rfl⟩
      · cases h

/-- A rule about a permission that applies to a check is about its action and its type. -/
theorem covers_of_rule {rule : Rule} {p : Permission} (haction : rule.action = p.action)
    (hsubject : rule.subject = .only p.resourceType) (h : rule.applies action target = true) :
    p.action.covers action = true ∧ p.resourceType = target.resourceType := by
  have hcovers := Rule.covers_of_applies h
  have hincludes := Rule.includes_of_applies h
  rw [haction] at hcovers
  rw [hsubject, RuleSubject.only_includes, decide_eq_true_eq] at hincludes
  exact ⟨hcovers, hincludes⟩

theorem verdict?_grants_ne_deny (grants : List RoleGrant) :
    verdict? (grants.filterMap (b.grantRule? source)) action target ≠ some .deny := by
  intro h
  obtain ⟨rule, hmem, -, hdeny⟩ := exists_rule_of_verdict? h
  obtain ⟨g, -, hrule⟩ := List.mem_filterMap.mp hmem
  obtain ⟨p, -, hgrant, -⟩ := grantRule?_eq_some hrule
  rw [hgrant] at hdeny
  cases hdeny

/-- Grants that are about other checks decide nothing. -/
theorem verdict?_grants_of_forall {grants : List RoleGrant}
    (h : ∀ g ∈ grants, ∀ p, g.permission.resolve? = some p → p.action.covers action = true →
      p.resourceType ≠ target.resourceType) :
    verdict? (grants.filterMap (b.grantRule? source)) action target = none := by
  refine verdict?_eq_none.mpr ?_
  intro rule hmem
  refine Bool.eq_false_iff.mpr ?_
  intro happlies
  obtain ⟨g, hg, hrule⟩ := List.mem_filterMap.mp hmem
  obtain ⟨p, hp, -, haction, hsubject, -⟩ := grantRule?_eq_some hrule
  obtain ⟨hcovers, htype⟩ := covers_of_rule haction hsubject happlies
  exact h g hg p hp hcovers htype

/-! ## Escalation -/

/-- The grants of the administrators' level. -/
def adminGrants (b : Bearer) (source : RuleSource) : List Rule :=
  [Action.changeRole, .toggleActive, .manage].map fun a =>
    Rule.grant a (.only .membership) source [.inOrganization b.organization]

/-- A denial of the administrators' level. -/
def adminDenial (source : RuleSource) (action : Action) : Rule :=
  .deny action (.only .membership) source [.holdsRole ownerRoleKey]

theorem escalationRules_eq (b : Bearer) (source : RuleSource) (priority : RolePriority) :
    b.escalationRules source priority =
      (if priority.isAdmin then b.adminGrants source ++ protectedActions.map (adminDenial source)
        else []) ++
      (if priority.isOwner then [Rule.grant .manage .all source] else []) := rfl

/-- Escalation grants on memberships and denies on those of owners, or grants everything. -/
theorem mem_escalationRules {priority : RolePriority} {rule : Rule}
    (h : rule ∈ b.escalationRules source priority) :
    rule ∈ b.adminGrants source ∨ (∃ a ∈ protectedActions, rule = adminDenial source a) ∨
      rule = .grant .manage .all source := by
  rw [escalationRules_eq] at h
  rcases List.mem_append.mp h with h | h
  · split at h
    · rcases List.mem_append.mp h with h | h
      · exact .inl h
      · obtain ⟨a, ha, rfl⟩ := List.mem_map.mp h
        exact .inr (.inl ⟨a, ha, rfl⟩)
    · cases h
  · split at h
    · exact .inr (.inr (List.mem_singleton.mp h))
    · cases h

theorem adminDenial_applies {a : Action} (ha : a ∈ protectedActions) :
    (adminDenial source a).applies action target = true ↔
      a = action ∧ ∃ r, target = .resource r ∧ r.resourceType = .membership ∧
        r.roleKey = some ownerRoleKey := by
  have hmanage : a ≠ .manage := by
    rintro rfl
    revert ha
    decide
  cases target with
  | ofType t => simp [Rule.applies, adminDenial, Rule.deny]
  | resource r =>
      simp only [Rule.applies_resource, Rule.concerns, adminDenial, Rule.deny, Bool.and_eq_true,
        Action.covers_iff, hmanage, false_or, RuleSubject.only_includes, decide_eq_true_eq,
        List.mem_singleton, forall_eq, RuleCondition.holds, Target.resource.injEq, exists_eq_left',
        and_assoc, eq_comm (a := ResourceType.membership)]

/-- Some denial applies to the changes of owners' memberships, and none to other checks. -/
theorem adminDenials_apply (source : RuleSource) :
    (∃ rule ∈ protectedActions.map (adminDenial source), rule.applies action target = true) ↔
      OwnerProtected action target := by
  constructor
  · rintro ⟨rule, hrule, happlies⟩
    obtain ⟨a, ha, rfl⟩ := List.mem_map.mp hrule
    obtain ⟨rfl, htarget⟩ := (adminDenial_applies ha).mp happlies
    exact ⟨ha, htarget⟩
  · rintro ⟨haction, htarget⟩
    exact ⟨_, List.mem_map_of_mem haction, (adminDenial_applies haction).mpr ⟨rfl, htarget⟩⟩

theorem verdict?_adminDenials (source : RuleSource) (action : Action) (target : Target) :
    verdict? (protectedActions.map (adminDenial source)) action target = none ∨
      verdict? (protectedActions.map (adminDenial source)) action target = some .deny := by
  refine verdict?_of_forall ?_
  rintro rule hrule -
  obtain ⟨a, -, rfl⟩ := List.mem_map.mp hrule
  rfl

theorem verdict?_adminDenials_eq_deny (source : RuleSource) :
    verdict? (protectedActions.map (adminDenial source)) action target = some .deny ↔
      OwnerProtected action target := by
  rw [← adminDenials_apply source]
  constructor
  · intro h
    obtain ⟨rule, hrule, happlies, -⟩ := exists_rule_of_verdict? h
    exact ⟨rule, hrule, happlies⟩
  · rintro ⟨rule, hrule, happlies⟩
    refine verdict?_eq_of_mem hrule happlies ?_
    rintro rule hrule -
    obtain ⟨a, -, rfl⟩ := List.mem_map.mp hrule
    rfl

theorem verdict?_adminGrants_ne_deny :
    verdict? (b.adminGrants source) action target ≠ some .deny := by
  intro h
  obtain ⟨rule, hrule, -, hdeny⟩ := exists_rule_of_verdict? h
  obtain ⟨a, -, rfl⟩ := List.mem_map.mp hrule
  cases hdeny

/-- From the owners' level on escalation permits everything. -/
theorem verdict?_escalationRules_of_owner {priority : RolePriority}
    (howner : priority.isOwner = true) :
    verdict? (b.escalationRules source priority) action target = some .grant := by
  have hgrant : (Rule.grant .manage .all source).applies action target = true :=
    Rule.applies_of_unconditional rfl (by simp [Rule.concerns, Rule.grant])
  rw [escalationRules_eq, if_pos howner, verdict?_append, verdict?_singleton, if_pos hgrant]
  rfl

/-- Escalation denies where it reaches the administrators' level only. -/
theorem verdict?_escalationRules_eq_deny (b : Bearer) (source : RuleSource)
    {priority : RolePriority} :
    verdict? (b.escalationRules source priority) action target = some .deny ↔
      priority.isAdmin = true ∧ priority.isOwner = false ∧ OwnerProtected action target := by
  cases howner : priority.isOwner with
  | true => simp [verdict?_escalationRules_of_owner howner]
  | false =>
      rw [escalationRules_eq, howner]
      cases hadmin : priority.isAdmin with
      | false => simp
      | true =>
          simp only [if_true, Bool.false_eq_true, if_false, List.append_nil, true_and,
            verdict?_append]
          rw [← verdict?_adminDenials_eq_deny source]
          rcases verdict?_adminDenials source action target with h | h
          · simp [h, verdict?_adminGrants_ne_deny]
          · simp [h]

/-- Below the owners' level escalation is about memberships only. -/
theorem verdict?_escalationRules_of_below {priority : RolePriority}
    (howner : priority.isOwner = false)
    (h : priority.isAdmin = false ∨ target.resourceType ≠ .membership) :
    verdict? (b.escalationRules source priority) action target = none := by
  rw [escalationRules_eq, howner]
  cases hadmin : priority.isAdmin with
  | false => rfl
  | true =>
      have htype : target.resourceType ≠ .membership := h.resolve_left (by simp [hadmin])
      refine verdict?_eq_none.mpr ?_
      intro rule hrule
      refine Bool.eq_false_iff.mpr ?_
      intro happlies
      apply htype
      have hincludes := Rule.includes_of_applies happlies
      simp only [if_true, Bool.false_eq_true, if_false, List.append_nil] at hrule
      rcases List.mem_append.mp hrule with hrule | hrule
      · obtain ⟨a, -, rfl⟩ := List.mem_map.mp hrule
        exact (of_decide_eq_true hincludes).symm
      · obtain ⟨a, -, rfl⟩ := List.mem_map.mp hrule
        exact (of_decide_eq_true hincludes).symm

/-- A role denies the changes of owners' memberships when it is of the administrators' level, and
nothing else. -/
theorem verdict?_roleRules_eq_deny {grantSource escalationSource : RuleSource} {role : BaseRole} :
    verdict? (b.roleRules grantSource escalationSource role) action target = some .deny ↔
      role.priority.isAdmin = true ∧ role.priority.isOwner = false ∧
        OwnerProtected action target := by
  rw [roleRules, verdict?_append, ← verdict?_escalationRules_eq_deny b escalationSource,
    Option.or_eq_some_iff]
  constructor
  · rintro (h | ⟨-, h⟩)
    · exact h
    · exact absurd h (verdict?_grants_ne_deny _)
  · exact .inl

theorem mem_roleRules {grantSource escalationSource : RuleSource} {role : BaseRole} {rule : Rule} :
    rule ∈ b.roleRules grantSource escalationSource role ↔
      (∃ g ∈ role.grants, b.grantRule? grantSource g = some rule) ∨
        rule ∈ b.escalationRules escalationSource role.priority := by
  rw [roleRules, List.mem_append, List.mem_filterMap]

/-- The denials of a role are those of the administrators' level. -/
theorem denial_of_mem_roleRules {grantSource escalationSource : RuleSource} {role : BaseRole}
    {rule : Rule} (h : rule ∈ b.roleRules grantSource escalationSource role)
    (hdeny : rule.effect = .deny) :
    ∃ a ∈ protectedActions, rule = adminDenial escalationSource a := by
  rcases mem_roleRules.mp h with ⟨g, -, hrule⟩ | h
  · obtain ⟨p, -, hgrant, -⟩ := grantRule?_eq_some hrule
    cases hgrant.symm.trans hdeny
  · rcases mem_escalationRules h with h | hdenial | rfl
    · obtain ⟨a, -, rfl⟩ := List.mem_map.mp h
      cases hdeny
    · exact hdenial
    · cases hdeny

/-! ## Delegations -/

/-- The role that a delegation hands over to the bearer, if it does and the role is there. -/
def delegatedRole? (b : Bearer) (access : DelegatedAccess) : Option Role :=
  access.delegation.role.bind fun id => Role.matching? access.role id b.organization

/-- The rules about the permissions that a delegation hands over. -/
def permissionRules (permissions : List StoredPermission) : List Rule :=
  permissions.filterMap fun names =>
    names.resolve?.map fun p => .grant p.action (.only p.resourceType) .delegation

theorem mem_permissionRules {permissions : List StoredPermission} {rule : Rule} :
    rule ∈ permissionRules permissions ↔ ∃ names ∈ permissions, ∃ p, names.resolve? = some p ∧
      rule = .grant p.action (.only p.resourceType) .delegation := by
  simp only [permissionRules, List.mem_filterMap, Option.map_eq_some_iff, eq_comm (b := rule)]

theorem delegationRules_of_role {access : DelegatedAccess} {id : RoleId}
    (h : access.delegation.role = some id) :
    b.delegationRules access = match b.delegatedRole? access with
      | some role => b.roleRules .delegation .delegation (.ofRole role)
      | none => [] := by
  rw [delegationRules, delegatedRole?, h]
  rfl

theorem delegationRules_of_permissions {access : DelegatedAccess}
    (h : access.delegation.role = none) :
    b.delegationRules access = permissionRules access.delegation.permissions := by
  rw [delegationRules, h]
  rfl

/-- A delegation makes the rules of the role that it hands over, or those of its permissions. -/
theorem mem_delegationRules {access : DelegatedAccess} {rule : Rule}
    (h : rule ∈ b.delegationRules access) :
    (∃ role, b.delegatedRole? access = some role ∧
      rule ∈ b.roleRules .delegation .delegation (.ofRole role)) ∨
    rule ∈ permissionRules access.delegation.permissions := by
  cases hid : access.delegation.role with
  | none =>
      rw [delegationRules_of_permissions hid] at h
      exact .inr h
  | some id =>
      rw [delegationRules_of_role hid] at h
      cases hrole : b.delegatedRole? access with
      | none => simp [hrole] at h
      | some role => exact .inl ⟨role, rfl, by simpa [hrole] using h⟩

/-- The denials of a delegation are those of the administrators' level. -/
theorem denial_of_mem_delegationRules {access : DelegatedAccess} {rule : Rule}
    (h : rule ∈ b.delegationRules access) (hdeny : rule.effect = .deny) :
    ∃ a ∈ protectedActions, rule = adminDenial .delegation a := by
  rcases mem_delegationRules h with ⟨role, -, h⟩ | h
  · exact denial_of_mem_roleRules h hdeny
  · obtain ⟨names, -, p, -, rfl⟩ := mem_permissionRules.mp h
    cases hdeny

/-- A delegation denies what the role denies that it hands over. -/
theorem verdict?_delegationRules_eq_deny {access : DelegatedAccess} :
    verdict? (b.delegationRules access) action target = some .deny ↔
      ∃ role, b.delegatedRole? access = some role ∧ role.priority.isAdmin = true ∧
        role.priority.isOwner = false ∧ OwnerProtected action target := by
  cases hid : access.delegation.role with
  | none =>
      have hrole : b.delegatedRole? access = none := by simp [delegatedRole?, hid]
      rw [delegationRules_of_permissions hid, hrole]
      constructor
      · intro h
        obtain ⟨rule, hrule, -, hdeny⟩ := exists_rule_of_verdict? h
        obtain ⟨names, -, p, -, rfl⟩ := mem_permissionRules.mp hrule
        cases hdeny
      · rintro ⟨role, hrole, -⟩
        cases hrole
  | some id =>
      rw [delegationRules_of_role hid]
      cases b.delegatedRole? access with
      | none => simp
      | some role => simp [verdict?_roleRules_eq_deny, BaseRole.ofRole]

/-- Permissions that are handed over decide the checks that they are about. -/
theorem exists_permission_of_verdict? {permissions : List StoredPermission} {effect : Effect}
    (h : verdict? (permissionRules permissions) action target = some effect) :
    ∃ names ∈ permissions, ∃ p, names.resolve? = some p ∧ p.action.covers action = true ∧
      p.resourceType = target.resourceType := by
  obtain ⟨rule, hrule, happlies, -⟩ := exists_rule_of_verdict? h
  obtain ⟨names, hnames, p, hp, rfl⟩ := mem_permissionRules.mp hrule
  obtain ⟨hcovers, htype⟩ := covers_of_rule rfl rfl happlies
  exact ⟨names, hnames, p, hp, hcovers, htype⟩

/-! ## Overrides -/

/-- The rule of an override is about its permission, on the one resource in the organization. -/
theorem overrideRule?_eq_some {o : Override} {rule : Rule} (h : b.overrideRule? o = some rule) :
    ∃ p, o.resolve? = some p ∧ rule.effect = (if o.granted then .grant else .deny) ∧
      rule.action = p.action ∧ rule.subject = .only p.resourceType ∧
      rule.conditions = [.inOrganization b.organization, .isResource o.resourceId] ∧
      rule.source = .override := by
  obtain ⟨p, hp, rfl⟩ := Option.map_eq_some_iff.mp h
  exact ⟨p, hp, rfl, rfl, rfl, rfl, rfl⟩

/-- What an override grants: its permission on its resource, and on the type as a whole. -/
theorem verdict?_overrideRule?_eq_grant {o : Override} :
    verdict? (b.overrideRule? o).toList action target = some .grant ↔
      o.granted = true ∧ ∃ p, o.resolve? = some p ∧ p.action.covers action = true ∧
        p.resourceType = target.resourceType ∧
        ∀ r, target = .resource r → r.organization = b.organization ∧ r.id = o.resourceId := by
  rw [overrideRule?]
  cases o.resolve? with
  | none => simp
  | some p =>
      rw [Option.map_some, Option.toList_some, verdict?_singleton]
      cases hgranted : o.granted with
      | false =>
          simp only [Bool.false_eq_true, if_false, false_and, iff_false]
          split <;> simp
      | true =>
          cases target with
          | ofType t => simp [Rule.applies, Rule.concerns]
          | resource r => simp [Rule.applies, Rule.concerns, RuleCondition.holds, and_assoc]

/-! ## The layers of a member -/

/-- The delegations that count, in the order of their rules. -/
def delegationsInForce (b : Bearer) (now : Instant) (accesses : List DelegatedAccess) :
    List DelegatedAccess :=
  (accesses.filter (b.receives now)).mergeSort fun a b => comesBefore a.age b.age

/-- The overrides that count, in the order of their rules. -/
def overridesInForce (b : Bearer) (now : Instant) (os : List Override) : List Override :=
  (os.filter (b.isExcepted now)).mergeSort fun a b => comesBefore a.age b.age

/-- The rules of the overrides that count. -/
def overrideLayer (b : Bearer) (now : Instant) (os : List Override) : List Rule :=
  (b.overridesInForce now os).flatMap fun o => (b.overrideRule? o).toList

theorem memberRules_eq (b : Bearer) (role : BaseRole) (sources : GrantSources) (now : Instant) :
    memberRules b role sources now = b.roleRules .role .escalation role ++
      (b.delegationsInForce now sources.delegations).flatMap b.delegationRules ++
      b.overrideLayer now sources.overrides := by
  rw [overrideLayer, ← List.filterMap_eq_flatMap_toList]
  rfl

theorem mem_delegationsInForce {now : Instant} {accesses : List DelegatedAccess}
    {access : DelegatedAccess} :
    access ∈ b.delegationsInForce now accesses ↔
      access ∈ accesses ∧ b.receives now access = true := by
  rw [delegationsInForce, List.mem_mergeSort, List.mem_filter]

theorem mem_overridesInForce {now : Instant} {os : List Override} {o : Override} :
    o ∈ b.overridesInForce now os ↔ o ∈ os ∧ b.isExcepted now o = true := by
  rw [overridesInForce, List.mem_mergeSort, List.mem_filter]

theorem isExcepted_iff {now : Instant} {o : Override} :
    b.isExcepted now o = true ↔
      o.user = b.user ∧ o.organization = b.organization ∧ o.isActiveAt now = true := by
  simp only [isExcepted, Bool.and_eq_true, decide_eq_true_eq, and_assoc]

theorem mem_overrideLayer {now : Instant} {os : List Override} {rule : Rule} :
    rule ∈ b.overrideLayer now os ↔
      ∃ o ∈ os, b.isExcepted now o = true ∧ b.overrideRule? o = some rule := by
  simp [overrideLayer, mem_overridesInForce, and_assoc]

/-- The rules of a member come from the role, from a delegation or from an override. -/
theorem mem_memberRules {role : BaseRole} {sources : GrantSources} {now : Instant} {rule : Rule} :
    rule ∈ memberRules b role sources now ↔
      rule ∈ b.roleRules .role .escalation role ∨
      (∃ access ∈ sources.delegations, b.receives now access = true ∧
        rule ∈ b.delegationRules access) ∨
      ∃ o ∈ sources.overrides, b.isExcepted now o = true ∧ b.overrideRule? o = some rule := by
  rw [memberRules_eq, List.mem_append, List.mem_append, mem_overrideLayer, List.mem_flatMap,
    or_assoc]
  simp only [mem_delegationsInForce, and_assoc]

/-- A member is denied changes of owners' memberships, and what overrides deny. -/
theorem denial_of_mem_memberRules {role : BaseRole} {sources : GrantSources} {now : Instant}
    {rule : Rule} (h : rule ∈ memberRules b role sources now) (hdeny : rule.effect = .deny) :
    (∃ source, ∃ a ∈ protectedActions, rule = adminDenial source a) ∨
      ∃ o ∈ sources.overrides, b.isExcepted now o = true ∧ b.overrideRule? o = some rule := by
  rcases mem_memberRules.mp h with h | ⟨access, -, -, h⟩ | h
  · exact .inl ⟨_, denial_of_mem_roleRules h hdeny⟩
  · exact .inl ⟨_, denial_of_mem_delegationRules h hdeny⟩
  · exact .inr h

/-- Nothing is granted where no layer grants it. -/
theorem verdict?_memberRules_ne_grant {role : BaseRole} {sources : GrantSources} {now : Instant}
    (hrole : verdict? (b.roleRules .role .escalation role) action target ≠ some .grant)
    (hdelegations : ∀ access ∈ sources.delegations,
      verdict? (b.delegationRules access) action target ≠ some .grant)
    (hoverrides : ∀ o ∈ sources.overrides,
      verdict? (b.overrideRule? o).toList action target ≠ some .grant) :
    verdict? (memberRules b role sources now) action target ≠ some .grant := by
  rw [memberRules_eq]
  refine verdict?_append_ne (verdict?_append_ne hrole ?_) ?_
  · apply verdict?_flatMap_ne
    intro access haccess
    exact hdelegations access (mem_delegationsInForce.mp haccess).1
  · apply verdict?_flatMap_ne
    intro o ho
    exact hoverrides o (mem_overridesInForce.mp ho).1

/-! ## One more delegation -/

section Insertion

variable {now : Instant} {access : DelegatedAccess} {before behind : List DelegatedAccess}

/-- The other delegation counts, and its rules stand behind those of `access`: it is not older, and
where the two are of the same age it is listed later. -/
def Follows (b : Bearer) (now : Instant) (before : List DelegatedAccess) (access : DelegatedAccess)
    (behind : List DelegatedAccess) (other : DelegatedAccess) : Prop :=
  b.receives now other = true ∧
    (other ∈ before ∧ comesBefore other.age access.age = false ∨
      other ∈ behind ∧ comesBefore access.age other.age = true)

theorem delegationsInForce_of_not (h : b.receives now access = false) :
    b.delegationsInForce now (before ++ access :: behind) =
      b.delegationsInForce now (before ++ behind) := by
  simp [delegationsInForce, h]

/-- A delegation that counts stands between the others by its age, and between those of its age
by its place. -/
theorem exists_delegationsInForce_insert (before behind : List DelegatedAccess)
    (h : b.receives now access = true) :
    ∃ s t, b.delegationsInForce now (before ++ behind) = s ++ t ∧
      b.delegationsInForce now (before ++ access :: behind) = s ++ access :: t ∧
      ∀ other, other ∈ t ↔ b.Follows now before access behind other := by
  obtain ⟨s, t, hwithout, hwith, ht⟩ := exists_mergeSort_insert
    (fun a b c => comesBefore_trans a.age b.age c.age) (fun a b => comesBefore_total a.age b.age)
    (before.filter (b.receives now)) (behind.filter (b.receives now)) access
  refine ⟨s, t, ?_, ?_, ?_⟩
  · rw [delegationsInForce, List.filter_append]
    exact hwithout
  · rw [delegationsInForce, List.filter_append, List.filter_cons_of_pos h]
    exact hwith
  · intro other
    rw [ht, Follows]
    simp only [List.mem_filter, Bool.not_eq_true', and_assoc]
    cases b.receives now other <;> simp

/-- The rules of a member with one more delegation are those without it and the block of the
delegation in between.  Behind the block stand the rules of later delegations and those of the
overrides. -/
theorem exists_memberRules_insert (role : BaseRole) (sources : GrantSources)
    (h : b.receives now access = true) :
    ∃ earlier later,
      memberRules b role { sources with delegations := before ++ behind } now =
        earlier ++ later ∧
      memberRules b role { sources with delegations := before ++ access :: behind } now =
        earlier ++ b.delegationRules access ++ later ∧
      ∀ rule, rule ∈ later ↔ (∃ other, b.Follows now before access behind other ∧
        rule ∈ b.delegationRules other) ∨ rule ∈ b.overrideLayer now sources.overrides := by
  obtain ⟨s, t, hwithout, hwith, ht⟩ := exists_delegationsInForce_insert before behind h
  refine ⟨b.roleRules .role .escalation role ++ s.flatMap b.delegationRules,
    t.flatMap b.delegationRules ++ b.overrideLayer now sources.overrides, ?_, ?_, ?_⟩
  · rw [memberRules_eq, hwithout, List.flatMap_append]
    simp only [List.append_assoc]
  · rw [memberRules_eq, hwith, List.flatMap_append, List.flatMap_cons]
    simp only [List.append_assoc]
  · intro rule
    rw [List.mem_append, List.mem_flatMap]
    simp only [ht]

/-- A delegation that does not decide a check changes nothing about it. -/
theorem verdict?_memberRules_insert (role : BaseRole) (sources : GrantSources)
    (h : verdict? (b.delegationRules access) action target = none) :
    verdict? (memberRules b role { sources with delegations := before ++ access :: behind } now)
        action target =
      verdict? (memberRules b role { sources with delegations := before ++ behind } now)
        action target := by
  cases hreceives : b.receives now access with
  | false => rw [memberRules_eq, memberRules_eq, delegationsInForce_of_not hreceives]
  | true =>
      obtain ⟨earlier, later, hwithout, hwith, -⟩ :=
        exists_memberRules_insert role sources hreceives
      rw [hwith, hwithout, verdict?_append, verdict?_append, verdict?_append, h, Option.none_or]

end Insertion

end Bearer

/-- The rule set of a member. -/
def Bearer.ruleSet (b : Bearer) (role : BaseRole) (sources : GrantSources) (now : Instant) :
    RuleSet :=
  ⟨b.organization, memberRules b role sources now⟩

/-- The one whose rules are made from the sources. -/
def GrantSources.bearer (sources : GrantSources) (user : UserId) (organization : OrganizationId)
    (now : Instant) : Bearer :=
  ⟨user, organization, sources.teams, now.hour⟩

section Resolve

variable {user : UserId} {organization : OrganizationId} {sources : GrantSources}

theorem resolve_of_baseRole? {role : BaseRole} (now : Instant)
    (h : sources.baseRole? user organization = some role) :
    resolve (some user) organization sources now =
      (sources.bearer user organization now).ruleSet role sources now := by
  rw [resolve, h]
  rfl

theorem resolve_of_baseRole?_eq_none (now : Instant)
    (h : sources.baseRole? user organization = none) :
    resolve (some user) organization sources now = guestRuleSet organization := by
  rw [resolve, h]

end Resolve

/-- A delegation whose rules decide nothing about a check makes no difference to it. -/
theorem resolve_permits_insert {user : Option UserId} {organization : OrganizationId}
    {sources : GrantSources} {before behind : List DelegatedAccess} {access : DelegatedAccess}
    {now : Instant} {action : Action} {target : Target}
    (h : ∀ b : Bearer, verdict? (b.delegationRules access) action target = none) :
    (resolve user organization { sources with delegations := before ++ access :: behind }
        now).permits action target =
      (resolve user organization { sources with delegations := before ++ behind } now).permits
        action target := by
  cases user with
  | none => rfl
  | some u =>
      have hbase : ∀ ds, ({ sources with delegations := ds } : GrantSources).baseRole? u
          organization = sources.baseRole? u organization := fun _ => rfl
      simp only [resolve, hbase]
      cases sources.baseRole? u organization with
      | none => rfl
      | some role =>
          rw [Bool.eq_iff_iff, RuleSet.permits_iff, RuleSet.permits_iff,
            Bearer.verdict?_memberRules_insert role sources (h _)]

end AccessControl
