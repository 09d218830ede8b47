import AccessControl.Proofs.WholeTypes

/-!
# The order of grants

Of the rules that match a check the last one decides, so a rule set is not to be put in another
order.  A role may list its grants in any order all the same.  They become one stretch of rules, all
of which grant and come from the same layer, and whatever denies stands behind the stretch.  A
search from the end stops in it or goes past it in either order; where it stops it may find another
rule, but one that tells the same.

`Interchangeable` says this of two lists of rules.  It goes over to lists put one behind the other,
and it is enough for everything that is asked of a rule set (`RuleSet.AnswersAlike`): explanations,
capabilities and what is granted without conditions are three different searches for one rule.  So
whoever reads the grants of the stored roles in another order gets other rules and the same answers
(`resolve_answersAlike_of_rearranges`).
-/

namespace AccessControl

/-! ## Lists that can stand for each other -/

/-- What an answer tells of the rule that decided. -/
def Rule.told (rule : Rule) : Effect × RuleSource := (rule.effect, rule.source)

/-- The lists have the same rules, and whatever is searched for from the end, what is found tells
the same. -/
structure Interchangeable (rules others : List Rule) : Prop where
  perm : rules.Perm others
  found : ∀ wanted : Rule → Bool,
    (rules.reverse.find? wanted).map Rule.told = (others.reverse.find? wanted).map Rule.told

section Interchangeable

variable {rules others earlier earlier' later later' : List Rule}

@[refl] theorem Interchangeable.refl (rules : List Rule) : Interchangeable rules rules :=
  ⟨.refl rules, fun _ => rfl⟩

theorem Interchangeable.append (hearlier : Interchangeable earlier earlier')
    (hlater : Interchangeable later later') :
    Interchangeable (earlier ++ later) (earlier' ++ later') where
  perm := hearlier.perm.append hlater.perm
  found wanted := by
    simp only [List.reverse_append, List.find?_append, Option.map_or, hearlier.found,
      hlater.found]

theorem Interchangeable.flatMap {α : Type} {f g : α → List Rule} {blocks : List α}
    (h : ∀ block ∈ blocks, Interchangeable (f block) (g block)) :
    Interchangeable (blocks.flatMap f) (blocks.flatMap g) := by
  induction blocks with
  | nil => rfl
  | cons block blocks ih =>
      rw [List.flatMap_cons, List.flatMap_cons]
      exact (h block (by simp)).append (ih fun other hother => h other (by simp [hother]))

/-- Where all rules tell the same, a search tells whether there is a rule to be found. -/
theorem map_told_find? {told : Effect × RuleSource} (h : ∀ rule ∈ rules, rule.told = told)
    (wanted : Rule → Bool) :
    (rules.reverse.find? wanted).map Rule.told = if rules.any wanted then some told else none := by
  cases hfound : rules.reverse.find? wanted with
  | none =>
      have hnone : rules.any wanted = false := by simpa using hfound
      simp [hnone]
  | some rule =>
      have hrule : rule ∈ rules := List.mem_reverse.mp (List.mem_of_find?_eq_some hfound)
      have hany : rules.any wanted = true :=
        List.any_eq_true.mpr ⟨rule, hrule, List.find?_some hfound⟩
      simp [hany, h rule hrule]

/-- Rules that all tell the same can stand in any order. -/
theorem interchangeable_of_perm {told : Effect × RuleSource} (hperm : rules.Perm others)
    (h : ∀ rule ∈ rules, rule.told = told) : Interchangeable rules others where
  perm := hperm
  found wanted := by
    have hothers : ∀ rule ∈ others, rule.told = told := fun rule hrule =>
      h rule (hperm.mem_iff.mpr hrule)
    rw [map_told_find? h, map_told_find? hothers, hperm.any_eq]

end Interchangeable

/-! ## Answers -/

/-- Nothing that is asked of the rule sets tells them apart. -/
structure RuleSet.AnswersAlike (s t : RuleSet) : Prop where
  explain : ∀ action target, s.explain action target = t.explain action target
  capabilities : s.capabilities = t.capabilities
  grantsUnconditionally : ∀ p, s.grantsUnconditionally p = t.grantsUnconditionally p

namespace RuleSet

variable {s t : RuleSet}

theorem explain_of_interchangeable (horganization : s.organization = t.organization)
    (h : Interchangeable s.rules t.rules) (action : Action) (target : Target) :
    s.explain action target = t.explain action target := by
  have htold : ∀ r : RuleSet, (r.deciding? action target).map Explanation.ofRule =
      ((r.deciding? action target).map Rule.told).map
        fun told => ⟨decide (told.1 = .grant), some told.2⟩ := fun r => by
    rw [Option.map_map]
    rfl
  rw [RuleSet.explain, RuleSet.explain, horganization, htold, htold, deciding?, deciding?, h.found]

theorem grantsUnconditionally_of_interchangeable (h : Interchangeable s.rules t.rules)
    (p : Permission) : s.grantsUnconditionally p = t.grantsUnconditionally p := by
  have htold : ∀ (r : RuleSet) (action : Action),
      (r.settling? action p.resourceType).any (fun rule => decide (rule.effect = .grant)) =
        ((r.settling? action p.resourceType).map Rule.told).any
          fun told => decide (told.1 = .grant) := fun r action => by
    rw [Option.any_map]
    rfl
  refine congrArg p.coveredActions.all (funext fun action => ?_)
  rw [htold, htold, settling?, settling?, List.find?_filter, List.find?_filter, h.found]

/-- Interchangeable rules give the same answers. -/
theorem answersAlike_of_interchangeable (horganization : s.organization = t.organization)
    (h : Interchangeable s.rules t.rules) : s.AnswersAlike t where
  explain := explain_of_interchangeable horganization h
  capabilities := by
    simp only [RuleSet.capabilities, permits, explain_of_interchangeable horganization h]
  grantsUnconditionally := grantsUnconditionally_of_interchangeable h

end RuleSet

/-! ## Grants in another order -/

/-- The role with its grants in some order. -/
structure BaseRole.Rearranges (role other : BaseRole) : Prop where
  priority : role.priority = other.priority
  grants : role.grants.Perm other.grants

/-- The role with its grants in some order. -/
structure Role.Rearranges (role other : Role) : Prop where
  grants : role.grants.Perm other.grants
  rest : other = { role with grants := other.grants }

/-- The delegation, the role that it hands over with its grants in some order. -/
structure DelegatedAccess.Rearranges (access other : DelegatedAccess) : Prop where
  delegation : access.delegation = other.delegation
  role : Option.Rel Role.Rearranges access.role other.role

/-- The same is stored about a user, all roles with their grants in some order. -/
structure GrantSources.Rearranges (sources others : GrantSources) : Prop where
  membership : sources.membership = others.membership
  role : Option.Rel Role.Rearranges sources.role others.role
  teams : sources.teams = others.teams
  delegations : List.Forall₂ DelegatedAccess.Rearranges sources.delegations others.delegations
  overrides : sources.overrides = others.overrides

theorem Role.Rearranges.ofRole {role other : Role} (h : role.Rearranges other) :
    (BaseRole.ofRole role).Rearranges (.ofRole other) where
  priority := by rw [h.rest]; rfl
  grants := h.grants

/-- The role that is asked for is found in either order of its grants, or in none. -/
theorem Role.rel_matching? {role other : Option Role} (h : Option.Rel Role.Rearranges role other)
    (id : RoleId) (organization : OrganizationId) :
    Option.Rel Role.Rearranges (Role.matching? role id organization)
      (Role.matching? other id organization) := by
  cases h with
  | none => exact .none
  | @some role other h =>
      have hsame : other.id = role.id ∧ other.organization = role.organization := by
        rw [h.rest]
        exact ⟨rfl, rfl⟩
      rw [matching?, matching?, Option.filter_some, Option.filter_some, hsame.1, hsame.2]
      split
      · exact .some h
      · exact .none

theorem GrantSources.Rearranges.rel_baseRole? {sources others : GrantSources}
    (h : sources.Rearranges others) (user : UserId) (organization : OrganizationId) :
    Option.Rel BaseRole.Rearranges (sources.baseRole? user organization)
      (others.baseRole? user organization) := by
  rw [baseRole?, baseRole?, h.membership]
  cases others.membership.filter (·.isActiveFor user organization) with
  | none => exact .none
  | some m =>
      cases hrole : m.role with
      | legacy r =>
          simp only [Option.bind_eq_bind, Option.bind_some, hrole]
          exact .some ⟨rfl, .refl _⟩
      | dynamic id =>
          simp only [Option.bind_eq_bind, Option.bind_some, hrole]
          have hfound := Role.rel_matching? h.role id organization
          generalize Role.matching? sources.role id organization = found at hfound ⊢
          generalize Role.matching? others.role id organization = found' at hfound ⊢
          cases hfound with
          | none => exact .none
          | some hfound => exact .some hfound.ofRole

namespace Bearer

variable {b : Bearer}

theorem told_of_grantRule? {source : RuleSource} {g : RoleGrant} {rule : Rule}
    (h : b.grantRule? source g = some rule) : rule.told = (.grant, source) := by
  obtain ⟨p, -, h⟩ := Option.bind_eq_some_iff.mp h
  split at h
  · obtain rfl := Option.some.inj h
    rfl
  · cases h

/-- The grants of a role are one stretch of its rules. -/
theorem interchangeable_roleRules {role other : BaseRole} (h : role.Rearranges other)
    (grantSource escalationSource : RuleSource) :
    Interchangeable (b.roleRules grantSource escalationSource role)
      (b.roleRules grantSource escalationSource other) := by
  rw [roleRules, roleRules, h.priority]
  refine Interchangeable.append ?_ (.refl _)
  have htold : ∀ rule ∈ role.grants.filterMap (b.grantRule? grantSource),
      rule.told = (.grant, grantSource) := fun rule hrule => by
    obtain ⟨g, -, hg⟩ := List.mem_filterMap.mp hrule
    exact told_of_grantRule? hg
  exact interchangeable_of_perm (h.grants.filterMap _) htold

theorem interchangeable_delegationRules {access other : DelegatedAccess}
    (h : access.Rearranges other) :
    Interchangeable (b.delegationRules access) (b.delegationRules other) := by
  cases hid : other.delegation.role with
  | none =>
      rw [delegationRules_of_permissions (h.delegation ▸ hid), delegationRules_of_permissions hid,
        h.delegation]
  | some id =>
      have hfound := Role.rel_matching? h.role id b.organization
      rw [delegationRules_of_role (h.delegation ▸ hid), delegationRules_of_role hid,
        delegatedRole?, delegatedRole?, h.delegation, hid, Option.bind_some, Option.bind_some]
      generalize Role.matching? access.role id b.organization = found at hfound ⊢
      generalize Role.matching? other.role id b.organization = found' at hfound ⊢
      cases hfound with
      | none => rfl
      | some hrole => exact interchangeable_roleRules hrole.ofRole _ _

/-- Which delegations are in force, and in which order, has nothing to do with the roles that they
come with. -/
theorem exists_delegationsInForce_map {α : Type} {f g : α → DelegatedAccess} {l : List α}
    (h : ∀ a ∈ l, (f a).delegation = (g a).delegation) (now : Instant) :
    ∃ l' : List α, (∀ a ∈ l', a ∈ l) ∧ b.delegationsInForce now (l.map f) = l'.map f ∧
      b.delegationsInForce now (l.map g) = l'.map g := by
  have hreceives : l.filter (b.receives now ∘ g) = l.filter (b.receives now ∘ f) := by
    refine List.filter_congr fun a ha => ?_
    rw [Function.comp, Function.comp, receives, receives, h a ha]
  refine ⟨(l.filter (b.receives now ∘ f)).mergeSort fun a c => comesBefore (f a).age (f c).age,
    fun a ha => List.mem_of_mem_filter (List.mem_mergeSort.mp ha), ?_, ?_⟩
  · rw [delegationsInForce, List.filter_map]
    refine (List.map_mergeSort ?_).symm
    exact fun _ _ _ _ => rfl
  · rw [delegationsInForce, List.filter_map, hreceives]
    refine (List.map_mergeSort fun a ha c hc => ?_).symm
    rw [DelegatedAccess.age, DelegatedAccess.age, h a (List.mem_of_mem_filter ha),
      h c (List.mem_of_mem_filter hc)]
    rfl

theorem interchangeable_delegationLayer {accesses others : List DelegatedAccess}
    (h : List.Forall₂ DelegatedAccess.Rearranges accesses others) (now : Instant) :
    Interchangeable ((b.delegationsInForce now accesses).flatMap b.delegationRules)
      ((b.delegationsInForce now others).flatMap b.delegationRules) := by
  obtain ⟨hlength, hpairs⟩ := List.forall₂_iff_zip.mp h
  obtain ⟨pairs, hmem, hfirst, hsecond⟩ := exists_delegationsInForce_map (b := b)
    (f := Prod.fst) (g := Prod.snd) (l := accesses.zip others)
    (fun _ hpair => (hpairs hpair).delegation) now
  rw [List.map_fst_zip hlength.le] at hfirst
  rw [List.map_snd_zip hlength.ge] at hsecond
  rw [hfirst, hsecond, List.flatMap_map, List.flatMap_map]
  exact Interchangeable.flatMap fun pair hpair =>
    interchangeable_delegationRules (hpairs (hmem pair hpair))

theorem interchangeable_memberRules {role other : BaseRole} {sources others : GrantSources}
    (hrole : role.Rearranges other) (h : sources.Rearranges others) (now : Instant) :
    Interchangeable (memberRules b role sources now) (memberRules b other others now) := by
  rw [memberRules_eq, memberRules_eq, h.overrides]
  exact ((interchangeable_roleRules hrole _ _).append
    (interchangeable_delegationLayer h.delegations now)).append (.refl _)

/-- A member whose role lists its grants in another order gets the same answers. -/
theorem answersAlike_ruleSet {role other : BaseRole} {sources others : GrantSources}
    (hrole : role.Rearranges other) (h : sources.Rearranges others) (now : Instant) :
    (b.ruleSet role sources now).AnswersAlike (b.ruleSet other others now) :=
  RuleSet.answersAlike_of_interchangeable rfl (interchangeable_memberRules hrole h now)

end Bearer

/-! ## Rule sets of users -/

/-- Where the same is stored about a user and only the grants of the user's own role and of received
roles stand in another order, the user has the same rules, perhaps in another order, and whatever is
asked of them is answered alike.  The same holds where a fixed role of the user listed its grants in
another order. -/
theorem resolve_answersAlike_of_rearranges {user : Option UserId} {organization : OrganizationId}
    {sources others : GrantSources} {now : Instant} (h : sources.Rearranges others) :
    (resolve user organization sources now).AnswersAlike (resolve user organization others now) ∧
    (resolve user organization sources now).rules.Perm
      (resolve user organization others now).rules ∧
    ∀ u role other, user = some u → sources.baseRole? u organization = some role →
      role.Rearranges other →
      (resolve user organization sources now).AnswersAlike
        ((others.bearer u organization now).ruleSet other others now) := by
  have hguest : ∀ s : RuleSet, s.AnswersAlike s := fun s => ⟨fun _ _ => rfl, rfl, fun _ => rfl⟩
  cases user with
  | none => exact ⟨hguest _, .refl _, fun _ _ _ huser => nomatch huser⟩
  | some u =>
      have hbearer : sources.bearer u organization now = others.bearer u organization now := by
        rw [GrantSources.bearer, GrantSources.bearer, h.teams]
      have hroles := h.rel_baseRole? u organization
      generalize hsources : sources.baseRole? u organization = found at hroles
      generalize hothers : others.baseRole? u organization = found' at hroles
      cases hroles with
      | none =>
          rw [resolve_of_baseRole?_eq_none now hsources, resolve_of_baseRole?_eq_none now hothers]
          refine ⟨hguest _, .refl _, fun u' role other huser hrole => ?_⟩
          obtain rfl := Option.some.inj huser
          cases hsources.symm.trans hrole
      | @some role other hrole =>
          rw [resolve_of_baseRole? now hsources, resolve_of_baseRole? now hothers, hbearer]
          refine ⟨Bearer.answersAlike_ruleSet hrole h now,
            (Bearer.interchangeable_memberRules hrole h now).perm,
            fun u' role' other' huser hrole' hother => ?_⟩
          obtain rfl := Option.some.inj huser
          obtain rfl := Option.some.inj (hsources.symm.trans hrole')
          exact Bearer.answersAlike_ruleSet hother h now

namespace Sample

/-- Reviewers change their own tasks, and do everything about the tasks of their teams. -/
def reviewerGrants : List RoleGrant :=
  [{ permission := (⟨.task, .update⟩ : Permission).stored, conditions := { ownOnly := true } },
    { permission := (⟨.task, .manage⟩ : Permission).stored, conditions := { teamOnly := true } }]

/-- What is stored about a reviewer of a team, who was handed a role of the administrators' level
over with the same grants. -/
def reviewerSources (own handedOver : List RoleGrant) : GrantSources where
  membership := some (memberAs steward (.dynamic ⟨⟨7⟩⟩))
  role := some (customRole 7 ⟨"reviewer", by decide⟩ ⟨30, by decide⟩ own)
  teams := .ofList ["blue"]
  delegations := [received 1 steward
    (customRole 8 ⟨"chief_reviewer", by decide⟩ ⟨95, by decide⟩ handedOver)]

end Sample

open Sample in
/-- With the grants of both roles turned round the reviewer has other rules, and may change the same
tasks by the same layer. -/
theorem reviewer_with_grants_turned_round :
    let rules := resolve (some steward) organization
      (reviewerSources reviewerGrants reviewerGrants) ⟨0⟩
    let turned := resolve (some steward) organization
      (reviewerSources reviewerGrants.reverse reviewerGrants.reverse) ⟨0⟩
    rules.rules ≠ turned.rules ∧ rules.AnswersAlike turned ∧
      turned.explain .update (.resource
          { resourceType := .task, id := "7", organization, team := some "blue" }) =
        ⟨true, some .delegation⟩ := by
  intro rules turned
  have hturned : reviewerGrants.Perm reviewerGrants.reverse := (List.reverse_perm _).symm
  have hsources : (reviewerSources reviewerGrants reviewerGrants).Rearranges
      (reviewerSources reviewerGrants.reverse reviewerGrants.reverse) :=
    ⟨rfl, .some ⟨hturned, rfl⟩, rfl, .cons ⟨rfl, .some ⟨hturned, rfl⟩⟩ .nil, rfl⟩
  have halike : rules.AnswersAlike turned := (resolve_answersAlike_of_rearranges hsources).1
  refine ⟨by decide +kernel, halike, ?_⟩
  rw [← halike.explain]
  decide +kernel

end AccessControl
