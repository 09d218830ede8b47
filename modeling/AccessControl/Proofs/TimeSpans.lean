import AccessControl.Proofs.Administration.Overrides
import AccessControl.Proofs.WholeTypes

/-!
# Rules from one time to another

Two things tell the rules of one time from those of another: the hour of the day, at which grants
that are restricted in time open and close, and the delegations and overrides that are in force.  A
delegation counts from its start on and no more at its end.  An override counts from the beginning,
and no more at its end if it has one.  What is revoked never counts.

So while the hour stays the same the rules stay the same from one bound to the next, the next one
excluded (`Bearer.memberRules_eq_of_quiet`).  What begins to count puts its rules in at one place
among the others and changes nothing else; what ends takes them out again (`resolve_eq_of_quiet`).
-/

namespace AccessControl

/-! ## Bounds -/

/-- A bound that is not passed between two times has come at both of them or at neither. -/
theorem Instant.le_iff_of_not_passed {t u bound : Instant} (hle : t ≤ u)
    (h : ¬(t < bound ∧ bound ≤ u)) : bound ≤ t ↔ bound ≤ u := by
  rw [le_iff] at hle ⊢
  rw [lt_iff, le_iff] at h
  rw [le_iff]
  omega

/-- Behind `t`, and up to `u`, no delegation starts or ends and no override ends. -/
structure GrantSources.Quiet (sources : GrantSources) (t u : Instant) : Prop where
  starts : ∀ access ∈ sources.delegations,
    ¬(t < access.delegation.startsAt ∧ access.delegation.startsAt ≤ u)
  ends : ∀ access ∈ sources.delegations,
    ¬(t < access.delegation.endsAt ∧ access.delegation.endsAt ≤ u)
  expires : ∀ o ∈ sources.overrides, ∀ bound, o.expiresAt = some bound →
    ¬(t < bound ∧ bound ≤ u)

theorem Delegation.isActiveAt_eq {d : Delegation} {t u : Instant}
    (hstart : d.startsAt ≤ t ↔ d.startsAt ≤ u) (hend : d.endsAt ≤ t ↔ d.endsAt ≤ u) :
    d.isActiveAt t = d.isActiveAt u := by
  rw [Bool.eq_iff_iff, isActiveAt_iff, isActiveAt_iff, hstart, ← Instant.not_le, hend,
    Instant.not_le]

theorem Override.isActiveAt_eq {o : Override} {t u : Instant}
    (hend : ∀ bound, o.expiresAt = some bound → (bound ≤ t ↔ bound ≤ u)) :
    o.isActiveAt t = o.isActiveAt u := by
  have hopen : ∀ bound, o.expiresAt = some bound → (t < bound ↔ u < bound) := by
    intro bound hbound
    rw [← Instant.not_le, hend bound hbound, Instant.not_le]
  rw [Bool.eq_iff_iff, isActiveAt_iff, isActiveAt_iff]
  exact and_congr_right fun _ => forall₂_congr hopen

/-- The delegation is for the user in the organization, it is not revoked, it has started and it has
not ended. -/
structure Delegation.CountsFor (d : Delegation) (user : UserId) (organization : OrganizationId)
    (now : Instant) : Prop where
  delegatee : d.delegatee = user
  organization : d.organization = organization
  unrevoked : d.active = true
  started : d.startsAt ≤ now
  ongoing : now < d.endsAt

/-- The override is for the user in the organization, it is not revoked, and it has not ended if it
ends at all. -/
structure Override.CountsFor (o : Override) (user : UserId) (organization : OrganizationId)
    (now : Instant) : Prop where
  user : o.user = user
  organization : o.organization = organization
  unrevoked : o.revokedAt = none
  ongoing : ∀ bound, o.expiresAt = some bound → now < bound

namespace Bearer

variable {b : Bearer} {sources : GrantSources} {t u now : Instant}

/-! ## Between two bounds -/

theorem delegationsInForce_eq_of_quiet (hle : t ≤ u) (h : sources.Quiet t u) :
    b.delegationsInForce t sources.delegations = b.delegationsInForce u sources.delegations := by
  rw [delegationsInForce, delegationsInForce]
  congr 1
  refine List.filter_congr fun access haccess => ?_
  have hactive : access.delegation.isActiveAt t = access.delegation.isActiveAt u :=
    Delegation.isActiveAt_eq (Instant.le_iff_of_not_passed hle (h.starts access haccess))
      (Instant.le_iff_of_not_passed hle (h.ends access haccess))
  rw [receives, receives, hactive]

theorem overridesInForce_eq_of_quiet (hle : t ≤ u) (h : sources.Quiet t u) :
    b.overridesInForce t sources.overrides = b.overridesInForce u sources.overrides := by
  rw [overridesInForce, overridesInForce]
  congr 1
  refine List.filter_congr fun o ho => ?_
  have hactive : o.isActiveAt t = o.isActiveAt u := Override.isActiveAt_eq fun bound hbound =>
    Instant.le_iff_of_not_passed hle (h.expires o ho bound hbound)
  rw [isExcepted, isExcepted, hactive]

/-- Where no bound is passed the rules of a member stay the same. -/
theorem memberRules_eq_of_quiet (hle : t ≤ u) (h : sources.Quiet t u) (role : BaseRole) :
    memberRules b role sources t = memberRules b role sources u := by
  rw [memberRules_eq, memberRules_eq, overrideLayer, overrideLayer,
    delegationsInForce_eq_of_quiet hle h, overridesInForce_eq_of_quiet hle h]

/-! ## What counts at a time -/

theorem receives_iff_countsFor {access : DelegatedAccess} :
    b.receives now access = true ↔ access.delegation.CountsFor b.user b.organization now := by
  simp only [receives, Bool.and_eq_true, decide_eq_true_eq, Delegation.isActiveAt_iff]
  constructor
  · rintro ⟨⟨hdelegatee, horganization⟩, hunrevoked, hstarted, hopen⟩
    exact ⟨hdelegatee, horganization, hunrevoked, hstarted, hopen⟩
  · intro h
    exact ⟨⟨h.delegatee, h.organization⟩, h.unrevoked, h.started, h.ongoing⟩

theorem isExcepted_iff_countsFor {o : Override} :
    b.isExcepted now o = true ↔ o.CountsFor b.user b.organization now := by
  rw [isExcepted_iff, Override.isActiveAt_iff]
  constructor
  · rintro ⟨huser, horganization, hunrevoked, hopen⟩
    exact ⟨huser, horganization, hunrevoked, hopen⟩
  · intro h
    exact ⟨h.user, h.organization, h.unrevoked, h.ongoing⟩

/-- An override that counts stands between the others by its age. -/
theorem exists_overridesInForce_insert {o : Override} (before behind : List Override)
    (h : b.isExcepted now o = true) :
    ∃ s t, b.overridesInForce now (before ++ behind) = s ++ t ∧
      b.overridesInForce now (before ++ o :: behind) = s ++ o :: t := by
  obtain ⟨s, t, hwithout, hwith, -⟩ := exists_mergeSort_insert
    (fun a b c => comesBefore_trans (Override.age a) b.age c.age)
    (fun a b => comesBefore_total (Override.age a) b.age)
    (before.filter (b.isExcepted now)) (behind.filter (b.isExcepted now)) o
  refine ⟨s, t, ?_, ?_⟩
  · rw [overridesInForce, List.filter_append]
    exact hwithout
  · rw [overridesInForce, List.filter_append, List.filter_cons_of_pos h]
    exact hwith

theorem overridesInForce_of_not {o : Override} {before behind : List Override}
    (h : b.isExcepted now o = false) :
    b.overridesInForce now (before ++ o :: behind) = b.overridesInForce now (before ++ behind) := by
  simp [overridesInForce, h]

end Bearer

/-! ## Rules that are put in -/

/-- Under the condition the other rule set has the rules of the block put in at one place, and else
it is the same. -/
structure RuleSet.GainsWhile (counts : Prop) (s : RuleSet) (block : List Rule) (t : RuleSet) :
    Prop where
  organization : t.organization = s.organization
  gained : counts →
    ∃ earlier later, s.rules = earlier ++ later ∧ t.rules = earlier ++ block ++ later
  same : ¬counts → t.rules = s.rules

namespace Bearer

variable (b : Bearer) (role : BaseRole) (sources : GrantSources) (now : Instant)

/-- A delegation puts its rules in while it counts. -/
theorem gainsWhile_delegation (before : List DelegatedAccess) (access : DelegatedAccess)
    (behind : List DelegatedAccess) :
    (b.ruleSet role { sources with delegations := before ++ behind } now).GainsWhile
      (access.delegation.CountsFor b.user b.organization now) (b.delegationRules access)
      (b.ruleSet role { sources with delegations := before ++ access :: behind } now) where
  organization := rfl
  gained h := by
    obtain ⟨earlier, later, hwithout, hwith, -⟩ :=
      exists_memberRules_insert role sources (receives_iff_countsFor.mpr h)
    exact ⟨earlier, later, hwithout, hwith⟩
  same h := by
    have hnot : b.receives now access = false :=
      Bool.eq_false_iff.mpr fun hreceives => h (receives_iff_countsFor.mp hreceives)
    rw [ruleSet, ruleSet, memberRules_eq, memberRules_eq, delegationsInForce_of_not hnot]

/-- An override puts its rule in while it counts. -/
theorem gainsWhile_override (before : List Override) (o : Override) (behind : List Override) :
    (b.ruleSet role { sources with overrides := before ++ behind } now).GainsWhile
      (o.CountsFor b.user b.organization now) (b.overrideRule? o).toList
      (b.ruleSet role { sources with overrides := before ++ o :: behind } now) where
  organization := rfl
  gained h := by
    obtain ⟨s, t, hwithout, hwith⟩ :=
      exists_overridesInForce_insert before behind (isExcepted_iff_countsFor.mpr h)
    refine ⟨b.roleRules .role .escalation role ++
      (b.delegationsInForce now sources.delegations).flatMap b.delegationRules ++
      s.flatMap (fun o => (b.overrideRule? o).toList),
      t.flatMap (fun o => (b.overrideRule? o).toList), ?_, ?_⟩
    · rw [ruleSet, memberRules_eq, overrideLayer, hwithout, List.flatMap_append]
      simp only [List.append_assoc]
    · rw [ruleSet, memberRules_eq, overrideLayer, hwith, List.flatMap_append, List.flatMap_cons]
      simp only [List.append_assoc]
  same h := by
    have hnot : b.isExcepted now o = false :=
      Bool.eq_false_iff.mpr fun hexcepted => h (isExcepted_iff_countsFor.mp hexcepted)
    rw [ruleSet, ruleSet, memberRules_eq, memberRules_eq, overrideLayer, overrideLayer,
      overridesInForce_of_not hnot]

end Bearer

/-! ## Rule sets of users -/

/-- In one hour of the day the rules of a user stay the same from one bound to the next.  A
delegation puts its rules in exactly while it counts for the member, which is from its start on and
before its end unless it is revoked, and an override its rule exactly while it counts, which is
before its end unless it is revoked. -/
theorem resolve_eq_of_quiet (user : Option UserId) (organization : OrganizationId)
    (sources : GrantSources) :
    (∀ t u : Instant, t ≤ u → t.hour = u.hour → sources.Quiet t u →
      resolve user organization sources t = resolve user organization sources u) ∧
    ∀ member role now, user = some member → sources.baseRole? member organization = some role →
      (∀ before access behind, sources.delegations = before ++ access :: behind →
        (resolve user organization { sources with delegations := before ++ behind } now).GainsWhile
          (access.delegation.CountsFor member organization now)
          ((sources.bearer member organization now).delegationRules access)
          (resolve user organization sources now)) ∧
      ∀ before o behind, sources.overrides = before ++ o :: behind →
        (resolve user organization { sources with overrides := before ++ behind } now).GainsWhile
          (o.CountsFor member organization now)
          ((sources.bearer member organization now).overrideRule? o).toList
          (resolve user organization sources now) := by
  constructor
  · intro t u hle hhour hquiet
    cases user with
    | none => rfl
    | some member =>
        cases hrole : sources.baseRole? member organization with
        | none =>
            rw [resolve_of_baseRole?_eq_none t hrole, resolve_of_baseRole?_eq_none u hrole]
        | some role =>
            rw [resolve_of_baseRole? t hrole, resolve_of_baseRole? u hrole, GrantSources.bearer,
              GrantSources.bearer, hhour, Bearer.ruleSet, Bearer.ruleSet,
              Bearer.memberRules_eq_of_quiet hle hquiet]
  · rintro member role now rfl hrole
    -- What is left out says nothing about the member's own role.
    have hresolve : ∀ s : GrantSources, s.baseRole? member organization = some role →
        resolve (some member) organization s now =
          (s.bearer member organization now).ruleSet role s now := fun _ h =>
      resolve_of_baseRole? now h
    refine ⟨fun before access behind hsources => ?_, fun before o behind hsources => ?_⟩
    · have hgains := Bearer.gainsWhile_delegation (sources.bearer member organization now) role
        sources now before access behind
      rw [← hsources] at hgains
      rw [hresolve sources hrole, hresolve { sources with delegations := before ++ behind } hrole]
      exact hgains
    · have hgains := Bearer.gainsWhile_override (sources.bearer member organization now) role
        sources now before o behind
      rw [← hsources] at hgains
      rw [hresolve sources hrole, hresolve { sources with overrides := before ++ behind } hrole]
      exact hgains

namespace Sample

/-- The steward is the owner's deputy up to time 1, and does not see a task up to time 9. -/
def boundedSources : GrantSources :=
  stewardSources [{ exception 1 steward ⟨.task, .read⟩ "7" false with expiresAt := some ⟨9⟩ }]

end Sample

open Sample in
/-- The steward's rules change at the two ends, and not in between.  At the first end all that the
delegation has put in is gone. -/
theorem steward_rules_between_ends :
    let rules := resolve (some steward) organization boundedSources
    let alone := resolve (some steward) organization { boundedSources with delegations := [] }
    rules ⟨0⟩ ≠ rules ⟨1⟩ ∧ rules ⟨1⟩ = rules ⟨8⟩ ∧ rules ⟨8⟩ ≠ rules ⟨9⟩ ∧
      (boundedSources.bearer steward organization ⟨0⟩).delegationRules
        (received 1 steward deputyRole) ≠ [] ∧
      (∃ earlier later, (alone ⟨0⟩).rules = earlier ++ later ∧ (rules ⟨0⟩).rules = earlier ++
        (boundedSources.bearer steward organization ⟨0⟩).delegationRules
          (received 1 steward deputyRole) ++ later) ∧
      (rules ⟨1⟩).rules = (alone ⟨1⟩).rules := by
  intro rules alone
  have hquiet : boundedSources.Quiet ⟨1⟩ ⟨8⟩ := by
    refine ⟨?_, ?_, ?_⟩
    · intro access haccess
      obtain rfl := List.mem_singleton.mp haccess
      decide
    · intro access haccess
      obtain rfl := List.mem_singleton.mp haccess
      decide
    · intro o ho bound hbound
      obtain rfl := List.mem_singleton.mp ho
      obtain rfl := Option.some.inj hbound
      decide
  have hsteady := (resolve_eq_of_quiet (some steward) organization boundedSources).1 ⟨1⟩ ⟨8⟩
    (by decide) (by decide) hquiet
  have hgains := fun now => ((resolve_eq_of_quiet (some steward) organization boundedSources).2
    steward (.ofRole stewardRole) now rfl (baseRole?_stewardSources _)).1 []
    (received 1 steward deputyRole) [] rfl
  have hcounts : (received 1 steward deputyRole).delegation.CountsFor steward organization ⟨0⟩ :=
    ⟨rfl, rfl, rfl, by decide, by decide⟩
  have hended : ¬(received 1 steward deputyRole).delegation.CountsFor steward organization ⟨1⟩ :=
    fun h => absurd h.ongoing (by decide)
  exact ⟨by decide +kernel, hsteady, by decide +kernel, by decide +kernel,
    (hgains ⟨0⟩).gained hcounts, (hgains ⟨1⟩).same hended⟩

end AccessControl
