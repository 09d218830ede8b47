import AccessControl.Proofs.Layers
import AccessControl.Proofs.Sources

/-!
# What a delegation adds to a user's authority

A delegation mostly adds authority.  A role that is handed over, however, brings the denials of
the administrators' level with it, and stands behind the rules of the user's own role: an owner
who receives an administrator's role can no longer change the memberships of owners.  This is the
only thing that a delegation takes away, and only where no later delegation and no override
decides (`resolve_permits_insert_iff`).
-/

namespace AccessControl

/-- With one more delegation a check that was permitted is denied: a role between the
administrators' and the owners' level is handed over, the check is about a change of an owner's
membership, and nothing that is later in the rule set is about it. -/
structure Withdrawn (b : Bearer) (now : Instant) (before : List DelegatedAccess)
    (access : DelegatedAccess) (behind : List DelegatedAccess) (overrides : List Override)
    (action : Action) (target : Target) : Prop where
  received : b.receives now access = true
  role : ∃ role, b.delegatedRole? access = some role ∧ RolePriority.admin ≤ role.priority ∧
    role.priority < .owner
  isProtected : OwnerProtected action target
  delegations : ∀ other, b.Follows now before access behind other →
    ∀ rule ∈ b.delegationRules other, rule.applies action target = false
  overrides : ∀ o ∈ overrides, b.isExcepted now o = true →
    ∀ rule, b.overrideRule? o = some rule → rule.applies action target = false

section Insertion

variable {b : Bearer} {now : Instant} {access : DelegatedAccess}
variable {before behind : List DelegatedAccess} {action : Action} {target : Target}

/-- A check is withdrawn when the delegation denies it and nothing behind it decides. -/
theorem withdrawn_iff {overrides : List Override} {later : List Rule}
    (hreceived : b.receives now access = true)
    (hlater : ∀ rule, rule ∈ later ↔ (∃ other, b.Follows now before access behind other ∧
      rule ∈ b.delegationRules other) ∨ rule ∈ b.overrideLayer now overrides) :
    Withdrawn b now before access behind overrides action target ↔
      verdict? (b.delegationRules access) action target = some .deny ∧
        verdict? later action target = none := by
  rw [Bearer.verdict?_delegationRules_eq_deny, verdict?_eq_none]
  constructor
  · rintro ⟨-, ⟨role, hrole, hpriority⟩, hprotected, hdelegations, hoverrides⟩
    obtain ⟨hadmin, howner⟩ := isAdmin_and_not_isOwner.mpr hpriority
    refine ⟨⟨role, hrole, hadmin, howner, hprotected⟩, ?_⟩
    intro rule hrule
    rcases (hlater rule).mp hrule with ⟨other, hother, hrule⟩ | hrule
    · exact hdelegations other hother rule hrule
    · obtain ⟨o, ho, hexcepted, hrule⟩ := Bearer.mem_overrideLayer.mp hrule
      exact hoverrides o ho hexcepted rule hrule
  · rintro ⟨⟨role, hrole, hadmin, howner, hprotected⟩, hnone⟩
    have hpriority := isAdmin_and_not_isOwner.mp ⟨hadmin, howner⟩
    refine ⟨hreceived, ⟨role, hrole, hpriority⟩, hprotected, ?_, ?_⟩
    · intro other hother rule hrule
      exact hnone rule ((hlater rule).mpr (.inl ⟨other, hother, hrule⟩))
    · intro o ho hexcepted rule hrule
      have hlayer := Bearer.mem_overrideLayer.mpr ⟨o, ho, hexcepted, hrule⟩
      exact hnone rule ((hlater rule).mpr (.inr hlayer))

/-- A check that a member is granted is still granted with one more delegation, unless it is
withdrawn. -/
theorem verdict?_memberRules_insert_iff (role : BaseRole) (sources : GrantSources)
    (h : verdict? (memberRules b role { sources with delegations := before ++ behind } now)
      action target = some .grant) :
    verdict? (memberRules b role { sources with delegations := before ++ access :: behind } now)
        action target = some .grant ↔
      ¬Withdrawn b now before access behind sources.overrides action target := by
  cases hreceived : b.receives now access with
  | false =>
      have hwithdrawn : ¬Withdrawn b now before access behind sources.overrides action target := by
        intro hw
        rw [hw.received] at hreceived
        cases hreceived
      rw [Bearer.memberRules_eq, Bearer.delegationsInForce_of_not hreceived,
        ← Bearer.memberRules_eq b role { sources with delegations := before ++ behind }]
      exact iff_of_true h hwithdrawn
  | true =>
      obtain ⟨earlier, later, hwithout, hwith, hlater⟩ :=
        Bearer.exists_memberRules_insert role sources hreceived
      rw [hwithout, verdict?_append] at h
      rw [hwith, verdict?_append, verdict?_append, withdrawn_iff hreceived hlater]
      -- What stands behind the block decides, or else the block, or else what stands before it.
      cases hbehind : verdict? later action target with
      | some effect =>
          rw [hbehind] at h
          simpa using h
      | none =>
          rw [hbehind, Option.none_or] at h
          rw [Option.none_or, h]
          cases verdict? (b.delegationRules access) action target with
          | none => simp
          | some effect => cases effect <;> simp

end Insertion

theorem guest_reads {organization : OrganizationId} {action : Action} {target : Target}
    (h : (guestRuleSet organization).permits action target = true) : action = .read := by
  obtain ⟨rule, hrule, happlies, -⟩ := exists_rule_of_verdict? (RuleSet.permits_iff.mp h).2
  obtain rfl := List.mem_singleton.mp hrule
  rcases Action.covers_iff.mp (Rule.covers_of_applies happlies) with hmanage | hread
  · cases hmanage
  · exact hread.symm

/-- One more delegation, wherever it stands among the others, keeps every permitted check
permitted, except for the ones that are withdrawn. -/
theorem resolve_permits_insert_iff {user : Option UserId} {organization : OrganizationId}
    {sources : GrantSources} (before : List DelegatedAccess) (access : DelegatedAccess)
    (behind : List DelegatedAccess) {now : Instant} {action : Action} {target : Target}
    (h : (resolve user organization { sources with delegations := before ++ behind } now).permits
      action target = true) :
    (resolve user organization { sources with delegations := before ++ access :: behind }
        now).permits action target = true ↔
      ∀ u, user = some u → ¬Withdrawn ⟨u, organization, sources.teams, now.hour⟩ now before access
        behind sources.overrides action target := by
  cases user with
  | none => exact iff_of_true h (by rintro u ⟨⟩)
  | some u =>
      have hbase : ∀ ds, ({ sources with delegations := ds } : GrantSources).baseRole? u
          organization = sources.baseRole? u organization := fun _ => rfl
      simp only [resolve, hbase] at h ⊢
      cases hrole : sources.baseRole? u organization with
      | none =>
          rw [hrole] at h
          refine iff_of_true h ?_
          intro u' hu hwithdrawn
          have hprotected := hwithdrawn.isProtected.action
          rw [guest_reads h] at hprotected
          exact absurd hprotected (by decide)
      | some role =>
          rw [hrole] at h
          obtain ⟨hreach, hverdict⟩ := RuleSet.permits_iff.mp h
          rw [RuleSet.permits_iff, and_iff_right hreach,
            verdict?_memberRules_insert_iff role sources hverdict]
          constructor
          · rintro hnot u' hu
            obtain rfl := Option.some.inj hu
            exact hnot
          · intro hnot
            exact hnot u rfl

/-! ## An owner with an administrator's role -/

namespace Sample

/-- The role of the administrators, handed over to the owner. -/
def adminShare : DelegatedAccess :=
  store.access organization
    { id := ⟨⟨1⟩⟩, organization, delegator := admin, delegatee := owner,
      role := some (roleId .admin), permissions := [], startsAt := ⟨0⟩, endsAt := ⟨1⟩,
      active := true, revokedAt := none, reason := none, createdAt := ⟨0⟩ }

/-- The owner's rules with these delegations. -/
def ownerRules (accesses : List DelegatedAccess) : RuleSet :=
  resolve (some owner) organization
    { store.sources organization owner with delegations := accesses } ⟨0⟩

/-- The membership of a user with a role of the given key. -/
def membership (user : UserId) (key : String) : Target :=
  .resource (.ofMembership organization user key)

end Sample

open Sample

/-- The owner can still change the roles of other members. -/
theorem owner_changes_role_of_viewer :
    (ownerRules [adminShare]).permits .changeRole (membership viewer "viewer") = true := by
  have hwithout : (ownerRules ([] ++ [])).permits .changeRole (membership viewer "viewer") =
      true := by decide +kernel
  refine (resolve_permits_insert_iff [] adminShare [] hwithout).mpr ?_
  intro u _ hwithdrawn
  obtain ⟨r, hr, -, hkey⟩ := hwithdrawn.isProtected.target
  obtain rfl := Target.resource.inj hr
  exact absurd hkey (by decide)

/-- The owner can no longer change the role of an owner. -/
theorem owner_denied_role_of_owner :
    (ownerRules []).permits .changeRole (membership owner ownerRoleKey) = true ∧
      (ownerRules [adminShare]).permits .changeRole (membership owner ownerRoleKey) = false :=
  ⟨by decide +kernel, by decide +kernel⟩

end AccessControl
