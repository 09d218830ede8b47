import AccessControl.Proofs.Exceptions

/-!
# What the two levels of authority come to

From the owners' level on a member may do everything.  Roles that are handed over between the two
levels would take away the changes of owners' memberships; without them only overrides take
anything away, each about one resource (`resolve_permits_of_owner`).

At the administrators' level a member may not change the memberships of owners, whatever else the
role grants.  Delegations get around this only with a role of another level or with permissions
about the memberships; without those only an override can permit it, on that one membership
(`resolve_denies_of_admin`).

Both times the role and the delegations have one verdict on the check, by induction over the
delegations in force, and the overrides about it have the last word.
-/

namespace AccessControl

namespace Bearer

variable {b : Bearer} {now : Instant} {role : BaseRole} {accesses : List DelegatedAccess}
variable {action : Action} {target : Target}

/-! ## The owners' level -/

/-- Delegations without a role between the two levels deny nothing. -/
theorem verdict?_delegations_ne_deny
    (h : ∀ access ∈ accesses, b.receives now access = true →
      ∀ role, b.delegatedRole? access = some role →
        ¬(RolePriority.admin ≤ role.priority ∧ role.priority < .owner)) :
    verdict? ((b.delegationsInForce now accesses).flatMap b.delegationRules) action target ≠
      some .deny := by
  refine verdict?_flatMap_ne ?_
  intro access haccess hdeny
  obtain ⟨hmem, hreceives⟩ := mem_delegationsInForce.mp haccess
  obtain ⟨role, hrole, hadmin, howner, -⟩ := verdict?_delegationRules_eq_deny.mp hdeny
  exact h access hmem hreceives role hrole (isAdmin_and_not_isOwner.mp ⟨hadmin, howner⟩)

/-- At the owners' level a role grants everything. -/
theorem verdict?_roleRules_of_owner {grantSource escalationSource : RuleSource}
    (howner : RolePriority.owner ≤ role.priority) :
    verdict? (b.roleRules grantSource escalationSource role) action target = some .grant := by
  have hlevel : role.priority.isOwner = true := decide_eq_true howner
  rw [roleRules, verdict?_append, verdict?_escalationRules_of_owner hlevel]
  rfl

/-- At the owners' level the role and the delegations grant everything, when no role between the two
levels is handed over. -/
theorem verdict?_of_owner (howner : RolePriority.owner ≤ role.priority)
    (h : ∀ access ∈ accesses, b.receives now access = true →
      ∀ role, b.delegatedRole? access = some role →
        ¬(RolePriority.admin ≤ role.priority ∧ role.priority < .owner)) :
    verdict? (b.roleRules .role .escalation role ++
      (b.delegationsInForce now accesses).flatMap b.delegationRules) action target =
        some .grant :=
  verdict?_append_of_ne (show Effect.grant ≠ .deny by rintro ⟨⟩)
    (verdict?_roleRules_of_owner howner)
    (verdict?_delegations_ne_deny h)

/-! ## The administrators' level -/

/-- The delegation gives no way around the denials of the administrators' level: a role that it
hands over is of that level, if it is there at all, and permissions that it hands over are not about
the changes of memberships. -/
def SparesOwners (b : Bearer) (access : DelegatedAccess) : Prop :=
  match access.delegation.role with
  | some _ => ∀ role, b.delegatedRole? access = some role →
      RolePriority.admin ≤ role.priority ∧ role.priority < .owner
  | none => ∀ names ∈ access.delegation.permissions, ∀ p, names.resolve? = some p →
      p.resourceType = .membership → p.action ∉ Action.manage :: protectedActions

/-- Such a delegation does not grant the changes of owners' memberships. -/
theorem SparesOwners.verdict?_ne_grant {access : DelegatedAccess} (h : b.SparesOwners access)
    (hprotected : OwnerProtected action target) :
    verdict? (b.delegationRules access) action target ≠ some .grant := by
  intro hgrant
  rw [SparesOwners] at h
  cases hid : access.delegation.role with
  | none =>
      rw [hid] at h
      rw [delegationRules_of_permissions hid] at hgrant
      obtain ⟨names, hnames, p, hp, hcovers, htype⟩ := exists_permission_of_verdict? hgrant
      obtain ⟨r, rfl, hmembership, -⟩ := hprotected.target
      refine h names hnames p hp (htype.trans hmembership) ?_
      rcases Action.covers_iff.mp hcovers with hmanage | rfl
      · exact List.mem_cons.mpr (.inl hmanage)
      · exact List.mem_cons_of_mem _ hprotected.action
  | some id =>
      rw [hid] at h
      rw [delegationRules_of_role hid] at hgrant
      cases hrole : b.delegatedRole? access with
      | none => simp [hrole] at hgrant
      | some role =>
          obtain ⟨hadmin, howner⟩ := isAdmin_and_not_isOwner.mpr (h role hrole)
          simp only [hrole] at hgrant
          have hdeny : verdict? (b.roleRules .delegation .delegation (.ofRole role)) action target =
              some .deny := verdict?_roleRules_eq_deny.mpr ⟨hadmin, howner, hprotected⟩
          cases hgrant.symm.trans hdeny

/-- At the administrators' level the role and the delegations deny the changes of owners'
memberships, when all delegations spare owners. -/
theorem verdict?_of_sparesOwners (hadmin : RolePriority.admin ≤ role.priority)
    (hbelow : role.priority < .owner)
    (h : ∀ access ∈ accesses, b.receives now access = true → b.SparesOwners access)
    (hprotected : OwnerProtected action target) :
    verdict? (b.roleRules .role .escalation role ++
      (b.delegationsInForce now accesses).flatMap b.delegationRules) action target =
        some .deny := by
  obtain ⟨hadmin, howner⟩ := isAdmin_and_not_isOwner.mpr ⟨hadmin, hbelow⟩
  refine verdict?_append_of_ne (show Effect.deny ≠ .grant by rintro ⟨⟩)
    (verdict?_roleRules_eq_deny.mpr ⟨hadmin, howner, hprotected⟩) (verdict?_flatMap_ne ?_)
  intro access haccess
  obtain ⟨hmem, hreceives⟩ := mem_delegationsInForce.mp haccess
  exact (h access hmem hreceives).verdict?_ne_grant hprotected

end Bearer

/-! ## Rule sets of members -/

section Resolved

variable {user : UserId} {organization : OrganizationId} {sources : GrantSources} {now : Instant}
variable {role : BaseRole} {action : Action} {r : Resource}

/-- From the owners' level on a member may do everything about every type, and everything about
every resource of the organization but what the latest override about it denies. -/
theorem resolve_permits_of_owner (hrole : sources.baseRole? user organization = some role)
    (howner : RolePriority.owner ≤ role.priority)
    (hdelegations : ∀ access ∈ sources.delegations,
      (sources.bearer user organization now).receives now access = true →
      ∀ role, (sources.bearer user organization now).delegatedRole? access = some role →
        ¬(RolePriority.admin ≤ role.priority ∧ role.priority < .owner)) :
    (∀ action t,
      (resolve (some user) organization sources now).permits action (.ofType t) = true) ∧
    ∀ action r, r.organization = organization →
      ((resolve (some user) organization sources now).permits action (.resource r) = false ↔
        ∃ o, IsLatest Override.age ((sources.bearer user organization now).overridesAbout now
          sources.overrides action r) o ∧ o.granted = false) := by
  constructor
  · intro action t
    have hlevel : role.priority.isOwner = true := decide_eq_true howner
    rw [resolve_permits_ofType_iff, resolve_of_baseRole? now hrole]
    refine ⟨.grant .manage .all .escalation, ?_, rfl, rfl⟩
    refine Bearer.mem_memberRules.mpr (.inl (Bearer.mem_roleRules.mpr (.inr ?_)))
    rw [Bearer.escalationRules_eq, if_pos hlevel]
    exact List.mem_append_right _ (List.mem_singleton_self _)
  · intro action r hr
    rw [resolve_of_baseRole? now hrole]
    by_cases hnil : (sources.bearer user organization now).overridesAbout now sources.overrides
        action r = []
    · have hpermitted := (Bearer.permits_iff_of_overridesAbout_eq_nil hr hnil).mpr
        (Bearer.verdict?_of_owner howner hdelegations)
      rw [hpermitted, hnil]
      refine iff_of_false (by simp) ?_
      rintro ⟨o, ho, -⟩
      cases ho.mem
    · constructor
      · intro hdenied
        obtain ⟨o, ho⟩ := exists_isLatest Override.age hnil
        rw [Bearer.permits_of_isLatest hr ho] at hdenied
        exact ⟨o, ho, hdenied⟩
      · rintro ⟨o, ho, hdenied⟩
        rw [Bearer.permits_of_isLatest hr ho, hdenied]

/-- At the administrators' level a member is denied the changes of an owner's membership, unless
an override in force grants the change on this membership. -/
theorem resolve_denies_of_admin (hrole : sources.baseRole? user organization = some role)
    (hadmin : RolePriority.admin ≤ role.priority) (hbelow : role.priority < .owner)
    (hdelegations : ∀ access ∈ sources.delegations,
      (sources.bearer user organization now).receives now access = true →
      (sources.bearer user organization now).SparesOwners access)
    (haction : action ∈ protectedActions) (htype : r.resourceType = .membership)
    (hr : r.organization = organization) (hkey : r.roleKey = some ownerRoleKey) :
    (resolve (some user) organization sources now).permits action (.resource r) = false ∨
      ∃ o ∈ sources.overrides, (sources.bearer user organization now).isExcepted now o = true ∧
        o.isAbout action r = true ∧ o.granted = true := by
  rw [resolve_of_baseRole? now hrole]
  by_cases hnil : (sources.bearer user organization now).overridesAbout now sources.overrides
      action r = []
  · refine .inl (Bool.eq_false_iff.mpr ?_)
    intro hpermitted
    have hgrant := (Bearer.permits_iff_of_overridesAbout_eq_nil hr hnil).mp hpermitted
    have hdeny := Bearer.verdict?_of_sparesOwners hadmin hbelow hdelegations
      ⟨haction, r, rfl, htype, hkey⟩
    cases hgrant.symm.trans hdeny
  · obtain ⟨o, ho⟩ := exists_isLatest Override.age hnil
    rw [Bearer.permits_of_isLatest hr ho]
    obtain ⟨hmem, hexcepted, habout⟩ := Bearer.mem_overridesAbout.mp ho.mem
    cases hgranted : o.granted with
    | false => exact .inl rfl
    | true => exact .inr ⟨o, hmem, hexcepted, habout, hgranted⟩

end Resolved

/-! ## An owner and a steward -/

namespace Sample

def chiefRole : Role := customRole 7 ⟨"chief", by decide⟩ ⟨120, by decide⟩ []

def helperRole : Role :=
  customRole 8 ⟨"helper", by decide⟩ ⟨79, by decide⟩ [.unconditional ⟨.task, .read⟩]

/-- An owner with exceptions, who receives a role from above the one level and a role from below the
other. -/
def ownerSources : GrantSources :=
  { exceptedSources with
    delegations := [received 1 owner chiefRole, received 2 owner helperRole] }

/-- The membership of the owner. -/
def ownerMembership : Resource := .ofMembership organization owner ownerRoleKey

/-- A steward with an exception about the membership of somebody else. -/
def stewardOfOthers : GrantSources :=
  stewardSources [exception 1 steward ⟨.membership, .manage⟩ admin.toString true]

end Sample

open Sample

/-- The owner may do everything but change the one task. -/
theorem owner_permitted_all_but_excepted :
    let rules := resolve (some owner) organization ownerSources ⟨0⟩
    rules.permits .exportData (.ofType .auditLog) = true ∧
      rules.permits .update (.resource (task "7")) = false ∧
      rules.permits .update (.resource (task "8")) = true := by
  intro rules
  have hrole : ownerSources.baseRole? owner organization = some (.ofLegacy .owner) := rfl
  have hdelegations : ∀ access ∈ ownerSources.delegations,
      (ownerSources.bearer owner organization ⟨0⟩).receives ⟨0⟩ access = true →
      ∀ role, (ownerSources.bearer owner organization ⟨0⟩).delegatedRole? access = some role →
        ¬(RolePriority.admin ≤ role.priority ∧ role.priority < .owner) := by
    intro access haccess _ role hreceived
    simp only [ownerSources, List.mem_cons, List.not_mem_nil, or_false] at haccess
    rcases haccess with rfl | rfl
    · obtain rfl : chiefRole = role := Option.some.inj hreceived
      decide
    · obtain rfl : helperRole = role := Option.some.inj hreceived
      decide
  obtain ⟨htypes, hresources⟩ := resolve_permits_of_owner hrole (by decide) hdelegations
  refine ⟨htypes .exportData .auditLog, ?_, ?_⟩
  · refine (hresources .update (task "7") rfl).mpr
      ⟨exception 2 owner ⟨.task, .update⟩ "7" false, isLatest_of_forall ?_ ?_ ?_, rfl⟩ <;> decide
  · refine Bool.eq_true_of_not_eq_false ?_
    intro hdenied
    obtain ⟨o, ho, -⟩ := (hresources .update (task "8") rfl).mp hdenied
    have hnil : (ownerSources.bearer owner organization ⟨0⟩).overridesAbout ⟨0⟩
        ownerSources.overrides .update (task "8") = [] := by decide
    have hmem := ho.mem
    rw [hnil] at hmem
    cases hmem

/-- The steward, who holds a grant on all memberships as a deputy, cannot remove the owner. -/
theorem steward_denied_removal_of_owner :
    (resolve (some steward) organization stewardOfOthers ⟨0⟩).permits .destroy
      (.resource ownerMembership) = false := by
  have hdelegations : ∀ access ∈ stewardOfOthers.delegations,
      (stewardOfOthers.bearer steward organization ⟨0⟩).receives ⟨0⟩ access = true →
      (stewardOfOthers.bearer steward organization ⟨0⟩).SparesOwners access := by
    intro access haccess _
    obtain rfl := List.mem_singleton.mp haccess
    intro role hreceived
    obtain rfl : deputyRole = role := Option.some.inj hreceived
    decide
  have haction : Action.destroy ∈ protectedActions := by decide
  rcases resolve_denies_of_admin (r := ownerMembership) (baseRole?_stewardSources _) (by decide)
    (by decide) hdelegations haction rfl rfl rfl with hdenied | ⟨o, ho, -, habout, -⟩
  · exact hdenied
  · obtain rfl := List.mem_singleton.mp ho
    exact absurd habout (by decide +kernel)

end AccessControl
