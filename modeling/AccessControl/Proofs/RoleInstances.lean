import AccessControl.Proofs.Administration.Operation
import AccessControl.Proofs.Exceptions
import AccessControl.Proofs.Outsiders
import AccessControl.Proofs.Reach

/-!
# One role, and roles as a whole

The operations that change or delete a role ask whether the actor may do so with roles as a whole.
That is a weaker question than the one about the role itself: a conditional grant is enough for it,
and a grant by an override about another role; and no denial by an override counts.  The one who
succeeds holds the permission on the role itself exactly when the latest override about it grants
it, or there is none and something gives it on every role
(`Administration.OnRole.permits_role_iff`).
-/

namespace AccessControl

open Administration

/-- A role as a resource.  It has no owner, and is in no team and no service. -/
def Resource.ofRole (organization : OrganizationId) (id : RoleId) : Resource :=
  { resourceType := .role, id := id.toString, organization }

/-! ## What is held on every role -/

namespace Bearer

variable {b : Bearer} {action : Action} {organization : OrganizationId} {id : RoleId}

theorem not_ownerProtected_ofRole :
    ¬OwnerProtected action (.resource (.ofRole organization id)) := by
  rintro ⟨-, r, hr, htype, -⟩
  obtain rfl := Target.resource.inj hr
  cases htype

/-- A role is nobody's own. -/
theorem reaches_ofRole_iff {g : RoleGrant} :
    b.Reaches g action (.ofRole organization id) ↔ b.ReachesUnattached g action .role False := by
  refine reaches_iff_of_unattached rfl rfl (iff_false_intro ?_)
  rintro ⟨field, -, howner⟩
  cases field <;> cases howner

/-- A role gives its bearer the action on every role, by its level or by a grant. -/
def RoleGives (b : Bearer) (role : BaseRole) (action : Action) : Prop :=
  RolePriority.owner ≤ role.priority ∨ ∃ g ∈ role.grants, b.ReachesUnattached g action .role False

/-- A delegation gives its bearer the action on every role, by a role or by a permission. -/
def DelegationGives (b : Bearer) (access : DelegatedAccess) (action : Action) : Prop :=
  (∃ role, b.delegatedRole? access = some role ∧ b.RoleGives (.ofRole role) action) ∨
    access.delegation.role = none ∧
      ∃ names ∈ access.delegation.permissions, ∃ p, names.resolve? = some p ∧
        p.action.covers action = true ∧ p.resourceType = .role

/-- The bearer's own role or a delegation in force gives the action on every role. -/
def HoldsOnRoles (b : Bearer) (now : Instant) (role : BaseRole) (accesses : List DelegatedAccess)
    (action : Action) : Prop :=
  b.RoleGives role action ∨
    ∃ access ∈ accesses, b.receives now access = true ∧ b.DelegationGives access action

theorem verdict?_roleRules_ofRole {grantSource escalationSource : RuleSource} {role : BaseRole} :
    verdict? (b.roleRules grantSource escalationSource role) action
        (.resource (.ofRole organization id)) = some .grant ↔ b.RoleGives role action := by
  have hadministers : ¬b.Administers role.priority (.ofRole organization id) := by
    rintro ⟨-, htype, -⟩
    cases htype
  have hopen : ¬(role.priority.isAdmin = true ∧
      OwnerProtected action (.resource (.ofRole organization id))) :=
    fun h => not_ownerProtected_ofRole h.2
  rw [verdict?_roleRules_eq_grant, and_iff_right hopen, or_iff_right hadministers]
  simp only [reaches_ofRole_iff, RoleGives, RolePriority.isOwner, decide_eq_true_eq]

theorem verdict?_delegationRules_ofRole {access : DelegatedAccess} :
    verdict? (b.delegationRules access) action (.resource (.ofRole organization id)) =
      some .grant ↔ b.DelegationGives access action := by
  simp only [verdict?_delegationRules_eq_grant, verdict?_roleRules_ofRole]
  rfl

/-- The role and the delegations grant on a role what is held on every role. -/
theorem verdict?_layers_ofRole {now : Instant} {role : BaseRole}
    {accesses : List DelegatedAccess} :
    verdict? (b.roleRules .role .escalation role ++
        (b.delegationsInForce now accesses).flatMap b.delegationRules) action
          (.resource (.ofRole organization id)) = some .grant ↔
      b.HoldsOnRoles now role accesses action := by
  have hdelegations : ∀ access ∈ b.delegationsInForce now accesses,
      verdict? (b.delegationRules access) action (.resource (.ofRole organization id)) ≠
        some .deny := by
    intro access _ hdeny
    obtain ⟨role, -, -, -, hprotected⟩ := verdict?_delegationRules_eq_deny.mp hdeny
    exact not_ownerProtected_ofRole hprotected
  rw [verdict?_append_eq_grant, verdict?_flatMap_eq_grant hdelegations,
    and_iff_right (verdict?_flatMap_ne hdelegations), verdict?_roleRules_ofRole, or_comm]
  simp only [mem_delegationsInForce, verdict?_delegationRules_ofRole, and_assoc]
  rfl

/-- The latest override in force about the role grants the action, or there is none and the action
is held on every role. -/
def HoldsOnRole (b : Bearer) (now : Instant) (role : BaseRole) (sources : GrantSources)
    (action : Action) (id : RoleId) : Prop :=
  (∃ o, IsLatest Override.age (b.overridesAbout now sources.overrides action
      (.ofRole b.organization id)) o ∧ o.granted = true) ∨
    b.overridesAbout now sources.overrides action (.ofRole b.organization id) = [] ∧
      b.HoldsOnRoles now role sources.delegations action

/-- That is when a member is permitted the action on the role. -/
theorem permits_ofRole_iff {now : Instant} {role : BaseRole} {sources : GrantSources} :
    (b.ruleSet role sources now).permits action (.resource (.ofRole b.organization id)) = true ↔
      b.HoldsOnRole now role sources action id := by
  have hhome : (Resource.ofRole b.organization id).organization = b.organization := rfl
  rw [HoldsOnRole]
  by_cases hnil : b.overridesAbout now sources.overrides action (.ofRole b.organization id) = []
  · rw [permits_iff_of_overridesAbout_eq_nil hhome hnil, verdict?_layers_ofRole,
      and_iff_right hnil]
    refine (or_iff_right ?_).symm
    rintro ⟨o, hlatest, -⟩
    have hmem := hlatest.mem
    rw [hnil] at hmem
    cases hmem
  · obtain ⟨o, hlatest⟩ := exists_isLatest Override.age hnil
    rw [permits_of_isLatest hhome hlatest]
    constructor
    · intro hgranted
      exact .inl ⟨o, hlatest, hgranted⟩
    · rintro (⟨o', hlatest', hgranted⟩ | ⟨hnone, -⟩)
      · have hsame := (getLast?_mergeSort_of_isLatest hlatest).symm.trans
          (getLast?_mergeSort_of_isLatest hlatest')
        exact Option.some.inj hsame ▸ hgranted
      · exact absurd hnone hnil

end Bearer

/-! ## Operations on one role -/

namespace Administration

/-- The operation changes or deletes the role, for which the actor needs the action. -/
inductive OnRole : Operation → RoleId → Action → Prop
  | update (id : RoleId) (change : RoleChange) : OnRole (.updateRole id change) id .update
  | addPermission (id : RoleId) (draft : GrantDraft) : OnRole (.addPermission id draft) id .update
  | removePermission (id : RoleId) (permission : Permission) :
    OnRole (.removePermission id permission) id .update
  | delete (id : RoleId) : OnRole (.deleteRole id) id .destroy

variable {s : Setting} {b : Backend} {actor : Actor} {op : Operation} {id : RoleId}
  {action : Action}

/-- Whoever has changed or deleted a role may do so with roles as a whole. -/
theorem OnRole.mayOnRoles (hop : OnRole op id action) {r : op.Result} {store : Store}
    (hdone : op.Done b s actor r store) : MayOnRoles b s actor action := by
  cases hop with
  | update =>
      obtain ⟨stored, heditable, -⟩ := hdone.stored
      exact heditable.permitted
  | addPermission =>
      obtain ⟨stored, grant, heditable, -⟩ := hdone.stored
      exact heditable.permitted
  | removePermission =>
      obtain ⟨stored, heditable, -⟩ := hdone.stored
      exact heditable.permitted
  | delete => exact hdone.permitted

/-- Whoever may do something with roles has a role of the own. -/
theorem exists_baseRole?_of_mayOnRoles (huncached : s.cacheTtl = none)
    (h : MayOnRoles b s actor action) :
    ∃ base, (b.store.sources actor.organization actor.user).baseRole? actor.user
      actor.organization = some base := by
  refine Option.ne_none_iff_exists'.mp fun hnone => ?_
  rw [MayOnRoles, Backend.rules_of_no_cache huncached, Store.rules,
    resolve_of_baseRole?_eq_none s.now hnone] at h
  cases guest_concerns_organization h

/-- Whoever changes a role or deletes one, without a cache, is permitted to by the rules of the
moment, but with roles as a whole.  On the role itself the same rules permit it exactly when the
latest of the actor's overrides in force about it grants it, or there is none and the actor's own
role or a delegation in force gives it on every role, without conditions and scope. -/
theorem OnRole.permits_role_iff (hop : OnRole op id action) (huncached : s.cacheTtl = none)
    {r : op.Result} {c : Backend} (hrun : b.run (op.perform s actor) = (.ok r, c)) :
    (b.store.rules actor.organization actor.user s.now).permits action (.ofType .role) = true ∧
    ∃ base, (b.store.sources actor.organization actor.user).baseRole? actor.user
        actor.organization = some base ∧
      ((b.store.rules actor.organization actor.user s.now).permits action
          (.resource (.ofRole actor.organization id)) = true ↔
        ((b.store.sources actor.organization actor.user).bearer actor.user actor.organization
          s.now).HoldsOnRole s.now base (b.store.sources actor.organization actor.user) action
            id) := by
  have hresult : (b.run (op.perform s actor)).1 = .ok r := congrArg Prod.fst hrun
  have hmay := hop.mayOnRoles (Operation.done_of_perform hresult)
  obtain ⟨base, hbase⟩ := exists_baseRole?_of_mayOnRoles huncached hmay
  rw [MayOnRoles, Backend.rules_of_no_cache huncached] at hmay
  refine ⟨hmay, base, hbase, ?_⟩
  rw [Store.rules, resolve_of_baseRole? s.now hbase]
  exact Bearer.permits_ofRole_iff

end Administration

/-! ## An owner who is denied changes of a role -/

namespace Sample

def visitorRole : Role := customRole 10 ⟨"visitor", by decide⟩ .viewer []

/-- The owner may not change the one role, by an override. -/
def visitorException : Override :=
  exception 1 owner ⟨.role, .update⟩ visitorRole.id.toString false

def excepted : Backend :=
  { backend with
    store := (store.putRole visitorRole).putOverride visitorException }

end Sample

open Sample

/-- The owner deletes the role, and holds that on this role too. -/
theorem owner_deletes_role_excepted_from_updates :
    ∃ c, excepted.run (Operation.perform { now := ⟨0⟩ } (actor owner)
        (.deleteRole visitorRole.id)) = (.ok (), c) ∧
      (excepted.store.rules organization owner ⟨0⟩).permits .destroy (.ofType .role) = true ∧
      (excepted.store.rules organization owner ⟨0⟩).permits .destroy
        (.resource (.ofRole organization visitorRole.id)) = true := by
  have hrun : excepted.run (Operation.perform { now := ⟨0⟩ } (actor owner)
      (.deleteRole visitorRole.id)) = (.ok (), _) := Prod.ext (by decide +kernel) rfl
  obtain ⟨htype, base, hbase, hrole⟩ := (OnRole.delete visitorRole.id).permits_role_iff rfl hrun
  obtain rfl : BaseRole.ofLegacy .owner = base := Option.some.inj hbase
  refine ⟨_, hrun, htype, hrole.mpr (.inr ⟨by decide +kernel, .inl (.inl (by decide))⟩)⟩

/-- The owner renames the role as well, although an override in force denies changes of it. -/
theorem owner_updates_role_excepted_from_updates :
    (excepted.store.findRole organization visitorRole.id = some visitorRole ∧
      visitorException ∈ excepted.store.receivedOverrides organization owner ∧
      visitorException.isActiveAt ⟨0⟩ = true ∧ visitorException.granted = false ∧
      visitorException.isAbout .update (.ofRole organization visitorRole.id) = true) ∧
    (∃ c, excepted.run (updateRole { now := ⟨0⟩ } (actor owner) visitorRole.id
        { name := some "Visitors" }) = (.ok { visitorRole with name := "Visitors" }, c)) ∧
    (excepted.store.rules organization owner ⟨0⟩).permits .update
      (.resource (.ofRole organization visitorRole.id)) = false :=
  ⟨⟨by decide +kernel, by decide +kernel, by decide, rfl, by decide +kernel⟩,
    ⟨_, Prod.ext (by decide +kernel) rfl⟩, by decide +kernel⟩

end AccessControl
