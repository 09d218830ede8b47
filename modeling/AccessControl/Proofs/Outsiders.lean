import AccessControl.Proofs.DelegatedAuthority
import AccessControl.Proofs.Runs

/-!
# Outsiders

One who is no active member of an organization with a role that is found has no priority there, and
decisions about such a user are made by the rules of guests, who may read the organization and
nothing else.  No operation of administration gets by with that: each needs a permission or a
priority.  The one way around is the delegation that a former member gave, which still belongs to
the one who gave it (`ActsOnOwn`), and even so its record is all that changes (`ChangesOwn`).
Everything else fails and leaves nothing behind but entries about denials
(`Outsider.perform_fails`).
-/

namespace AccessControl

open Administration Service

/-- What guests may do is about the organization itself. -/
theorem guest_concerns_organization {organization : OrganizationId} {action : Action}
    {target : Target} (h : (guestRuleSet organization).permits action target = true) :
    target.resourceType = .organization := by
  obtain ⟨rule, hrule, happlies, -⟩ := exists_rule_of_verdict? (RuleSet.permits_iff.mp h).2
  obtain rfl := List.mem_singleton.mp hrule
  exact (of_decide_eq_true (Rule.includes_of_applies happlies)).symm

/-- The user has no priority, and no rules are remembered that are not those of the store at some
time. -/
structure Outsider (b : Backend) (s : Setting) (organization : OrganizationId) (user : UserId) :
    Prop where
  priority : b.store.priority? organization user = none
  remembered : ∀ rules, b.remembered? s organization user = some rules →
    ∃ earlier, rules = b.store.rules organization user earlier

/-- The operation revokes a delegation that the actor gave and that is not over, or moves its end to
a later time. -/
def ActsOnOwn (b : Backend) (s : Setting) (actor : Actor) : Operation → Prop
  | .revokeDelegation id =>
    ∃ d, b.store.findDelegation actor.organization id = some d ∧ d.delegator = actor.user ∧
      d.active = true ∧ s.now < d.endsAt
  | .extendDelegation id endsAt =>
    ∃ d, b.store.findDelegation actor.organization id = some d ∧ d.delegator = actor.user ∧
      d.active = true ∧ s.now < d.endsAt ∧ d.endsAt < endsAt
  | _ => False

/-- Of a delegation that the actor gave, the operation has changed the record and nothing else: it
is revoked now, or has the later end. -/
def ChangesOwn (b : Backend) (s : Setting) (actor : Actor) : Operation → Store → Prop
  | .revokeDelegation id, store =>
    ∃ d, b.store.findDelegation actor.organization id = some d ∧ d.delegator = actor.user ∧
      store = b.store.putDelegation { d with active := false, revokedAt := some s.now }
  | .extendDelegation id endsAt, store =>
    ∃ d, b.store.findDelegation actor.organization id = some d ∧ d.delegator = actor.user ∧
      store = b.store.putDelegation { d with endsAt }
  | _, _ => False

section Outsiders

variable {b : Backend} {s : Setting} {organization : OrganizationId} {user : UserId}

/-- One without a priority has the rules of guests at every time. -/
theorem Store.rules_of_no_priority {store : Store} (h : store.priority? organization user = none)
    (now : Instant) : store.rules organization user now = guestRuleSet organization := by
  rw [priority?, GrantSources.effectivePriority?, Option.map_eq_none_iff] at h
  exact resolve_of_baseRole?_eq_none now h

theorem Outsider.rules_eq (h : Outsider b s organization user) :
    b.rules s organization user = guestRuleSet organization := by
  rw [Backend.rules]
  cases hkept : b.remembered? s organization user with
  | none => exact Store.rules_of_no_priority h.priority s.now
  | some rules =>
      obtain ⟨earlier, rfl⟩ := h.remembered rules hkept
      exact Store.rules_of_no_priority h.priority earlier

theorem Outsider.reads_organization (h : Outsider b s organization user) {action : Action}
    {target : Target} (hpermitted : (b.rules s organization user).permits action target = true) :
    action = .read ∧ target.resourceType = .organization := by
  rw [h.rules_eq] at hpermitted
  exact ⟨guest_reads hpermitted, guest_concerns_organization hpermitted⟩

/-- No priority is within that of an outsider. -/
theorem Outsider.not_within (h : Outsider b s organization user) (priority : RolePriority) :
    ¬b.store.Within organization user priority := by
  rintro ⟨own, hown, -⟩
  cases h.priority.symm.trans hown

variable {actor : Actor}

/-- A delegation that an outsider manages is one that the outsider gave. -/
theorem Outsider.delegator_of_managed (h : Outsider b s actor.organization actor.user)
    {id : DelegationId} {d : Delegation} (hmanaged : DelegationManaged b s actor id d) :
    d.delegator = actor.user := by
  rcases hmanaged.managed with hown | hpermitted
  · exact hown
  · cases (h.reads_organization hpermitted).1

theorem Outsider.not_overrideManaged (h : Outsider b s actor.organization actor.user)
    {id : OverrideId} {o : Override} : ¬OverrideManaged b s actor id o := by
  intro hmanaged
  cases (h.reads_organization hmanaged.managed).1

theorem Outsider.not_mayOnRoles (h : Outsider b s actor.organization actor.user)
    {action : Action} : ¬MayOnRoles b s actor action := by
  intro hpermitted
  cases (h.reads_organization hpermitted).2

theorem Outsider.not_mayOnLog (h : Outsider b s actor.organization actor.user)
    {action : Action} : ¬MayOnLog b s actor action := by
  intro hpermitted
  cases (h.reads_organization hpermitted).2

/-- An outsider completes no operation other than on a delegation of the own. -/
theorem Outsider.actsOnOwn_of_done (h : Outsider b s actor.organization actor.user)
    {op : Operation} {r : op.Result} {store : Store} (hdone : op.Done b s actor r store) :
    ActsOnOwn b s actor op := by
  cases op with
  | listRoles => exact absurd hdone.1 h.not_mayOnRoles
  | createRole draft => exact absurd hdone.permitted h.not_mayOnRoles
  | duplicateRole id copy => exact absurd hdone.permitted h.not_mayOnRoles
  | updateRole id change =>
      obtain ⟨stored, heditable, -⟩ := hdone.stored
      exact absurd heditable.permitted h.not_mayOnRoles
  | deleteRole id => exact absurd hdone.permitted h.not_mayOnRoles
  | assignRole user id =>
      obtain ⟨role, -, hwithin⟩ := hdone.role
      exact absurd hwithin (h.not_within _)
  | addPermission id draft =>
      obtain ⟨stored, grant, heditable, -⟩ := hdone.stored
      exact absurd heditable.permitted h.not_mayOnRoles
  | removePermission id permission =>
      obtain ⟨stored, heditable, -⟩ := hdone.stored
      exact absurd heditable.permitted h.not_mayOnRoles
  | createDelegation request =>
      obtain ⟨own, share, hown, -⟩ := hdone.drawn
      cases h.priority.symm.trans hown
  | revokeDelegation id =>
      obtain ⟨stored, hmanaged, hrevoked⟩ := hdone.stored
      obtain ⟨hactive, hopen, -⟩ := Delegation.revoke_eq_ok_iff.mp hrevoked
      exact ⟨stored, hmanaged.found, h.delegator_of_managed hmanaged, hactive, hopen⟩
  | extendDelegation id endsAt =>
      obtain ⟨stored, hmanaged, hextended⟩ := hdone.stored
      obtain ⟨hactive, hopen, hlater, -⟩ := Delegation.extend_eq_ok_iff.mp hextended
      exact ⟨stored, hmanaged.found, h.delegator_of_managed hmanaged, hactive, hopen, hlater⟩
  | listDelegations f => cases (h.reads_organization hdone.1).2
  | grantOverride request =>
      obtain ⟨target, -, hheld⟩ := hdone.held
      cases (h.reads_organization (hheld .manage List.mem_cons_self)).1
  | revokeOverride id =>
      obtain ⟨stored, hmanaged, -⟩ := hdone.stored
      exact absurd hmanaged h.not_overrideManaged
  | extendOverride id expiresAt =>
      obtain ⟨stored, hmanaged, -⟩ := hdone.stored
      exact absurd hmanaged h.not_overrideManaged
  | listOverrides f => cases (h.reads_organization hdone.1).2
  | listEntries q => exact absurd hdone.1 h.not_mayOnLog
  | auditSummary window => exact absurd hdone.1 h.not_mayOnLog
  | exportEntries window => exact absurd hdone.1 h.not_mayOnLog
  | purgeEntries days => exact absurd hdone.1 h.not_mayOnLog

/-- What is done to a delegation of the own is done to nothing else. -/
theorem ActsOnOwn.changesOwn_of_done {op : Operation} (hown : ActsOnOwn b s actor op)
    {r : op.Result} {store : Store} (hdone : op.Done b s actor r store) :
    ChangesOwn b s actor op store := by
  cases op with
  | revokeDelegation id =>
      obtain ⟨d, hfound, hgave, -⟩ := hown
      obtain ⟨stored, hmanaged, hrevoked⟩ := hdone.stored
      obtain rfl : d = stored := Option.some.inj (hfound.symm.trans hmanaged.found)
      exact ⟨d, hfound, hgave, Delegation.eq_of_revoke hrevoked ▸ hdone.store⟩
  | extendDelegation id endsAt =>
      obtain ⟨d, hfound, hgave, -⟩ := hown
      obtain ⟨stored, hmanaged, hextended⟩ := hdone.stored
      obtain rfl : d = stored := Option.some.inj (hfound.symm.trans hmanaged.found)
      exact ⟨d, hfound, hgave, Delegation.eq_of_extend hextended ▸ hdone.store⟩
  | _ => exact hown.elim

/-- Whatever an outsider undertakes fails, the store stays as it is, and the audit entries stay as
they are up to new ones about denials; only delegations that the outsider gave and that are not over
are an exception.  Of these the record of the one that it is about may change, and nothing else in
the store. -/
theorem Outsider.perform_fails (h : Outsider b s actor.organization actor.user) (op : Operation) :
    (¬ActsOnOwn b s actor op →
      ∃ fault c, b.run (op.perform s actor) = (.error fault, c) ∧ c.store = b.store ∧
        ∃ denials, c.entered = b.entered ++ denials ∧ ∀ e ∈ denials, e.permitted = false) ∧
    (ActsOnOwn b s actor op →
      (b.run (op.perform s actor)).2.store = b.store ∨
        ChangesOwn b s actor op (b.run (op.perform s actor)).2.store) := by
  cases hresult : (b.run (op.perform s actor)).1 with
  | ok r =>
      have hdone := Operation.done_of_perform hresult
      exact ⟨fun hothers => absurd (h.actsOnOwn_of_done hdone) hothers,
        fun hown => .inr (hown.changesOwn_of_done hdone)⟩
  | error fault =>
      have hcalm := Operation.calm_of_perform_error hresult
      exact ⟨fun _ => ⟨fault, _, Prod.ext hresult rfl, hcalm.store, hcalm.denials⟩,
        fun _ => .inl hcalm.store⟩

end Outsiders

/-! ## An administrator who has left -/

namespace Sample

/-- The administrator has handed the own role over to the owner and is no longer active. -/
def deserted : Backend :=
  { backend with
    store := (store.putMember { memberAs admin (.dynamic (roleId .admin)) with active := false }
      ).putDelegation adminShare.delegation }

/-- The delegation after its revocation. -/
def withdrawn : Delegation :=
  { adminShare.delegation with active := false, revokedAt := some ⟨0⟩ }

theorem outsider_deserted :
    Outsider deserted { now := ⟨0⟩ } (actor admin).organization (actor admin).user where
  priority := rfl
  remembered := by rintro rules ⟨⟩

end Sample

open Sample

/-- One who has left revokes a delegation of the own. -/
theorem former_admin_revokes_own_delegation :
    deserted.store.priority? organization admin = none ∧
      deserted.store.delegations.find? withdrawn.id = some adminShare.delegation ∧
      ∃ c, deserted.run (revokeDelegation { now := ⟨0⟩ } (actor admin) withdrawn.id) =
          (.ok withdrawn, c) ∧
        c.store.delegations.find? withdrawn.id = some withdrawn :=
  ⟨rfl, by decide, _, Prod.ext rfl rfl, by decide +kernel⟩

/-- One who has left cannot make a member of the viewer, and revokes a delegation of the own without
changing anything else. -/
theorem former_admin_promotes_nobody :
    Outsider deserted { now := ⟨0⟩ } (actor admin).organization (actor admin).user ∧
      (∃ fault c, deserted.run (Operation.perform { now := ⟨0⟩ } (actor admin)
        (.assignRole viewer (roleId .member))) = (.error fault, c) ∧ c.store = deserted.store ∧
          ∃ denials, c.entered = deserted.entered ++ denials ∧
            ∀ e ∈ denials, e.permitted = false) ∧
      (deserted.run (Operation.perform { now := ⟨0⟩ } (actor admin)
        (.revokeDelegation withdrawn.id))).2.store = deserted.store.putDelegation withdrawn := by
  have hfound : deserted.store.findDelegation organization withdrawn.id =
      some adminShare.delegation := by decide +kernel
  have hrevoked := (outsider_deserted.perform_fails (.revokeDelegation withdrawn.id)).2
    ⟨_, hfound, rfl, rfl, by decide⟩
  have hchanged : (deserted.run (Operation.perform { now := ⟨0⟩ } (actor admin)
      (.revokeDelegation withdrawn.id))).2.store.delegations.find? withdrawn.id ≠
        deserted.store.delegations.find? withdrawn.id := by decide +kernel
  refine ⟨outsider_deserted, (outsider_deserted.perform_fails _).1 (by rintro ⟨⟩), ?_⟩
  rcases hrevoked with hsame | ⟨d, hd, -, hstore⟩
  · exact absurd (congrArg (·.delegations.find? withdrawn.id) hsame) hchanged
  · obtain rfl : adminShare.delegation = d := Option.some.inj (hfound.symm.trans hd)
    exact hstore

end AccessControl
