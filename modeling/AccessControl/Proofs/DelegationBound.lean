import AccessControl.Proofs.Lifecycle
import AccessControl.Proofs.Roster

/-!
# Delegated roles and the priority of their delegators

A role is handed over by one whose priority it does not exceed.  That is checked when the delegation
is created and never again, while the priorities on both sides may move later on.  Roles are neither
removed nor replaced while they are handed over or held, so there are three ways to break the bound:
the delegator is given a lower role, the delegator's own role is lowered, or the role that is handed
over is raised (`Delegation.UnsettledBy`).  An act that succeeds at one of these breaks the bound,
and no other act does (`Act.not_bounds_of_unsettles`, `Act.bounds`).  Over a whole run the bound
holds as long as none of these happens (`Run.bounds_of_settled`).
-/

namespace AccessControl

open Administration

/-- The role that a delegation hands over, if it is one, is there, and does not exceed the priority
of the delegator. -/
def Store.Bounds (s : Store) (d : Delegation) : Prop :=
  ∀ id, d.role = some id → ∃ shared, s.findRole d.organization id = some shared ∧
    s.Within d.organization d.delegator shared.priority

/-- The operations that bring the delegator of a role below it, when they succeed in the
organization of the delegation. -/
inductive Delegation.UnsettledBy (s : Store) (d : Delegation) : Operation → Prop
  | demoted {id new : RoleId} {shared role : Role} (hrole : d.role = some id)
      (hshared : s.findRole d.organization id = some shared)
      (hnew : s.findRole d.organization new = some role)
      (hbelow : role.priority < shared.priority) : UnsettledBy s d (.assignRole d.delegator new)
  | lowered {id own : RoleId} {shared : Role} {change : RoleChange} {value : Int}
      {priority : RolePriority} (hrole : d.role = some id) (hne : own ≠ id)
      (hheld : s.Holds d.organization d.delegator own)
      (hshared : s.findRole d.organization id = some shared)
      (hvalue : change.priority = some value) (hpriority : RolePriority.parse value = .ok priority)
      (hbelow : priority < shared.priority) : UnsettledBy s d (.updateRole own change)
  | raised {id : RoleId} {own : RolePriority} {change : RoleChange} {value : Int}
      {priority : RolePriority} (hrole : d.role = some id)
      (hheld : ¬s.Holds d.organization d.delegator id)
      (hown : s.priority? d.organization d.delegator = some own)
      (hvalue : change.priority = some value) (hpriority : RolePriority.parse value = .ok priority)
      (habove : own < priority) : UnsettledBy s d (.updateRole id change)

/-- The act succeeds at such an operation in the organization of the delegation. -/
def Act.Unsettles (act : Act) (b : Backend) (d : Delegation) : Prop :=
  act.actor.organization = d.organization ∧ d.UnsettledBy b.store act.operation ∧
    ∃ r, (b.run (act.operation.perform act.setting act.actor)).1 = .ok r

/-! ## One change -/

section Changes

variable {s : Store} {d : Delegation} {role : Role}

theorem Store.Bounds.congr {t : Store} (h : s.Bounds d) (hmembers : t.members = s.members)
    (hroles : t.roles = s.roles) : t.Bounds d := by
  intro id hid
  obtain ⟨shared, hshared, own, hown, hle⟩ := h id hid
  refine ⟨shared, ?_, own, (Store.priority?_congr hmembers hroles).trans hown, hle⟩
  rw [Store.findRole, hroles]
  exact hshared

/-- A delegator with a role of the organization has one that is not below the role handed over. -/
theorem Store.Bounds.le_of_holds (h : s.Bounds d) {id held : RoleId} {shared : Role}
    (hid : d.role = some id) (hshared : s.findRole d.organization id = some shared)
    (hheld : s.Holds d.organization d.delegator held)
    (hrole : s.findRole d.organization held = some role) : shared.priority ≤ role.priority := by
  obtain ⟨shared', hshared', own, hown, hle⟩ := h id hid
  obtain rfl : shared' = shared := Option.some.inj (hshared'.symm.trans hshared)
  obtain ⟨role', hrole', rfl⟩ := exists_role_of_holds hheld hown
  obtain rfl : role' = role := Option.some.inj (hrole'.symm.trans hrole)
  exact hle

/-- A role with an identifier of its own changes nothing about the others. -/
theorem Store.Bounds.putRole_of_free (h : s.Bounds d) (hfree : s.roles.find? role.id = none) :
    (s.putRole role).Bounds d := by
  have hunknown : ∀ organization, s.findRole organization role.id = none := by
    intro organization
    rw [Store.findRole, hfree]
    rfl
  intro id hid
  obtain ⟨shared, hshared, own, hown, hle⟩ := h id hid
  refine ⟨shared, ?_, own, Store.priority?_putRole_of_not_holds ?_ hown, hle⟩
  · rw [Store.findRole_putRole_of_ne, hshared]
    rintro rfl
    cases (hunknown _).symm.trans hshared
  · intro hheld
    obtain ⟨role', hfound, -⟩ := Store.exists_role_of_holds hheld hown
    cases (hunknown _).symm.trans hfound

/-- A role is found in one organization only. -/
theorem Store.eq_of_findRole {organization organization' : OrganizationId} {id : RoleId}
    {role role' : Role} (h : s.findRole organization id = some role)
    (h' : s.findRole organization' id = some role') :
    organization = organization' ∧ role = role' := by
  obtain ⟨hmem, hid, rfl⟩ := findRole_eq_some.mp h
  obtain ⟨hmem', hid', rfl⟩ := findRole_eq_some.mp h'
  have hfound : s.roles.find? id = some role := Table.find?_eq_some.mpr ⟨hmem, hid⟩
  have hfound' : s.roles.find? id = some role' := Table.find?_eq_some.mpr ⟨hmem', hid'⟩
  obtain rfl : role = role' := Option.some.inj (hfound.symm.trans hfound')
  exact ⟨rfl, rfl⟩

/-- A stored role gets another priority.  Where it is handed over it stays within the priority of
the delegator, and where it is the delegator's own it stays above the role that is handed over. -/
theorem Store.Bounds.putRole_of_stored {stored : Role} (h : s.Bounds d)
    (hstored : s.findRole role.organization role.id = some stored)
    (hshared : role.organization = d.organization → d.role = some role.id →
      ¬s.Holds d.organization d.delegator role.id → ∀ own,
        s.priority? d.organization d.delegator = some own → stored.priority ≤ own →
          role.priority ≤ own)
    (hheld : role.organization = d.organization → s.Holds d.organization d.delegator role.id →
      ∀ id shared, d.role = some id → id ≠ role.id → s.findRole d.organization id = some shared →
        shared.priority ≤ stored.priority → shared.priority ≤ role.priority) :
    (s.putRole role).Bounds d := by
  intro id hid
  obtain ⟨shared, hfound, own, hown, hle⟩ := h id hid
  by_cases hsame : id = role.id
  · subst hsame
    obtain ⟨horganization, rfl⟩ := eq_of_findRole hstored hfound
    refine ⟨role, horganization ▸ findRole_putRole_self s role, ?_⟩
    by_cases hholds : s.Holds d.organization d.delegator role.id
    · -- The delegator hands over the own role, and both go along with each other.
      rw [← horganization] at hholds hown ⊢
      exact ⟨_, priority?_putRole_of_holds hholds hown, RolePriority.le_refl _⟩
    · exact ⟨own, priority?_putRole_of_not_holds hholds hown,
        hshared horganization hid hholds own hown hle⟩
  · refine ⟨shared, (findRole_putRole_of_ne hsame).trans hfound, ?_⟩
    by_cases hholds : s.Holds d.organization d.delegator role.id
    · obtain ⟨role', hrole', rfl⟩ := exists_role_of_holds hholds hown
      obtain ⟨horganization, rfl⟩ := eq_of_findRole hstored hrole'
      have hstill := hheld horganization hholds id shared hid hsame hfound hle
      rw [← horganization] at hholds hown ⊢
      exact ⟨_, priority?_putRole_of_holds hholds hown, hstill⟩
    · exact ⟨own, priority?_putRole_of_not_holds hholds hown, hle⟩

/-- A role is removed that no member has and that is not handed over. -/
theorem Store.Bounds.eraseRole {organization : OrganizationId} {erased : RoleId} (h : s.Bounds d)
    (hd : d ∈ s.delegations.rows) (hrole : s.findRole organization erased = some role)
    (hmembers : s.countMembers organization erased = 0)
    (hdelegations : s.countDelegations organization erased = 0) :
    ({ s with roles := s.roles.erase erased } : Store).Bounds d := by
  intro id hid
  obtain ⟨shared, hshared, own, hown, hle⟩ := h id hid
  refine ⟨shared, ?_, own, priority?_eraseRole_of_not_holds ?_ hown, hle⟩
  · rw [findRole_eraseRole, if_neg, hshared]
    rintro rfl
    obtain ⟨horganization, -⟩ := eq_of_findRole hshared hrole
    exact role_ne_of_countDelegations hdelegations hd horganization hid
  · intro hheld
    obtain ⟨role', hrole', -⟩ := exists_role_of_holds hheld hown
    obtain ⟨rfl, -⟩ := eq_of_findRole hrole' hrole
    exact not_holds_of_countMembers hmembers hheld

/-- A member gets another role.  Where the member is the delegator, the role is not below the one
that is handed over. -/
theorem Store.Bounds.putMember {m stored : Member} {new : RoleId} (h : s.Bounds d)
    (hstored : s.findMember m.organization m.user = some stored)
    (hm : m = { stored with role := .dynamic new })
    (hrole : s.findRole m.organization new = some role)
    (hdelegator : (d.organization, d.delegator) = m.key → ∀ id shared, d.role = some id →
      s.findRole d.organization id = some shared → shared.priority ≤ role.priority) :
    (s.putMember m).Bounds d := by
  intro id hid
  obtain ⟨shared, hfound, own, hown, hle⟩ := h id hid
  refine ⟨shared, hfound, ?_⟩
  by_cases hkey : (d.organization, d.delegator) = m.key
  · have hstill := hdelegator hkey id shared hid hfound
    obtain ⟨horganization, huser⟩ := Prod.mk.inj hkey
    -- The delegator has a priority, so the membership is an active one.
    obtain ⟨m', base, hm', hactive, -⟩ := priority?_eq_some.mp hown
    rw [horganization, huser] at hm' ⊢
    obtain rfl : stored = m' := Option.some.inj (hstored.symm.trans hm')
    exact ⟨role.priority, priority?_putMember_self (hm ▸ hactive) (hm ▸ rfl) hrole, hstill⟩
  · exact ⟨own, priority?_putMember_of_ne hkey hown, hle⟩

end Changes

/-! ## One act -/

section Acts

variable {b : Backend} {act : Act} {d e : Delegation}

/-- Revocation and extension do not touch what a delegation hands over. -/
theorem Delegation.Step.bounds {s : Store} (h : d.Step b act e) (hd : s.Bounds d) : s.Bounds e := by
  cases h with
  | kept => exact hd
  | revoked _ _ hrevoked =>
      rw [Delegation.eq_of_revoke hrevoked]
      exact hd
  | extended _ _ hextended =>
      rw [Delegation.eq_of_extend hextended]
      exact hd

/-- What is handed over is within the priority of the one who hands it over. -/
theorem Administration.DelegationCreated.bounds {s : Setting} {actor : Actor}
    {request : DelegationRequest} {store : Store}
    (h : DelegationCreated b s actor request d store) :
    store.Bounds d := by
  intro id hid
  obtain ⟨own, share, -, -, hcreated⟩ := h.drawn
  have horganization : d.organization = actor.organization := by
    rw [Delegation.eq_of_create hcreated]
    rfl
  have hdelegator : d.delegator = actor.user := by
    rw [Delegation.eq_of_create hcreated]
    rfl
  cases hrole : request.role with
  | none => cases (h.of_permissions hrole).1.symm.trans hid
  | some id' =>
      obtain ⟨hid', shared, hshared, own', hown', hle⟩ := h.of_role hrole
      obtain rfl : id' = id := Option.some.inj (hid'.symm.trans hid)
      rw [h.store, horganization, hdelegator]
      exact ⟨shared, hshared, own', (Store.priority?_putDelegation _ _).trans hown', hle⟩

/-- A change of members and roles keeps the bound of a delegation, unless it is one of those that
unsettle it, where new roles get identifiers of their own. -/
theorem RosterChange.bounds {s : Setting} {actor : Actor} {op : Operation} {store : Store}
    (hchange : RosterChange b s actor op store) (hd : d ∈ b.store.delegations.rows)
    (hfree : b.store.roles.find? (b.nextId .role) = none)
    (hunsettled : actor.organization = d.organization → ¬d.UnsettledBy b.store op)
    (h : b.store.Bounds d) : store.Bounds d := by
  cases hchange with
  | nothing hmembers hroles => exact h.congr hmembers hroles
  | roleStored hstored =>
      rw [hstored.store]
      exact h.putRole_of_free (hstored.minted ▸ hfree)
  | grantsChanged heditable hstore =>
      have hfound := heditable.found
      obtain ⟨-, rfl, horganization⟩ := Store.findRole_eq_some.mp hfound
      rw [hstore]
      rw [← horganization] at hfound
      exact h.putRole_of_stored hfound (fun _ _ _ _ _ hle => hle) fun _ _ _ _ _ _ _ hle => hle
  | @roleUpdated id change role _ hupdated =>
      obtain ⟨stored, heditable, -, hrepriced, hrole⟩ := hupdated.stored
      have hfound := heditable.found
      obtain ⟨-, rfl, horganization⟩ := Store.findRole_eq_some.mp hfound
      have hid : role.id = stored.id := by rw [hrole]
      have hsame : role.organization = stored.organization := by rw [hrole]
      rw [hupdated.store]
      rw [← horganization, ← hsame, ← hid] at hfound
      cases hvalue : change.priority with
      | none =>
          rw [hvalue] at hrepriced
          have hkept : role.priority = stored.priority := hrepriced
          refine h.putRole_of_stored hfound ?_ ?_
          · intro _ _ _ _ _ hle
            exact hkept ▸ hle
          · intro _ _ _ _ _ _ _ hle
            exact hkept ▸ hle
      | some value =>
          rw [hvalue] at hrepriced
          obtain ⟨hparsed, -⟩ := hrepriced
          have hours : role.organization = d.organization →
              ¬d.UnsettledBy b.store (.updateRole role.id change) := by
            intro heq
            rw [hid]
            exact hunsettled (horganization.symm.trans (hsame.symm.trans heq))
          refine h.putRole_of_stored hfound ?_ ?_
          · intro heq hshared hholds own hown _
            refine Nat.le_of_not_lt fun habove => hours heq ?_
            exact .raised hshared hholds hown hvalue hparsed habove
          · intro heq hholds id' shared hshared hne hfound' _
            refine Nat.le_of_not_lt fun hbelow => hours heq ?_
            exact .lowered hshared (Ne.symm hne) hholds hfound' hvalue hparsed hbelow
  | @roleDeleted id _ hdeleted =>
      obtain ⟨role, hfound, -⟩ := hdeleted.role
      rw [hdeleted.store]
      exact h.eraseRole hd hfound hdeleted.unassigned hdeleted.undelegated
  | @roleAssigned user id m _ hassigned =>
      obtain ⟨stored, hstored, hm, -⟩ := hassigned.member
      obtain ⟨role, hrole, -⟩ := hassigned.role
      obtain ⟨-, horganization, huser⟩ := Store.findMember_eq_some.mp hstored
      have hplace : m.organization = actor.organization ∧ m.user = user := by
        rw [hm]
        exact ⟨horganization, huser⟩
      rw [← hplace.1, ← hplace.2] at hstored
      rw [← hplace.1] at hrole
      rw [hassigned.store]
      refine h.putMember hstored hm hrole ?_
      intro hkey id' shared hshared hfound
      have hours : d.organization = m.organization := congrArg Prod.fst hkey
      have hdelegator : d.delegator = user := (congrArg Prod.snd hkey).trans hplace.2
      subst hdelegator
      refine Nat.le_of_not_lt fun hbelow => hunsettled (hours.trans hplace.1).symm ?_
      exact .demoted hshared hfound (hours ▸ hrole) hbelow

/-- An act that does not unsettle a delegation keeps its bound, where new roles get identifiers of
their own. -/
theorem Act.bounds (hd : d ∈ b.store.delegations.rows)
    (hfree : b.store.roles.find? (b.nextId .role) = none) (hsettled : ¬act.Unsettles b d)
    (h : b.store.Bounds d) : (act.after b).store.Bounds d := by
  cases hresult : (b.run (act.operation.perform act.setting act.actor)).1 with
  | error fault =>
      have hstore : (act.after b).store = b.store := Operation.store_of_perform_error hresult
      exact hstore.symm ▸ h
  | ok r =>
      have hchange : RosterChange b act.setting act.actor act.operation (act.after b).store :=
        .of_done (Operation.done_of_perform hresult)
      refine hchange.bounds hd hfree ?_ h
      intro horganization hunsettled
      exact hsettled ⟨horganization, hunsettled, r, hresult⟩

/-- A role whose priority is changed has the new one. -/
theorem Administration.RoleUpdated.priority_eq {s : Setting} {actor : Actor} {id : RoleId}
    {change : RoleChange} {role : Role} {store : Store} {value : Int} {priority : RolePriority}
    (h : RoleUpdated b s actor id change role store) (hvalue : change.priority = some value)
    (hpriority : RolePriority.parse value = .ok priority) :
    role.id = id ∧ role.organization = actor.organization ∧ role.priority = priority := by
  obtain ⟨stored, heditable, -, hrepriced, hrole⟩ := h.stored
  obtain ⟨-, hid, horganization⟩ := Store.findRole_eq_some.mp heditable.found
  rw [hvalue] at hrepriced
  refine ⟨?_, ?_, Except.ok.inj (hrepriced.1.symm.trans hpriority)⟩
  · rw [hrole]
    exact hid
  · rw [hrole]
    exact horganization

/-- An act that unsettles a delegation breaks its bound. -/
theorem Act.not_bounds_of_unsettles (h : act.Unsettles b d) :
    ¬(act.after b).store.Bounds d := by
  obtain ⟨s, actor, op⟩ := act
  obtain ⟨horganization, hunsettles, r, hsucceeds⟩ := h
  have hdone := Operation.done_of_perform hsucceeds
  rw [Act.after]
  dsimp only at horganization hunsettles hdone ⊢
  generalize (b.run (op.perform s actor)).2.store = store at hdone
  intro hbounds
  cases hunsettles with
  | @demoted id new shared role hrole hshared hnew hbelow =>
      have hassigned : RoleAssigned b s actor d.delegator new r store := hdone
      obtain ⟨stored, hstored, hm, -⟩ := hassigned.member
      obtain ⟨-, hours, huser⟩ := Store.findMember_eq_some.mp hstored
      have hstore := hassigned.store
      subst hstore
      have hholds : (b.store.putMember r).Holds d.organization d.delegator new := by
        have hkey : (d.organization, d.delegator) = r.key := by
          rw [hm, Member.key, hours, huser, horganization]
        refine ⟨r, ?_, by rw [hm]⟩
        rw [Store.findMember, hkey]
        exact Table.find?_put_self _ r
      exact Nat.not_le_of_lt hbelow (hbounds.le_of_holds hrole hshared hholds hnew)
  | @lowered id own shared change value priority hrole hne hheld hshared hvalue hpriority hbelow =>
      obtain ⟨updated, hupdated⟩ : ∃ role, RoleUpdated b s actor own change role store :=
        ⟨r, hdone⟩
      obtain ⟨rfl, hours, rfl⟩ := hupdated.priority_eq hvalue hpriority
      have hstore := hupdated.store
      subst hstore
      have hshared' := (Store.findRole_putRole_of_ne (Ne.symm hne)).trans hshared
      have hnew := Store.findRole_putRole_self b.store updated
      rw [hours, horganization] at hnew
      exact Nat.not_le_of_lt hbelow (hbounds.le_of_holds hrole hshared' hheld hnew)
  | @raised id own change value priority hrole hheld hown hvalue hpriority habove =>
      obtain ⟨updated, hupdated⟩ : ∃ role, RoleUpdated b s actor id change role store :=
        ⟨r, hdone⟩
      obtain ⟨rfl, hours, rfl⟩ := hupdated.priority_eq hvalue hpriority
      have hstore := hupdated.store
      subst hstore
      have hnew := Store.findRole_putRole_self b.store updated
      rw [hours, horganization] at hnew
      obtain ⟨shared, hshared, own', hown', hle⟩ := hbounds updated.id hrole
      obtain rfl : shared = updated := Option.some.inj (hshared.symm.trans hnew)
      have hkept := Store.priority?_putRole_of_not_holds hheld hown
      obtain rfl : own' = own := Option.some.inj (hown'.symm.trans hkept)
      exact Nat.not_le_of_lt habove hle

end Acts

/-! ## Whole runs -/

/-- New roles get identifiers of their own, and the delegation of the identifier is not unsettled.
-/
def Settled (id : DelegationId) (b : Backend) (act : Act) : Prop :=
  b.store.roles.find? (b.nextId .role) = none ∧
    ∀ d, b.store.delegations.find? id = some d → ¬act.Unsettles b d

/-- From a store without delegations on, the role that a delegation hands over does not exceed the
priority that the delegator has at the time, as long as no act unsettles the delegation. -/
theorem Run.bounds_of_settled {id : DelegationId} {b c : Backend} (h : Run (Settled id) b c)
    (hbegin : b.store.delegations.rows = []) {d : Delegation}
    (hd : c.store.delegations.find? id = some d) : c.store.Bounds d := by
  induction h generalizing d with
  | refl =>
      have hmem := Table.mem_of_find? hd
      rw [hbegin] at hmem
      cases hmem
  | act act _ hsettled ih =>
      rcases act.delegation_stored_or_created hd with ⟨e, he, hstep⟩ | ⟨request, -, hcreated⟩
      · have hbounds := act.bounds (Table.mem_of_find? he) hsettled.1 (hsettled.2 e he) (ih he)
        exact hstep.bounds hbounds
      · exact hcreated.bounds
  | drift _ hstore ih =>
      rw [hstore] at hd ⊢
      exact ih hd

/-! ## An administrator who hands the own role over -/

namespace Sample

/-- The small organization, with identifiers for new records that are not in use. -/
def opening : Backend := { backend with used := fun _ => 10 }

/-- The administrator hands the administrators' role over to the viewer. -/
def handover : Act where
  setting := { now := ⟨0⟩ }
  actor := actor admin
  operation := .createDelegation
    { delegatee := viewer, role := some (roleId .admin), permissions := [], startsAt := ⟨0⟩,
      endsAt := ⟨2⟩, reason := none }

/-- The owner makes a viewer of the administrator. -/
def dismissal : Act where
  setting := { now := ⟨1⟩ }
  actor := actor owner
  operation := .assignRole admin (roleId .viewer)

/-- The delegation of the administrators' role. -/
def handedOver : Delegation where
  id := opening.nextId .delegation
  organization
  delegator := admin
  delegatee := viewer
  role := some (roleId .admin)
  permissions := []
  startsAt := ⟨0⟩
  endsAt := ⟨2⟩
  active := true
  revokedAt := none
  reason := none
  createdAt := ⟨0⟩

end Sample

open Sample

/-- The delegation of one who was an administrator when it was made is still in force when its
delegator is a viewer. -/
theorem admin_role_outranks_its_delegator :
    Run (fun b _ => b.store.roles.find? (b.nextId .role) = none) opening
        (dismissal.after (handover.after opening)) ∧
      opening.store.delegations.rows = [] ∧
      handedOver ∈ (dismissal.after (handover.after opening)).store.delegations.rows ∧
      handedOver.isActiveAt dismissal.setting.now = true ∧
      ¬(dismissal.after (handover.after opening)).store.Bounds handedOver := by
  have hrun : Run (fun b _ => b.store.roles.find? (b.nextId .role) = none) opening
      (dismissal.after (handover.after opening)) :=
    .act dismissal (.act handover (.refl opening) (by decide +kernel)) (by decide +kernel)
  have hstored :
      handedOver ∈ (dismissal.after (handover.after opening)).store.delegations.rows := by
    decide +kernel
  refine ⟨hrun, rfl, hstored, by decide, ?_⟩
  intro hbounds
  have hviewer : (dismissal.after (handover.after opening)).store.priority? organization admin =
      some .viewer := by decide +kernel
  have hadmin : ((dismissal.after (handover.after opening)).store.findRole organization
      (roleId .admin)).map (·.priority) = some .admin := by decide +kernel
  obtain ⟨shared, hshared, own, hown, hle⟩ := hbounds (roleId .admin) rfl
  have hown' : own = .viewer := Option.some.inj (hown.symm.trans hviewer)
  have hshared' : shared.priority = .admin := by
    have hmapped := congrArg (Option.map (·.priority)) hshared
    exact Option.some.inj (hmapped.symm.trans hadmin)
  rw [hown', hshared'] at hle
  exact absurd hle (by decide)

/-- A delegation stays within its bound while others are promoted. -/
theorem admin_role_bounded_by_its_delegator :
    Run (Settled handedOver.id) opening (promotion.after (handover.after opening)) ∧
      (promotion.after (handover.after opening)).store.delegations.find? handedOver.id =
        some handedOver ∧
      (promotion.after (handover.after opening)).store.Bounds handedOver := by
  have hhandover : Settled handedOver.id opening handover := by
    refine ⟨by decide +kernel, ?_⟩
    rintro d ⟨⟩
  have hpromotion : Settled handedOver.id (handover.after opening) promotion := by
    refine ⟨by decide +kernel, ?_⟩
    intro d hd hunsettles
    have hstored : (handover.after opening).store.delegations.find? handedOver.id =
        some handedOver := by decide +kernel
    obtain rfl : handedOver = d := Option.some.inj (hstored.symm.trans hd)
    -- The member who gets another role is not the delegator.
    obtain ⟨-, hunsettled, -⟩ := hunsettles
    generalize hoperation : promotion.operation = op at hunsettled
    cases hunsettled with
    | demoted => cases hoperation
    | lowered => cases hoperation
    | raised => cases hoperation
  have hrun : Run (Settled handedOver.id) opening (promotion.after (handover.after opening)) :=
    .act promotion (.act handover (.refl opening) hhandover) hpromotion
  have hfound : (promotion.after (handover.after opening)).store.delegations.find? handedOver.id =
      some handedOver := by decide +kernel
  exact ⟨hrun, hfound, hrun.bounds_of_settled rfl hfound⟩

end AccessControl
