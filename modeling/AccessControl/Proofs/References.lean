import AccessControl.Proofs.DelegationBound
import AccessControl.Proofs.Issuance
import AccessControl.Proofs.RoleGrants

/-!
# References to roles

Members and delegations refer to roles by their identifiers.  A store is linked when each of these
roles is stored for the organization of the member or of the delegation, which counts whether it is
in force or not.  Whoever refers to a role has found it first, and a role is deleted only where
nothing refers to it, so every operation leaves a linked store linked.

New roles take the place of none of another organization, as long as their identifiers differ from
those of its roles.  Through every history of which that holds the store stays linked, and no active
member is treated as a guest (`History.roles_linked`).
-/

namespace AccessControl

open Administration

/-- Every role to which a member or a delegation refers is stored for the same organization. -/
structure Store.Linked (s : Store) : Prop where
  members : ∀ m ∈ s.members.rows, ∀ id, m.role.roleId? = some id →
    (s.findRole m.organization id).isSome = true
  delegations : ∀ d ∈ s.delegations.rows, ∀ id, d.role = some id →
    (s.findRole d.organization id).isSome = true

/-- No other organization has a role with one of the identifiers of the next `n` roles. -/
def Backend.RolesApart (organization : OrganizationId) (n : Nat) (b : Backend) : Prop :=
  ∀ i ∈ Set.Ioc (b.used .role) (b.used .role + n), ∀ role ∈ b.store.roles.rows,
    role.id = b.mint .role i → role.organization = organization

/-! ## Roles that can be found -/

namespace Store

variable {s t : Store} {organization : OrganizationId} {id : RoleId} {role : Role}

/-- A role that comes into the place of none of another organization leaves all of them there. -/
theorem isSome_findRole_putRole
    (hplace : ∀ r ∈ s.roles.rows, r.id = role.id → r.organization = role.organization)
    (h : (s.findRole organization id).isSome = true) :
    ((s.putRole role).findRole organization id).isSome = true := by
  by_cases hid : id = role.id
  · subst hid
    obtain ⟨r, hfound⟩ := Option.isSome_iff_exists.mp h
    obtain ⟨hmem, hsame, rfl⟩ := findRole_eq_some.mp hfound
    rw [hplace r hmem hsame, findRole_putRole_self]
    rfl
  · rw [findRole_putRole_of_ne hid]
    exact h

theorem isSome_findRole_eraseRole {id' : RoleId} (hne : id' ≠ id)
    (h : (s.findRole organization id').isSome = true) :
    (({ s with roles := s.roles.erase id } : Store).findRole organization id').isSome = true := by
  rw [findRole_eraseRole, if_neg hne]
  exact h

/-- A role can be found for one organization only. -/
theorem organization_eq_of_isSome {other : OrganizationId}
    (h : s.findRole organization id = some role) (hother : (s.findRole other id).isSome = true) :
    other = organization := by
  obtain ⟨r, hr⟩ := Option.isSome_iff_exists.mp hother
  obtain ⟨hmem, rfl, rfl⟩ := findRole_eq_some.mp hr
  exact organization_of_findRole h (Table.find?_key hmem)

namespace Linked

theorem iff_all : s.Linked ↔
    (∀ m ∈ s.members.rows,
      (m.role.roleId?.all fun id => (s.findRole m.organization id).isSome) = true) ∧
    ∀ d ∈ s.delegations.rows,
      (d.role.all fun id => (s.findRole d.organization id).isSome) = true := by
  simp only [Option.all_eq_true]
  exact ⟨fun h => ⟨h.members, h.delegations⟩, fun h => ⟨h.1, h.2⟩⟩

instance (s : Store) : Decidable s.Linked := decidable_of_iff _ iff_all.symm

/-- A store stays linked when its members and delegations stay and no role that could be found is
lost. -/
theorem of_found (h : s.Linked) (hmembers : t.members = s.members)
    (hdelegations : t.delegations = s.delegations)
    (hroles : ∀ organization id, (s.findRole organization id).isSome = true →
      (t.findRole organization id).isSome = true) : t.Linked where
  members m hm id hid := hroles _ _ (h.members m (hmembers ▸ hm) id hid)
  delegations d hd id hid := hroles _ _ (h.delegations d (hdelegations ▸ hd) id hid)

theorem putRole (h : s.Linked)
    (hplace : ∀ r ∈ s.roles.rows, r.id = role.id → r.organization = role.organization) :
    (s.putRole role).Linked :=
  h.of_found rfl rfl fun _ _ => isSome_findRole_putRole hplace

/-- A role that is put in the place of a stored one stays in its organization. -/
theorem putRole_stored (h : s.Linked) {stored : Role} (hstored : stored ∈ s.roles.rows)
    (hid : role.id = stored.id) (horganization : role.organization = stored.organization) :
    (s.putRole role).Linked := by
  apply h.putRole
  intro r hr hsame
  rw [Table.eq_of_key_eq hr hstored (hsame.trans hid), horganization]

/-- A role may go that is counted as held by nobody and as handed over to nobody.  Both are counted
in its organization alone, and in a linked store nobody else can refer to it. -/
theorem eraseRole (h : s.Linked) (hrole : s.findRole organization id = some role)
    (hmembers : s.countMembers organization id = 0)
    (hdelegations : s.countDelegations organization id = 0) :
    ({ s with roles := s.roles.erase id } : Store).Linked where
  members m hm id' hid := by
    have hfound := h.members m hm id' hid
    refine isSome_findRole_eraseRole ?_ hfound
    rintro rfl
    have horganization := organization_eq_of_isSome hrole hfound
    refine List.countP_eq_zero.mp hmembers m hm ?_
    simp [horganization, hid]
  delegations d hd id' hid := by
    have hfound := h.delegations d hd id' hid
    refine isSome_findRole_eraseRole ?_ hfound
    rintro rfl
    have horganization := organization_eq_of_isSome hrole hfound
    exact role_ne_of_countDelegations hdelegations hd horganization hid

theorem putMember (h : s.Linked) {m : Member}
    (hrole : ∀ id, m.role.roleId? = some id → (s.findRole m.organization id).isSome = true) :
    (s.putMember m).Linked where
  members m' hm' := by
    rcases Table.mem_put.mp hm' with rfl | ⟨hold, -⟩
    · exact hrole
    · exact h.members m' hold
  delegations := h.delegations

theorem putDelegation (h : s.Linked) {d : Delegation}
    (hrole : ∀ id, d.role = some id → (s.findRole d.organization id).isSome = true) :
    (s.putDelegation d).Linked where
  members := h.members
  delegations d' hd' := by
    rcases Table.mem_put.mp hd' with rfl | ⟨hold, -⟩
    · exact hrole
    · exact h.delegations d' hold

theorem putOverride (h : s.Linked) (o : Override) : (s.putOverride o).Linked :=
  h.of_found rfl rfl fun _ _ hfound => hfound

/-- A stored delegation may change in what does not concern its role. -/
theorem putDelegation_stored (h : s.Linked) {d stored : Delegation}
    (hstored : stored ∈ s.delegations.rows) (hrole : d.role = stored.role)
    (horganization : d.organization = stored.organization) : (s.putDelegation d).Linked := by
  apply h.putDelegation
  rw [hrole, horganization]
  exact h.delegations stored hstored

end Linked

end Store

/-! ## Operations -/

namespace Administration

variable {b : Backend} {s : Setting} {actor : Actor} {store : Store}

theorem RoleStored.linked {key name : String} {role : Role}
    (h : RoleStored b s actor key name role store) (hapart : b.RolesApart actor.organization 1)
    (hlinked : b.store.Linked) : store.Linked := by
  rw [h.store]
  apply hlinked.putRole
  intro r hr hid
  rw [h.organization]
  exact hapart (b.used .role + 1) ⟨Nat.lt_succ_self _, Nat.le_refl _⟩ r hr (hid.trans h.minted)

theorem RoleDeleted.linked {id : RoleId} (h : RoleDeleted b s actor id store)
    (hlinked : b.store.Linked) : store.Linked := by
  obtain ⟨role, hfound, -⟩ := h.role
  rw [h.store]
  exact hlinked.eraseRole hfound h.unassigned h.undelegated

theorem RoleAssigned.linked {user : UserId} {id : RoleId} {m : Member}
    (h : RoleAssigned b s actor user id m store) (hlinked : b.store.Linked) : store.Linked := by
  obtain ⟨stored, hmember, rfl, -⟩ := h.member
  obtain ⟨role, hrole, -⟩ := h.role
  obtain ⟨-, horganization, -⟩ := Store.findMember_eq_some.mp hmember
  rw [h.store]
  apply hlinked.putMember
  rintro id' ⟨⟩
  rw [horganization, hrole]
  rfl

theorem DelegationCreated.linked {request : DelegationRequest} {d : Delegation}
    (h : DelegationCreated b s actor request d store) (hlinked : b.store.Linked) :
    store.Linked := by
  rw [h.store]
  apply hlinked.putDelegation
  intro id hid
  obtain ⟨own, share, -, -, hcreated⟩ := h.drawn
  have horganization : d.organization = actor.organization :=
    congrArg Delegation.organization (Delegation.eq_of_create hcreated)
  cases hrequest : request.role with
  | none => cases (h.of_permissions hrequest).1.symm.trans hid
  | some requested =>
      obtain ⟨hrole, role, hfound, -⟩ := h.of_role hrequest
      obtain rfl : requested = id := Option.some.inj (hrole.symm.trans hid)
      rw [horganization, hfound]
      rfl

theorem DelegationManaged.mem {id : DelegationId} {d : Delegation}
    (h : DelegationManaged b s actor id d) : d ∈ b.store.delegations.rows :=
  (Store.findDelegation_eq_some.mp h.found).1

theorem DelegationRevoked.linked {id : DelegationId} {d : Delegation}
    (h : DelegationRevoked b s actor id d store) (hlinked : b.store.Linked) : store.Linked := by
  obtain ⟨stored, hmanaged, hrevoked⟩ := h.stored
  rw [h.store, Delegation.eq_of_revoke hrevoked]
  exact hlinked.putDelegation_stored hmanaged.mem rfl rfl

theorem DelegationExtended.linked {id : DelegationId} {endsAt : Instant} {d : Delegation}
    (h : DelegationExtended b s actor id endsAt d store) (hlinked : b.store.Linked) :
    store.Linked := by
  obtain ⟨stored, hmanaged, hextended⟩ := h.stored
  rw [h.store, Delegation.eq_of_extend hextended]
  exact hlinked.putDelegation_stored hmanaged.mem rfl rfl

/-- Whatever an operation does, a linked store stays linked. -/
theorem Operation.linked_of_done {op : Operation} {r : op.Result} (h : op.Done b s actor r store)
    (hapart : b.RolesApart actor.organization 1) (hlinked : b.store.Linked) : store.Linked := by
  cases op with
  | listRoles => exact h.2.2 ▸ hlinked
  | createRole draft => exact h.toRoleStored.linked hapart hlinked
  | duplicateRole id copy => exact h.toRoleStored.linked hapart hlinked
  | updateRole id change =>
      obtain ⟨stored, heditable, -, -, hrole⟩ := h.stored
      rw [h.store, hrole]
      exact hlinked.putRole_stored heditable.mem rfl rfl
  | deleteRole id => exact RoleDeleted.linked h hlinked
  | assignRole user id => exact RoleAssigned.linked h hlinked
  | addPermission id draft =>
      obtain ⟨stored, grant, heditable, -, -, -, rfl⟩ := h.stored
      rw [h.store]
      exact hlinked.putRole_stored heditable.mem rfl rfl
  | removePermission id permission =>
      obtain ⟨stored, heditable, -, rfl⟩ := h.stored
      rw [h.store]
      exact hlinked.putRole_stored heditable.mem rfl rfl
  | createDelegation request => exact DelegationCreated.linked h hlinked
  | revokeDelegation id => exact DelegationRevoked.linked h hlinked
  | extendDelegation id endsAt => exact DelegationExtended.linked h hlinked
  | listDelegations f => exact h.2.2 ▸ hlinked
  | grantOverride request => exact h.store ▸ hlinked.putOverride _
  | revokeOverride id => exact h.store ▸ hlinked.putOverride _
  | extendOverride id expiresAt => exact h.store ▸ hlinked.putOverride _
  | listOverrides f => exact h.2.2 ▸ hlinked
  | listEntries q => exact h.2 ▸ hlinked
  | auditSummary window => exact h.2 ▸ hlinked
  | exportEntries window => exact h.2 ▸ hlinked
  | purgeEntries days => exact h.2 ▸ hlinked

end Administration

theorem Act.linked {b : Backend} (act : Act) (hapart : b.RolesApart act.actor.organization 1)
    (hlinked : b.store.Linked) : (act.after b).store.Linked := by
  rcases act.kept_or_done b with hkept | ⟨r, hdone⟩
  · exact hkept ▸ hlinked
  · exact Operation.linked_of_done hdone hapart hlinked

/-! ## The first roles -/

namespace Backend.RolesApart

variable {organization : OrganizationId} {n m : Nat} {b : Backend}

theorem mono (h : b.RolesApart organization n) (hm : m ≤ n) : b.RolesApart organization m :=
  fun i hi => h i ⟨hi.1, hi.2.trans (Nat.add_le_add_left hm _)⟩

/-- Once the role of a template is put in there is one identifier less to reckon with. -/
theorem addTemplate {r : LegacyRole} (h : b.RolesApart organization (n + 1)) :
    (b.addTemplate organization r).RolesApart organization n := by
  have hused : (b.addTemplate organization r).used .role = b.used .role + 1 := rfl
  rintro i ⟨hlow, hhigh⟩ role hrole hid
  rw [hused] at hlow hhigh
  rcases Table.mem_put.mp hrole with rfl | ⟨hold, -⟩
  · rfl
  · exact h i ⟨by omega, by omega⟩ role hold hid

end Backend.RolesApart

theorem Bootstrap.Founding.linked {organization : OrganizationId} {rs : List LegacyRole}
    {b c : Backend} (h : Founding organization rs b c)
    (hapart : b.RolesApart organization rs.length) (hlinked : b.store.Linked) :
    c.store.Linked := by
  induction h with
  | nil => exact hlinked
  | skip _ ih => exact ih (hapart.mono (Nat.le_succ _)) hlinked
  | @role r rs b c _ _ ih =>
      apply ih hapart.addTemplate
      apply hlinked.putRole
      intro stored hstored hid
      exact hapart (b.used .role + 1) ⟨Nat.lt_succ_self _, by simp⟩ stored hstored hid

/-! ## Guests -/

/-- The rules of a member are never those of a guest. -/
theorem memberRules_ne_guest (b : Bearer) (role : BaseRole) (sources : GrantSources)
    (now : Instant) (organization : OrganizationId) :
    memberRules b role sources now ≠ [guestRule organization] := by
  intro hrules
  have hmem : guestRule organization ∈ memberRules b role sources now := by
    rw [hrules]
    exact List.mem_singleton.mpr rfl
  rcases Bearer.mem_memberRules.mp hmem with
    hrole | ⟨access, -, -, hdelegated⟩ | ⟨o, -, -, hoverride⟩
  · rcases Bearer.source_of_mem_roleRules hrole with hsource | hsource <;> cases hsource
  · cases Bearer.source_of_mem_delegationRules hdelegated
  · obtain ⟨p, -, hrule⟩ := Option.map_eq_some_iff.mp hoverride
    cases congrArg Rule.source hrule

/-- In a linked store every active member has the rules of a role. -/
theorem Store.Linked.rules_ne_guest {s : Store} (h : s.Linked) {m : Member}
    (hm : m ∈ s.members.rows) (hactive : m.active = true) (now : Instant) :
    s.rules m.organization m.user now ≠ guestRuleSet m.organization := by
  have hfound : s.findMember m.organization m.user = some m :=
    Store.findMember_eq_some.mpr ⟨hm, rfl, rfl⟩
  have hrole : ∃ base, s.roleOf? m.organization m.role = some base := by
    cases hheld : m.role with
    | legacy r => exact ⟨_, rfl⟩
    | dynamic id =>
        obtain ⟨role, hrole⟩ := Option.isSome_iff_exists.mp (h.members m hm id (by rw [hheld]; rfl))
        exact ⟨.ofRole role, by rw [Store.roleOf?, hrole]; rfl⟩
  obtain ⟨base, hbase⟩ := hrole
  have hresolved := resolve_of_baseRole? now
    (Store.baseRole?_eq_some.mpr ⟨m, hfound, hactive, hbase⟩)
  rw [Store.rules, hresolved]
  exact fun hguest => memberRules_ne_guest _ _ _ _ _ (congrArg RuleSet.rules hguest)

/-! ## Histories -/

/-- No other organization has a role with one of the identifiers of the roles that the job may
put in. -/
def Apart (b : Backend) (job : Job) : Prop :=
  b.RolesApart job.task.organization job.task.creations

/-- A linked store stays linked through every history, and in the end every active member has the
rules of a role. -/
theorem History.roles_linked {b c : Backend} (h : History Apart b c) (hlinked : b.store.Linked) :
    c.store.Linked ∧ ∀ m ∈ c.store.members.rows, m.active = true → ∀ now,
      c.store.rules m.organization m.user now ≠ guestRuleSet m.organization := by
  have hend : c.store.Linked := by
    refine h.preserves hlinked ?_
    intro d job store hd hapart hchange
    cases hchange with
    | nothing => exact hd
    | act act => exact act.linked hapart hd
    | founded h => exact h.linked hapart hd
  exact ⟨hend, fun m hm hactive now => hend.rules_ne_guest hm hactive now⟩

/-! ## A role that was handed over once -/

namespace Sample

/-- The administrator was a clerk as well until the owner took that back. -/
def lapsed : Delegation where
  id := ⟨⟨1⟩⟩
  organization
  delegator := owner
  delegatee := admin
  role := some clerkRole.id
  permissions := []
  startsAt := ⟨0⟩
  endsAt := ⟨2⟩
  active := false
  revokedAt := some ⟨1⟩
  reason := none
  createdAt := ⟨0⟩

/-- The organization with clerks and that delegation. -/
def lapsing : Backend := { clerical with store := clerical.store.putDelegation lapsed }

/-- The owner deletes the clerks' role. -/
def suppression : Act where
  setting := { now := ⟨3⟩ }
  actor := actor owner
  operation := .deleteRole clerkRole.id

/-- The owner makes a clerk of the viewer. -/
def appointment : Act where
  setting := { now := ⟨4⟩ }
  actor := actor owner
  operation := .assignRole viewer clerkRole.id

/-- The viewer as a clerk. -/
def clerk : Member := memberAs viewer (.dynamic clerkRole.id)

theorem apart_of_organization {b : Backend} {job : Job}
    (h : ∀ role ∈ b.store.roles.rows, role.organization = job.task.organization) : Apart b job :=
  fun _ _ role hrole _ => h role hrole

end Sample

open Sample

/-- A role that was handed over once cannot be deleted, and whoever becomes a clerk is one. -/
theorem clerk_is_no_guest :
    History Apart lapsing (appointment.after (suppression.after lapsing)) ∧
      lapsing.store.Linked ∧
      clerk ∈ (appointment.after (suppression.after lapsing)).store.members.rows ∧
      (appointment.after (suppression.after lapsing)).store.Linked ∧
      (appointment.after (suppression.after lapsing)).store.rules organization viewer ⟨5⟩ ≠
        guestRuleSet organization := by
  have hhistory : History Apart lapsing (appointment.after (suppression.after lapsing)) :=
    .job appointment.job
      (.job suppression.job (.refl lapsing) (apart_of_organization (by decide +kernel)))
      (apart_of_organization (by decide +kernel))
  have hlinked : lapsing.store.Linked := by decide +kernel
  have hclerk : clerk ∈ (appointment.after (suppression.after lapsing)).store.members.rows := by
    decide +kernel
  obtain ⟨hend, hrules⟩ := hhistory.roles_linked hlinked
  exact ⟨hhistory, hlinked, hclerk, hend, hrules clerk hclerk rfl ⟨5⟩⟩

end AccessControl
