import AccessControl.Proofs.PriorityCeiling
import AccessControl.Proofs.Tenants

/-!
# What operations do to members and roles

Eight of the twenty operations have to do with the members and the roles of an organization:
`RosterChange` lists what they do.  For each of these changes it is told which priority a user has
behind it, from the priority before and from whether the user's own role is the one that changes
(`Store.Holds`).
-/

namespace AccessControl

open Administration

/-- The ways in which an operation of the actor changes members and roles, checked in the state
`b`. -/
inductive RosterChange (b : Backend) (s : Setting) (actor : Actor) : Operation → Store → Prop
  | nothing {op : Operation} {store : Store} (hmembers : store.members = b.store.members)
      (hroles : store.roles = b.store.roles) : RosterChange b s actor op store
  | roleStored {op : Operation} {key name : String} {role : Role} {store : Store}
      (h : RoleStored b s actor key name role store) : RosterChange b s actor op store
  | roleUpdated {id : RoleId} {change : RoleChange} {role : Role} {store : Store}
      (h : RoleUpdated b s actor id change role store) :
      RosterChange b s actor (.updateRole id change) store
  | grantsChanged {op : Operation} {id : RoleId} {stored : Role} {grants : List RoleGrant}
      {store : Store} (h : Editable b s actor id stored)
      (hstore : store = b.store.putRole { stored with grants }) : RosterChange b s actor op store
  | roleDeleted {id : RoleId} {store : Store} (h : RoleDeleted b s actor id store) :
      RosterChange b s actor (.deleteRole id) store
  | roleAssigned {user : UserId} {id : RoleId} {m : Member} {store : Store}
      (h : RoleAssigned b s actor user id m store) :
      RosterChange b s actor (.assignRole user id) store

namespace RosterChange

variable {b : Backend} {s : Setting} {actor : Actor} {op : Operation} {store : Store}

theorem of_eq (h : store = b.store) : RosterChange b s actor op store := by
  rw [h]
  exact .nothing rfl rfl

theorem of_putDelegation {d : Delegation} (h : store = b.store.putDelegation d) :
    RosterChange b s actor op store := by
  rw [h]
  exact .nothing rfl rfl

theorem of_putOverride {o : Override} (h : store = b.store.putOverride o) :
    RosterChange b s actor op store := by
  rw [h]
  exact .nothing rfl rfl

/-- An operation that succeeds does one of these. -/
theorem of_done {r : op.Result} (h : op.Done b s actor r store) :
    RosterChange b s actor op store := by
  cases op with
  | listRoles => exact of_eq h.2.2
  | createRole draft => exact .roleStored h.toRoleStored
  | duplicateRole id copy => exact .roleStored h.toRoleStored
  | updateRole id change => exact .roleUpdated h
  | deleteRole id => exact .roleDeleted h
  | assignRole user id => exact .roleAssigned h
  | addPermission id draft =>
      obtain ⟨stored, grant, heditable, -, -, -, rfl⟩ := h.stored
      exact .grantsChanged heditable h.store
  | removePermission id permission =>
      obtain ⟨stored, heditable, -, rfl⟩ := h.stored
      exact .grantsChanged heditable h.store
  | createDelegation request => exact of_putDelegation h.store
  | revokeDelegation id => exact of_putDelegation h.store
  | extendDelegation id endsAt => exact of_putDelegation h.store
  | listDelegations f => exact of_eq h.2.2
  | grantOverride request => exact of_putOverride h.store
  | revokeOverride id => exact of_putOverride h.store
  | extendOverride id expiresAt => exact of_putOverride h.store
  | listOverrides f => exact of_eq h.2.2
  | listEntries q => exact of_eq h.2
  | auditSummary window => exact of_eq h.2
  | exportEntries window => exact of_eq h.2
  | purgeEntries days => exact of_eq h.2

end RosterChange

/-- An act changes members and roles in one of the ways of `RosterChange`. -/
theorem Act.rosterChange (act : Act) (b : Backend) :
    RosterChange b act.setting act.actor act.operation (act.after b).store := by
  rcases act.kept_or_done b with hkept | ⟨r, hdone⟩
  · exact .of_eq hkept
  · exact .of_done hdone

/-! ## Priorities -/

namespace Store

/-- The role is the one that the user has as a member. -/
def Holds (s : Store) (organization : OrganizationId) (user : UserId) (id : RoleId) : Prop :=
  ∃ m, s.findMember organization user = some m ∧ m.role = .dynamic id

section Priorities

variable {s : Store} {organization : OrganizationId} {user : UserId} {own : RolePriority}
  {id : RoleId} {role : Role}

/-- The priority of one who has a role of the organization is that of the role. -/
theorem exists_role_of_holds (hheld : s.Holds organization user id)
    (h : s.priority? organization user = some own) :
    ∃ role, s.findRole organization id = some role ∧ role.priority = own := by
  obtain ⟨m, hm, hrole⟩ := hheld
  obtain ⟨m', base, hm', -, hbase, rfl⟩ := priority?_eq_some.mp h
  obtain rfl : m = m' := Option.some.inj (hm.symm.trans hm')
  rw [hrole] at hbase
  obtain ⟨role, hfound, rfl⟩ := Option.map_eq_some_iff.mp hbase
  exact ⟨role, hfound, rfl⟩

/-- A user whose own role is still found as it was keeps the priority. -/
theorem priority?_of_findRole {t : Store} (h : s.priority? organization user = some own)
    (hmember : t.findMember organization user = s.findMember organization user)
    (hrole : ∀ id, s.Holds organization user id →
      t.findRole organization id = s.findRole organization id) :
    t.priority? organization user = some own := by
  obtain ⟨m, base, hfound, hactive, hbase, rfl⟩ := priority?_eq_some.mp h
  refine priority?_eq_some.mpr ⟨m, base, hmember.trans hfound, hactive, ?_, rfl⟩
  cases hheld : m.role with
  | legacy r => rw [← hbase, hheld]; rfl
  | dynamic id =>
      rw [← hbase, hheld, roleOf?, roleOf?, hrole id ⟨m, hfound, hheld⟩]

theorem priority?_putRole_of_holds (hheld : s.Holds role.organization user role.id)
    (h : s.priority? role.organization user = some own) :
    (s.putRole role).priority? role.organization user = some role.priority := by
  obtain ⟨m, hm, hrole⟩ := hheld
  obtain ⟨m', base, hm', hactive, -⟩ := priority?_eq_some.mp h
  obtain rfl : m = m' := Option.some.inj (hm.symm.trans hm')
  refine priority?_eq_some.mpr ⟨m, .ofRole role, hm, hactive, ?_, rfl⟩
  rw [hrole, roleOf?, findRole_putRole_self]
  rfl

theorem priority?_putRole_of_not_holds (hheld : ¬s.Holds organization user role.id)
    (h : s.priority? organization user = some own) :
    (s.putRole role).priority? organization user = some own := by
  refine priority?_of_findRole h rfl fun id hid => findRole_putRole_of_ne ?_
  rintro rfl
  exact hheld hid

theorem priority?_eraseRole_of_not_holds (hheld : ¬s.Holds organization user id)
    (h : s.priority? organization user = some own) :
    ({ s with roles := s.roles.erase id } : Store).priority? organization user = some own := by
  refine priority?_of_findRole h rfl fun id' hid => ?_
  rw [findRole_eraseRole, if_neg]
  rintro rfl
  exact hheld hid

theorem priority?_putMember_of_ne {m : Member} (hne : (organization, user) ≠ m.key)
    (h : s.priority? organization user = some own) :
    (s.putMember m).priority? organization user = some own :=
  priority?_of_findRole h (findMember_putMember_of_ne hne) fun _ _ => rfl

theorem priority?_putMember_self {m : Member} (hactive : m.active = true)
    (hdynamic : m.role = .dynamic id) (hrole : s.findRole m.organization id = some role) :
    (s.putMember m).priority? m.organization m.user = some role.priority := by
  refine priority?_eq_some.mpr
    ⟨m, .ofRole role, findMember_putMember_self s m, hactive, ?_, rfl⟩
  have hsame : (s.putMember m).findRole m.organization id = s.findRole m.organization id := rfl
  rw [hdynamic, roleOf?, hsame, hrole]
  rfl

/-- A role that no member has is no user's own. -/
theorem not_holds_of_countMembers (h : s.countMembers organization id = 0) :
    ¬s.Holds organization user id := by
  rintro ⟨m, hm, hrole⟩
  obtain ⟨hmem, horganization, -⟩ := findMember_eq_some.mp hm
  refine List.countP_eq_zero.mp h m hmem ?_
  simp [horganization, hrole, MemberRole.roleId?]

/-- A role that is not handed over is in no delegation. -/
theorem role_ne_of_countDelegations (h : s.countDelegations organization id = 0) {d : Delegation}
    (hd : d ∈ s.delegations.rows) (horganization : d.organization = organization) :
    d.role ≠ some id := by
  intro hrole
  refine List.countP_eq_zero.mp h d hd ?_
  simp [horganization, hrole]

end Priorities

end Store

end AccessControl
