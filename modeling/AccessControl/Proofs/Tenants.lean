import AccessControl.Proofs.Ordering
import AccessControl.Proofs.Records
import AccessControl.Proofs.Sources

/-!
# What is stored for one organization

`Store.Agree` says of two stores that they hold the same records of an organization.  Members,
roles and teams are looked up, so the order of their rows does not count; delegations and overrides
are listed as they were put in, so it does.

Every question about the organization is answered alike by stores that agree on it, as long as its
roles have keys of their own.  Every change made for the organization either fails in both or is
made in both, and then they agree again.  On all other organizations the store stays as it was.
-/

namespace AccessControl

namespace Store

/-! ## Rows of an organization -/

def delegationsOf (s : Store) (organization : OrganizationId) : Table Delegation.id :=
  s.delegations.filter fun d => d.organization = organization

def overridesOf (s : Store) (organization : OrganizationId) : Table Override.id :=
  s.overrides.filter fun o => o.organization = organization

/-- The stores hold the same records of the organization. -/
structure Agree (organization : OrganizationId) (s t : Store) : Prop where
  member : ∀ user, s.findMember organization user = t.findMember organization user
  role : ∀ id, s.findRole organization id = t.findRole organization id
  teams : ∀ user, s.teams organization user = t.teams organization user
  delegations : s.delegationsOf organization = t.delegationsOf organization
  overrides : s.overridesOf organization = t.overridesOf organization

/-- No two roles of the organization have the same key. -/
def KeysDistinct (organization : OrganizationId) (s : Store) : Prop :=
  ∀ r ∈ s.rolesOf organization, ∀ r' ∈ s.rolesOf organization, r.key = r'.key → r = r'

section Questions

variable {organization : OrganizationId} {s t : Store} {user : UserId}

@[refl] theorem Agree.refl : Agree organization s s := ⟨fun _ => rfl, fun _ => rfl, fun _ => rfl,
  rfl, rfl⟩

theorem Agree.symm (h : s.Agree organization t) : t.Agree organization s where
  member user := (h.member user).symm
  role id := (h.role id).symm
  teams user := (h.teams user).symm
  delegations := h.delegations.symm
  overrides := h.overrides.symm

theorem Agree.trans {u : Store} (h : Agree organization s t) (h' : Agree organization t u) :
    Agree organization s u where
  member user := (h.member user).trans (h'.member user)
  role id := (h.role id).trans (h'.role id)
  teams user := (h.teams user).trans (h'.teams user)
  delegations := h.delegations.trans h'.delegations
  overrides := h.overrides.trans h'.overrides

/-! ## Questions -/

theorem receivedDelegations_eq (s : Store) (organization : OrganizationId) (user : UserId) :
    s.receivedDelegations organization user =
      (s.delegationsOf organization).rows.filter fun d => d.delegatee = user && d.active := by
  rw [receivedDelegations, delegationsOf, Table.rows_filter, List.filter_filter]
  refine List.filter_congr fun d _ => ?_
  cases decide (d.organization = organization) <;> simp

theorem listDelegations_eq (s : Store) (organization : OrganizationId) (user : Option UserId) :
    s.listDelegations organization user = (s.delegationsOf organization).rows.filter fun d =>
      user.all fun u => d.delegator = u || d.delegatee = u := by
  rw [listDelegations, delegationsOf, Table.rows_filter, List.filter_filter]
  refine List.filter_congr fun d _ => ?_
  cases decide (d.organization = organization) <;> simp

theorem findDelegation_eq (s : Store) (organization : OrganizationId) (id : DelegationId) :
    s.findDelegation organization id = (s.delegationsOf organization).find? id :=
  (s.delegations.find?_filter _ id).symm

theorem countDelegations_eq (s : Store) (organization : OrganizationId) (id : RoleId) :
    s.countDelegations organization id =
      (s.delegationsOf organization).rows.countP fun d => d.role = some id := by
  rw [countDelegations, delegationsOf, Table.rows_filter, List.countP_filter]
  refine List.countP_congr fun d _ => ?_
  simp [and_comm]

theorem receivedOverrides_eq (s : Store) (organization : OrganizationId) (user : UserId) :
    s.receivedOverrides organization user =
      (s.overridesOf organization).rows.filter fun o => o.user = user && o.revokedAt.isNone := by
  rw [receivedOverrides, overridesOf, Table.rows_filter, List.filter_filter]
  refine List.filter_congr fun o _ => ?_
  cases decide (o.organization = organization) <;> simp

theorem listOverrides_eq (s : Store) (organization : OrganizationId) (user : Option UserId) :
    s.listOverrides organization user = (s.overridesOf organization).rows.filter fun o =>
      user.all fun u => o.user = u := by
  rw [listOverrides, overridesOf, Table.rows_filter, List.filter_filter]
  refine List.filter_congr fun o _ => ?_
  cases decide (o.organization = organization) <;> simp

theorem findOverride_eq (s : Store) (organization : OrganizationId) (id : OverrideId) :
    s.findOverride organization id = (s.overridesOf organization).find? id :=
  (s.overrides.find?_filter _ id).symm

section Alike

variable (h : s.Agree organization t)

include h

theorem Agree.receivedDelegations (user : UserId) :
    s.receivedDelegations organization user = t.receivedDelegations organization user := by
  rw [receivedDelegations_eq, receivedDelegations_eq, h.delegations]

theorem Agree.listDelegations (user : Option UserId) :
    s.listDelegations organization user = t.listDelegations organization user := by
  rw [listDelegations_eq, listDelegations_eq, h.delegations]

theorem Agree.findDelegation (id : DelegationId) :
    s.findDelegation organization id = t.findDelegation organization id := by
  rw [findDelegation_eq, findDelegation_eq, h.delegations]

theorem Agree.countDelegations (id : RoleId) :
    s.countDelegations organization id = t.countDelegations organization id := by
  rw [countDelegations_eq, countDelegations_eq, h.delegations]

theorem Agree.receivedOverrides (user : UserId) :
    s.receivedOverrides organization user = t.receivedOverrides organization user := by
  rw [receivedOverrides_eq, receivedOverrides_eq, h.overrides]

theorem Agree.listOverrides (user : Option UserId) :
    s.listOverrides organization user = t.listOverrides organization user := by
  rw [listOverrides_eq, listOverrides_eq, h.overrides]

theorem Agree.findOverride (id : OverrideId) :
    s.findOverride organization id = t.findOverride organization id := by
  rw [findOverride_eq, findOverride_eq, h.overrides]

end Alike

/-! ### The organization of a row -/

theorem organization_of_findRole {id : RoleId} {stored r : Role}
    (h : s.findRole organization id = some stored) (hr : s.roles.find? id = some r) :
    r.organization = organization := by
  obtain ⟨hstored, hsame⟩ := Option.filter_eq_some_iff.mp h
  exact Option.some.inj (hr.symm.trans hstored) ▸ of_decide_eq_true hsame

theorem organization_of_findDelegation {id : DelegationId} {stored d : Delegation}
    (h : s.findDelegation organization id = some stored) (hd : s.delegations.find? id = some d) :
    d.organization = organization := by
  obtain ⟨hstored, hsame⟩ := Option.filter_eq_some_iff.mp h
  exact Option.some.inj (hd.symm.trans hstored) ▸ of_decide_eq_true hsame

theorem organization_of_findOverride {id : OverrideId} {stored o : Override}
    (h : s.findOverride organization id = some stored) (ho : s.overrides.find? id = some o) :
    o.organization = organization := by
  obtain ⟨hstored, hsame⟩ := Option.filter_eq_some_iff.mp h
  exact Option.some.inj (ho.symm.trans hstored) ▸ of_decide_eq_true hsame

/-! ### Rows that are looked up -/

theorem mem_rolesOf {role : Role} :
    role ∈ s.rolesOf organization ↔ s.findRole organization role.id = some role := by
  rw [findRole_eq_some, rolesOf, List.mem_filter, decide_eq_true_eq]
  simp

theorem Agree.rolesOf_perm (h : s.Agree organization t) :
    (s.rolesOf organization).Perm (t.rolesOf organization) := by
  have hnodup : ∀ u : Store, (u.rolesOf organization).Nodup := fun u =>
    (List.Nodup.of_map _ u.roles.distinct).filter _
  refine (List.perm_ext_iff_of_nodup (hnodup s) (hnodup t)).mpr fun role => ?_
  rw [mem_rolesOf, mem_rolesOf, h.role]

theorem Agree.countMembers (h : s.Agree organization t) (id : RoleId) :
    s.countMembers organization id = t.countMembers organization id := by
  let rows (u : Store) := u.members.rows.filter fun m => m.organization = organization
  have hcount : ∀ u : Store, u.countMembers organization id =
      (rows u).countP fun m => m.role.roleId? = some id := fun u => by
    rw [Store.countMembers, List.countP_filter]
    exact List.countP_congr fun m _ => by simp [and_comm]
  have hmem : ∀ (u : Store) (m : Member),
      m ∈ rows u ↔ m.organization = organization ∧ u.findMember organization m.user = some m := by
    intro u m
    rw [findMember_eq_some, List.mem_filter, decide_eq_true_eq]
    simp [and_comm]
  have hnodup : ∀ u, (rows u).Nodup := fun u => (List.Nodup.of_map _ u.members.distinct).filter _
  have hperm : (rows s).Perm (rows t) :=
    (List.perm_ext_iff_of_nodup (hnodup s) (hnodup t)).mpr fun m => by rw [hmem, hmem, h.member]
  rw [hcount, hcount, hperm.countP_eq]

/-! ### Roles in order -/

theorem roleComesBefore_trans (a b c : Role) (hab : roleComesBefore a b = true)
    (hbc : roleComesBefore b c = true) : roleComesBefore a c = true := by
  simp only [roleComesBefore, Bool.or_eq_true, Bool.and_eq_true, decide_eq_true_eq] at hab hbc ⊢
  rcases hab with hab | ⟨hab, hkey⟩
  · rcases hbc with hbc | ⟨hbc, -⟩
    · exact .inl (Nat.lt_trans hbc hab)
    · exact .inl (show c.priority.value < a.priority.value from hbc ▸ hab)
  · rcases hbc with hbc | ⟨hbc, hkey'⟩
    · exact .inl (show c.priority.value < a.priority.value from hab ▸ hbc)
    · exact .inr ⟨hab.trans hbc, String.le_trans hkey hkey'⟩

theorem roleComesBefore_total (a b : Role) :
    (roleComesBefore a b || roleComesBefore b a) = true := by
  simp only [roleComesBefore, Bool.or_eq_true, Bool.and_eq_true, decide_eq_true_eq]
  rcases Nat.lt_trichotomy a.priority.value b.priority.value with h | h | h
  · exact .inr (.inl h)
  · rcases String.le_total a.key.text b.key.text with hkey | hkey
    · exact .inl (.inr ⟨h, hkey⟩)
    · exact .inr (.inr ⟨h.symm, hkey⟩)
  · exact .inl (.inl h)

/-- Two roles of one place in the order have the same key. -/
theorem key_eq_of_roleComesBefore {a b : Role} (hab : roleComesBefore a b = true)
    (hba : roleComesBefore b a = true) : a.key = b.key := by
  simp only [roleComesBefore, Bool.or_eq_true, Bool.and_eq_true, decide_eq_true_eq] at hab hba
  have hkey : a.key.text ≤ b.key.text ∧ b.key.text ≤ a.key.text := by
    rcases hab with hab | ⟨heq, hab⟩
    · rcases hba with hba | ⟨heq, -⟩
      · exact absurd (Nat.lt_trans hab hba) (Nat.lt_irrefl _)
      · exact absurd (show b.priority.value < a.priority.value from hab) (by omega)
    · rcases hba with hba | ⟨-, hba⟩
      · exact absurd (show a.priority.value < b.priority.value from hba) (by omega)
      · exact ⟨hab, hba⟩
  have htext := String.le_antisymm hkey.1 hkey.2
  cases hk : a.key
  cases hk' : b.key
  rw [hk, hk'] at htext
  cases htext
  rfl

theorem Agree.listRoles (h : s.Agree organization t) (hkeys : s.KeysDistinct organization) :
    s.listRoles organization = t.listRoles organization := by
  refine mergeSort_eq_of_perm roleComesBefore_trans roleComesBefore_total ?_ h.rolesOf_perm
  intro a ha b hb hab hba
  exact hkeys a ha b hb (key_eq_of_roleComesBefore hab hba)

theorem findRoleByKey_eq_some (hkeys : s.KeysDistinct organization) {key : RoleKey} {role : Role} :
    s.findRoleByKey organization key = some role ↔
      role ∈ s.rolesOf organization ∧ role.key = key := by
  constructor
  · intro h
    exact ⟨List.mem_of_find?_eq_some h, by simpa using List.find?_some h⟩
  · rintro ⟨hmem, rfl⟩
    rw [findRoleByKey]
    cases hfound : (s.rolesOf organization).find? fun r => r.key = role.key with
    | none => simpa using List.find?_eq_none.mp hfound role hmem
    | some found =>
        have hkey : found.key = role.key := by simpa using List.find?_some hfound
        rw [hkeys found (List.mem_of_find?_eq_some hfound) role hmem hkey]

theorem Agree.keysDistinct (h : s.Agree organization t) (hkeys : s.KeysDistinct organization) :
    t.KeysDistinct organization := fun r hr r' hr' =>
  hkeys r (h.rolesOf_perm.mem_iff.mpr hr) r' (h.rolesOf_perm.mem_iff.mpr hr')

theorem Agree.findRoleByKey (h : s.Agree organization t) (hkeys : s.KeysDistinct organization)
    (key : RoleKey) : s.findRoleByKey organization key = t.findRoleByKey organization key := by
  refine Option.ext fun role => ?_
  rw [findRoleByKey_eq_some hkeys, findRoleByKey_eq_some (h.keysDistinct hkeys),
    h.rolesOf_perm.mem_iff]

/-! ### Rules -/

theorem Agree.sources (h : s.Agree organization t) (user : UserId) :
    s.sources organization user = t.sources organization user := by
  have haccess : s.access organization = t.access organization := by
    funext d
    rw [access, access, funext h.role]
  rw [Store.sources, Store.sources, h.member, funext h.role, h.teams, haccess,
    h.receivedDelegations, h.receivedOverrides]

theorem Agree.rules (h : s.Agree organization t) (user : UserId) (now : Instant) :
    s.rules organization user now = t.rules organization user now := by
  rw [Store.rules, Store.rules, h.sources]

end Questions

/-! ## Changes for the organization -/

section Changes

variable {organization : OrganizationId} {s t : Store}

theorem findRole_putRole {role : Role} (horganization : role.organization = organization)
    (id : RoleId) : (s.putRole role).findRole organization id =
      if id = role.id then some role else s.findRole organization id := by
  subst horganization
  by_cases hid : id = role.id
  · rw [if_pos hid, hid, findRole_putRole_self]
  · rw [if_neg hid, findRole_putRole_of_ne hid]

theorem findRole_eraseRole (s : Store) (organization : OrganizationId) (id id' : RoleId) :
    ({ s with roles := s.roles.erase id } : Store).findRole organization id' =
      if id' = id then none else s.findRole organization id' := by
  by_cases hid : id' = id
  · rw [if_pos hid, hid, findRole, Table.find?_erase_self]
    rfl
  · rw [if_neg hid, findRole, Table.find?_erase_of_ne hid, findRole]

theorem findMember_putMember {m : Member} (horganization : m.organization = organization)
    (user : UserId) : (s.putMember m).findMember organization user =
      if user = m.user then some m else s.findMember organization user := by
  subst horganization
  by_cases huser : user = m.user
  · rw [if_pos huser, huser, findMember_putMember_self]
  · rw [if_neg huser, findMember_putMember_of_ne fun h => huser (congrArg Prod.snd h)]

theorem delegationsOf_putDelegation {d : Delegation}
    (horganization : d.organization = organization)
    (hold : ∀ e, s.delegations.find? d.id = some e → e.organization = organization) :
    (s.putDelegation d).delegationsOf organization = (s.delegationsOf organization).put d :=
  Table.filter_put_of_pos (decide_eq_true horganization) fun e he => decide_eq_true (hold e he)

theorem overridesOf_putOverride {o : Override} (horganization : o.organization = organization)
    (hold : ∀ p, s.overrides.find? o.id = some p → p.organization = organization) :
    (s.putOverride o).overridesOf organization = (s.overridesOf organization).put o :=
  Table.filter_put_of_pos (decide_eq_true horganization) fun p hp => decide_eq_true (hold p hp)

theorem Agree.putRole (h : s.Agree organization t) {role : Role}
    (horganization : role.organization = organization) :
    (s.putRole role).Agree organization (t.putRole role) where
  member := h.member
  role id := by rw [findRole_putRole horganization, findRole_putRole horganization, h.role]
  teams := h.teams
  delegations := h.delegations
  overrides := h.overrides

theorem Agree.eraseRole (h : s.Agree organization t) (id : RoleId) :
    ({ s with roles := s.roles.erase id } : Store).Agree organization
      { t with roles := t.roles.erase id } where
  member := h.member
  role id' := by rw [findRole_eraseRole, findRole_eraseRole, h.role]
  teams := h.teams
  delegations := h.delegations
  overrides := h.overrides

theorem Agree.putMember (h : s.Agree organization t) {m : Member}
    (horganization : m.organization = organization) :
    (s.putMember m).Agree organization (t.putMember m) where
  member user := by
    rw [findMember_putMember horganization, findMember_putMember horganization, h.member]
  role := h.role
  teams := h.teams
  delegations := h.delegations
  overrides := h.overrides

theorem Agree.putDelegation (h : s.Agree organization t) {d : Delegation}
    (horganization : d.organization = organization)
    (hs : ∀ e, s.delegations.find? d.id = some e → e.organization = organization)
    (ht : ∀ e, t.delegations.find? d.id = some e → e.organization = organization) :
    (s.putDelegation d).Agree organization (t.putDelegation d) where
  member := h.member
  role := h.role
  teams := h.teams
  delegations := by
    rw [delegationsOf_putDelegation horganization hs, delegationsOf_putDelegation horganization ht,
      h.delegations]
  overrides := h.overrides

theorem Agree.putOverride (h : s.Agree organization t) {o : Override}
    (horganization : o.organization = organization)
    (hs : ∀ p, s.overrides.find? o.id = some p → p.organization = organization)
    (ht : ∀ p, t.overrides.find? o.id = some p → p.organization = organization) :
    (s.putOverride o).Agree organization (t.putOverride o) where
  member := h.member
  role := h.role
  teams := h.teams
  delegations := h.delegations
  overrides := by
    rw [overridesOf_putOverride horganization hs, overridesOf_putOverride horganization ht,
      h.overrides]

end Changes

end Store

/-- Both fail for the same reason, or both succeed with results that are related. -/
def Outcome.Both {α β : Type} (R : α → β → Prop) : Outcome α → Outcome β → Prop
  | .ok a, .ok b => R a b
  | .error e, .error e' => e = e'
  | _, _ => False

namespace Store

section Outcomes

variable {organization : OrganizationId} {s t : Store}

theorem Agree.createRole (h : s.Agree organization t) (hkeys : s.KeysDistinct organization)
    {role : Role} (horganization : role.organization = organization) :
    Outcome.Both (Agree organization) (s.createRole role) (t.createRole role) := by
  rw [Store.createRole, Store.createRole, horganization, h.findRoleByKey hkeys]
  cases t.findRoleByKey organization role.key with
  | some _ => rfl
  | none => exact h.putRole horganization

theorem Agree.updateRole (h : s.Agree organization t) {role : Role}
    (horganization : role.organization = organization) :
    Outcome.Both (Agree organization) (s.updateRole role) (t.updateRole role) := by
  rw [Store.updateRole, Store.updateRole, horganization, h.role]
  cases hfound : t.findRole organization role.id with
  | none => rfl
  | some stored => exact h.putRole (findRole_eq_some.mp hfound).2.2

theorem Agree.deleteRole (h : s.Agree organization t) (id : RoleId) :
    Outcome.Both (Agree organization) (s.deleteRole organization id)
      (t.deleteRole organization id) := by
  rw [Store.deleteRole, Store.deleteRole, h.countMembers, h.countDelegations, h.role]
  split
  · rfl
  · cases t.findRole organization id with
    | none => rfl
    | some _ => exact h.eraseRole id

theorem Agree.addGrant (h : s.Agree organization t) (id : RoleId) (grant : RoleGrant) :
    Outcome.Both (Agree organization) (s.addGrant organization id grant)
      (t.addGrant organization id grant) := by
  rw [Store.addGrant, Store.addGrant, h.role]
  cases hfound : t.findRole organization id with
  | none => rfl
  | some role =>
      simp only []
      split
      · rfl
      · exact h.putRole (findRole_eq_some.mp hfound).2.2

theorem Agree.removeGrant (h : s.Agree organization t) (id : RoleId) (permission : Permission) :
    Outcome.Both (Agree organization) (s.removeGrant organization id permission)
      (t.removeGrant organization id permission) := by
  rw [Store.removeGrant, Store.removeGrant, h.role]
  cases hfound : t.findRole organization id with
  | none => rfl
  | some role =>
      simp only []
      split
      · rfl
      · exact h.putRole (findRole_eq_some.mp hfound).2.2

theorem Agree.setMemberRole (h : s.Agree organization t) (user : UserId) (role : MemberRole) :
    Outcome.Both (fun a b => a.1 = b.1 ∧ a.2.Agree organization b.2)
      (s.setMemberRole organization user role) (t.setMemberRole organization user role) := by
  rw [Store.setMemberRole, Store.setMemberRole, h.member]
  cases hfound : t.findMember organization user with
  | none => rfl
  | some m => exact ⟨rfl, h.putMember (findMember_eq_some.mp hfound).2.1⟩

theorem Agree.createDelegation (h : s.Agree organization t) {d : Delegation}
    (horganization : d.organization = organization) (hs : s.delegations.find? d.id = none)
    (ht : t.delegations.find? d.id = none) :
    Outcome.Both (Agree organization) (s.createDelegation d) (t.createDelegation d) := by
  rw [Store.createDelegation, Store.createDelegation, hs, ht]
  exact h.putDelegation horganization (by simp [hs]) (by simp [ht])

theorem Agree.saveDelegation (h : s.Agree organization t) {d : Delegation}
    (horganization : d.organization = organization) :
    Outcome.Both (Agree organization) (s.saveDelegation d) (t.saveDelegation d) := by
  have hsame := h.findDelegation d.id
  rw [Store.saveDelegation, Store.saveDelegation, horganization, hsame]
  cases hfound : t.findDelegation organization d.id with
  | none => rfl
  | some stored =>
      exact h.putDelegation horganization
        (fun e he => organization_of_findDelegation (hsame.trans hfound) he)
        fun e he => organization_of_findDelegation hfound he

theorem Agree.createOverride (h : s.Agree organization t) {o : Override}
    (horganization : o.organization = organization) (hs : s.overrides.find? o.id = none)
    (ht : t.overrides.find? o.id = none) :
    Outcome.Both (Agree organization) (s.createOverride o) (t.createOverride o) := by
  rw [Store.createOverride, Store.createOverride, hs, ht]
  exact h.putOverride horganization (by simp [hs]) (by simp [ht])

theorem Agree.saveOverride (h : s.Agree organization t) {o : Override}
    (horganization : o.organization = organization) :
    Outcome.Both (Agree organization) (s.saveOverride o) (t.saveOverride o) := by
  have hsame := h.findOverride o.id
  rw [Store.saveOverride, Store.saveOverride, horganization, hsame]
  cases hfound : t.findOverride organization o.id with
  | none => rfl
  | some stored =>
      exact h.putOverride horganization
        (fun p hp => organization_of_findOverride (hsame.trans hfound) hp)
        fun p hp => organization_of_findOverride hfound hp

end Outcomes

end Store

/-! ## Changes for other organizations -/

namespace Store

section Others

variable {organization : OrganizationId} {s : Store}

theorem agree_putRole_of_ne {role : Role} (hne : role.organization ≠ organization)
    (hold : ∀ r, s.roles.find? role.id = some r → r.organization ≠ organization) :
    (s.putRole role).Agree organization s where
  member _ := rfl
  role id := by
    by_cases hid : id = role.id
    · have hnone : s.findRole organization id = none := by
        rw [hid, findRole, Option.filter_eq_none_iff]
        intro r hr
        simpa using hold r hr
      rw [hnone, hid, findRole, putRole, Table.find?_put_self]
      simp [Option.filter_some, hne]
    · exact findRole_putRole_of_ne hid
  teams _ := rfl
  delegations := rfl
  overrides := rfl

theorem agree_eraseRole_of_ne {id : RoleId}
    (hold : ∀ r, s.roles.find? id = some r → r.organization ≠ organization) :
    ({ s with roles := s.roles.erase id } : Store).Agree organization s where
  member _ := rfl
  role id' := by
    rw [findRole_eraseRole]
    split
    · rename_i hid
      refine (Option.filter_eq_none_iff.mpr fun r hr => ?_).symm
      simpa using hold r (hid ▸ hr)
    · rfl
  teams _ := rfl
  delegations := rfl
  overrides := rfl

theorem agree_putMember_of_ne {m : Member} (hne : m.organization ≠ organization) :
    (s.putMember m).Agree organization s where
  member _ := findMember_putMember_of_ne fun h => hne (congrArg Prod.fst h).symm
  role _ := rfl
  teams _ := rfl
  delegations := rfl
  overrides := rfl

theorem agree_putDelegation_of_ne {d : Delegation} (hne : d.organization ≠ organization)
    (hold : ∀ e, s.delegations.find? d.id = some e → e.organization ≠ organization) :
    (s.putDelegation d).Agree organization s where
  member _ := rfl
  role _ := rfl
  teams _ := rfl
  delegations := Table.filter_put_of_neg (decide_eq_false hne) fun e he =>
    decide_eq_false (hold e he)
  overrides := rfl

theorem agree_putOverride_of_ne {o : Override} (hne : o.organization ≠ organization)
    (hold : ∀ p, s.overrides.find? o.id = some p → p.organization ≠ organization) :
    (s.putOverride o).Agree organization s where
  member _ := rfl
  role _ := rfl
  teams _ := rfl
  delegations := rfl
  overrides := Table.filter_put_of_neg (decide_eq_false hne) fun p hp =>
    decide_eq_false (hold p hp)

end Others

end Store

/-- What is stored for other organizations stays as it was. -/
theorem RecordChange.agree_of_ne {organization other : OrganizationId} {b d : Backend}
    {touched : Set UserId} {k n : Nat} (h : RecordChange organization b touched k d)
    (hfresh : b.FreshAhead n) (hn : k ≤ n) (hne : other ≠ organization) :
    d.store.Agree other b.store := by
  cases h with
  | newRole horganization hid _ =>
      refine Store.agree_putRole_of_ne (horganization ▸ hne.symm) fun r hr => ?_
      rw [hid, Backend.nextId, hfresh.role.next hn] at hr
      cases hr
  | roleKept hfound horganization _ =>
      refine Store.agree_putRole_of_ne (horganization ▸ hne.symm) fun r hr => ?_
      exact Store.organization_of_findRole hfound hr ▸ hne.symm
  | roleErased hfound =>
      refine Store.agree_eraseRole_of_ne fun r hr => ?_
      exact Store.organization_of_findRole hfound hr ▸ hne.symm
  | member _ horganization _ _ => exact Store.agree_putMember_of_ne (horganization ▸ hne.symm)
  | newDelegation horganization _ hfree _ =>
      refine Store.agree_putDelegation_of_ne (horganization ▸ hne.symm) fun e he => ?_
      rw [hfree] at he
      cases he
  | delegationKept hfound horganization _ _ =>
      refine Store.agree_putDelegation_of_ne (horganization ▸ hne.symm) fun e he => ?_
      exact Store.organization_of_findDelegation hfound he ▸ hne.symm
  | newOverride horganization _ hfree =>
      refine Store.agree_putOverride_of_ne (horganization ▸ hne.symm) fun p hp => ?_
      rw [hfree] at hp
      cases hp
  | overrideKept hfound horganization _ =>
      refine Store.agree_putOverride_of_ne (horganization ▸ hne.symm) fun p hp => ?_
      exact Store.organization_of_findOverride hfound hp ▸ hne.symm

theorem Store.mem_rolesOf_putRole {organization : OrganizationId} {s : Store} {role r : Role}
    (horganization : role.organization = organization) :
    r ∈ (s.putRole role).rolesOf organization ↔
      r = role ∨ r ∈ s.rolesOf organization ∧ r.id ≠ role.id := by
  rw [rolesOf, putRole, List.mem_filter, Table.mem_put, rolesOf, List.mem_filter]
  constructor
  · rintro ⟨rfl | ⟨hmem, hid⟩, hown⟩
    · exact .inl rfl
    · exact .inr ⟨⟨hmem, hown⟩, hid⟩
  · rintro (rfl | ⟨⟨hmem, hown⟩, hid⟩)
    · exact ⟨.inl rfl, decide_eq_true horganization⟩
    · exact ⟨.inr ⟨hmem, hid⟩, hown⟩

/-- A role whose key no other role has may be put in. -/
theorem Store.KeysDistinct.putRole {organization : OrganizationId} {s : Store} {role : Role}
    (hkeys : s.KeysDistinct organization) (horganization : role.organization = organization)
    (hfree : ∀ r ∈ s.rolesOf organization, r.id ≠ role.id → r.key ≠ role.key) :
    (s.putRole role).KeysDistinct organization := by
  intro r hr r' hr' hsame
  rw [mem_rolesOf_putRole horganization] at hr hr'
  rcases hr with rfl | ⟨hr, hid⟩
  · rcases hr' with rfl | ⟨hr', hid'⟩
    · rfl
    · exact absurd hsame.symm (hfree r' hr' hid')
  · rcases hr' with rfl | ⟨hr', -⟩
    · exact absurd hsame (hfree r hr hid)
    · exact hkeys r hr r' hr' hsame

/-- Keys stay distinct: a new role has a free key, and no role gets another one. -/
theorem RecordChange.keysDistinct {organization : OrganizationId} {b d : Backend}
    {touched : Set UserId} {k : Nat} (h : RecordChange organization b touched k d)
    (hkeys : b.store.KeysDistinct organization) : d.store.KeysDistinct organization := by
  cases h with
  | newRole horganization _ hfree =>
      refine hkeys.putRole horganization fun r hr _ => ?_
      simpa using List.find?_eq_none.mp hfree r hr
  | roleKept hfound horganization hkey =>
      refine hkeys.putRole horganization fun r hr hid hsame => hid ?_
      have hstored := Store.mem_rolesOf.mpr ((Store.findRole_eq_some.mp hfound).2.1.symm ▸ hfound)
      rw [hkeys r hr _ hstored (hsame.trans hkey), (Store.findRole_eq_some.mp hfound).2.1]
  | roleErased _ =>
      refine fun r hr r' hr' => hkeys r ?_ r' ?_
      · exact (List.filter_sublist.filter _).subset hr
      · exact (List.filter_sublist.filter _).subset hr'
  | _ => exact hkeys

theorem Call.Changes.keysDistinct {organization : OrganizationId} {b : Backend} {c : Call}
    (hcall : c.Changes organization b.situation) (hkeys : b.store.KeysDistinct organization) :
    (b.answer c).2.store.KeysDistinct organization := by
  rcases hcall.answer_cases with ⟨fault, hrun⟩ | ⟨r, d, hrun, hchange⟩
  · rw [hrun]
    exact hkeys
  · rw [hrun]
    exact hchange.keysDistinct hkeys

end AccessControl
