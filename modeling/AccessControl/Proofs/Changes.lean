import AccessControl.Store

/-!
# Changes of a store

When a change is possible and what it leaves: one equivalence per change.  Behind them come the
laws for what is found in a store, and for what is found after a change of the members or of the
roles.
-/

namespace AccessControl.Store

variable {s t : Store}

/-! ## When a change is possible -/

theorem createRole_eq_ok {role : Role} :
    s.createRole role = .ok t ↔
      s.findRoleByKey role.organization role.key = none ∧ t = s.putRole role := by
  rw [createRole]
  cases s.findRoleByKey role.organization role.key <;> simp [eq_comm]

theorem updateRole_eq_ok {role : Role} :
    s.updateRole role = .ok t ↔ ∃ stored, s.findRole role.organization role.id = some stored ∧
      t = s.putRole { stored with name := role.name, priority := role.priority } := by
  rw [updateRole]
  cases s.findRole role.organization role.id <;> simp [eq_comm]

theorem deleteRole_eq_ok {organization : OrganizationId} {id : RoleId} :
    s.deleteRole organization id = .ok t ↔ s.countMembers organization id = 0 ∧
      s.countDelegations organization id = 0 ∧ (s.findRole organization id).isSome = true ∧
      t = { s with roles := s.roles.erase id } := by
  rw [deleteRole]
  by_cases hused : 0 < s.countMembers organization id ∨ 0 < s.countDelegations organization id
  · rw [if_pos hused]
    constructor
    · intro h
      cases h
    · rintro ⟨hmembers, hdelegations, -⟩
      omega
  · rw [if_neg hused]
    have hmembers : s.countMembers organization id = 0 := by omega
    have hdelegations : s.countDelegations organization id = 0 := by omega
    cases s.findRole organization id <;> simp [hmembers, hdelegations, eq_comm]

theorem addGrant_eq_ok {organization : OrganizationId} {id : RoleId} {grant : RoleGrant} :
    s.addGrant organization id grant = .ok t ↔
      ∃ role, s.findRole organization id = some role ∧
        (role.grants.any fun g => g.permission = grant.permission) = false ∧
        t = s.putRole { role with grants := role.grants ++ [grant] } := by
  rw [addGrant]
  cases s.findRole organization id with
  | none => simp
  | some role =>
      simp only [Option.some.injEq, exists_eq_left']
      cases role.grants.any fun g => g.permission = grant.permission <;> simp [eq_comm]

theorem exists_of_removeGrant {organization : OrganizationId} {id : RoleId} {p : Permission}
    (h : s.removeGrant organization id p = .ok t) :
      ∃ role, s.findRole organization id = some role ∧
        t = s.putRole
          { role with grants := role.grants.filter fun g => g.permission.resolve? ≠ some p } := by
  rw [removeGrant] at h
  cases hrole : s.findRole organization id with
  | none => simp [hrole] at h
  | some role =>
      simp only [hrole] at h
      split at h
      · cases h
      · exact ⟨role, rfl, (Except.ok.inj h).symm⟩

theorem setMemberRole_eq_ok {organization : OrganizationId} {user : UserId} {role : MemberRole}
    {m : Member} :
    s.setMemberRole organization user role = .ok (m, t) ↔
      ∃ stored, s.findMember organization user = some stored ∧ m = { stored with role } ∧
        t = s.putMember m := by
  rw [setMemberRole]
  cases s.findMember organization user with
  | none => simp
  | some stored =>
      simp only [Except.ok.injEq, Prod.mk.injEq, Option.some.injEq, exists_eq_left']
      constructor
      · rintro ⟨rfl, rfl⟩
        exact ⟨rfl, rfl⟩
      · rintro ⟨rfl, rfl⟩
        exact ⟨rfl, rfl⟩

theorem createDelegation_eq_ok {d : Delegation} :
    s.createDelegation d = .ok t ↔ s.delegations.find? d.id = none ∧ t = s.putDelegation d := by
  rw [createDelegation]
  cases s.delegations.find? d.id <;> simp [eq_comm]

theorem saveDelegation_eq_ok {d : Delegation} :
    s.saveDelegation d = .ok t ↔
      (s.findDelegation d.organization d.id).isSome = true ∧ t = s.putDelegation d := by
  rw [saveDelegation]
  cases s.findDelegation d.organization d.id <;> simp [eq_comm]

theorem createOverride_eq_ok {o : Override} :
    s.createOverride o = .ok t ↔ s.overrides.find? o.id = none ∧ t = s.putOverride o := by
  rw [createOverride]
  cases s.overrides.find? o.id <;> simp [eq_comm]

theorem saveOverride_eq_ok {o : Override} :
    s.saveOverride o = .ok t ↔
      (s.findOverride o.organization o.id).isSome = true ∧ t = s.putOverride o := by
  rw [saveOverride]
  cases s.findOverride o.organization o.id <;> simp [eq_comm]

/-! ## What is found after a change -/

theorem findMember_eq_some {organization : OrganizationId} {user : UserId} {m : Member} :
    s.findMember organization user = some m ↔
      m ∈ s.members.rows ∧ m.organization = organization ∧ m.user = user := by
  rw [findMember, Table.find?_eq_some, Member.key, Prod.mk.injEq]

theorem findMember_putMember_self (s : Store) (m : Member) :
    (s.putMember m).findMember m.organization m.user = some m :=
  s.members.find?_put_self m

theorem findMember_putMember_of_ne {m : Member} {organization : OrganizationId} {user : UserId}
    (h : (organization, user) ≠ m.key) :
    (s.putMember m).findMember organization user = s.findMember organization user :=
  Table.find?_put_of_ne h

theorem findRole_eq_some {organization : OrganizationId} {id : RoleId} {role : Role} :
    s.findRole organization id = some role ↔
      role ∈ s.roles.rows ∧ role.id = id ∧ role.organization = organization := by
  rw [findRole, Option.filter_eq_some_iff, Table.find?_eq_some]
  simp [and_assoc]

theorem findDelegation_eq_some {organization : OrganizationId} {id : DelegationId}
    {d : Delegation} :
    s.findDelegation organization id = some d ↔
      d ∈ s.delegations.rows ∧ d.id = id ∧ d.organization = organization := by
  rw [findDelegation, Option.filter_eq_some_iff, Table.find?_eq_some]
  simp [and_assoc]

theorem findOverride_eq_some {organization : OrganizationId} {id : OverrideId} {o : Override} :
    s.findOverride organization id = some o ↔
      o ∈ s.overrides.rows ∧ o.id = id ∧ o.organization = organization := by
  rw [findOverride, Option.filter_eq_some_iff, Table.find?_eq_some]
  simp [and_assoc]

theorem findRole_putRole_self (s : Store) (role : Role) :
    (s.putRole role).findRole role.organization role.id = some role := by
  rw [findRole, putRole, Table.find?_put_self]
  simp

theorem findRole_putRole_of_ne {role : Role} {organization : OrganizationId} {id : RoleId}
    (h : id ≠ role.id) :
    (s.putRole role).findRole organization id = s.findRole organization id := by
  rw [findRole, putRole, Table.find?_put_of_ne h, findRole]

end AccessControl.Store
