import Mathlib.Data.Set.Function
import Mathlib.Order.Interval.Set.Defs
import AccessControl.Proofs.Conduct
import AccessControl.Proofs.Tables

/-!
# What one call does to the records

A service that keeps to the discipline changes the records in nine ways, which `RecordChange`
lists with the users whose rules they touch.  A change that is allowed fails and leaves everything
as it was, or it is one of these (`Call.Changes.answer_cases`).

New records get identifiers that nothing stored has.  `Backend.FreshAhead` says so of those that
come next, as many as are needed, and of one less once a record has been created.
-/

namespace AccessControl

open Backend

/-- A change of the records of an organization: the users whose rules it touches, how many records
it creates, and the state that it leaves. -/
inductive RecordChange (organization : OrganizationId) (b : Backend) :
    Set UserId → Nat → Backend → Prop
  | newRole {role : Role} (horganization : role.organization = organization)
      (hid : role.id = b.nextId .role)
      (hkey : b.store.findRoleByKey organization role.key = none) :
      RecordChange organization b ∅ 1 { b.useId .role with store := b.store.putRole role }
  | roleKept {stored role : Role} (hfound : b.store.findRole organization role.id = some stored)
      (horganization : role.organization = organization) (hkey : role.key = stored.key) :
      RecordChange organization b Set.univ 0 { b with store := b.store.putRole role }
  | roleErased {id : RoleId} {stored : Role}
      (hfound : b.store.findRole organization id = some stored) :
      RecordChange organization b Set.univ 0
        { b with store := { b.store with roles := b.store.roles.erase id } }
  | member {user : UserId} {stored m : Member}
      (hfound : b.store.findMember organization user = some stored)
      (horganization : m.organization = organization) (huser : m.user = user)
      (hrole : ∀ id, m.role.roleId? = some id →
        (b.store.findRole organization id).isSome = true) :
      RecordChange organization b {user} 0 { b with store := b.store.putMember m }
  | newDelegation {d : Delegation} (horganization : d.organization = organization)
      (hid : d.id = b.nextId .delegation) (hfree : b.store.delegations.find? d.id = none)
      (hrole : ∀ id, d.role = some id → (b.store.findRole organization id).isSome = true) :
      RecordChange organization b {d.delegatee} 1
        { b.useId .delegation with store := b.store.putDelegation d }
  | delegationKept {stored d : Delegation}
      (hfound : b.store.findDelegation organization d.id = some stored)
      (horganization : d.organization = organization) (hdelegatee : d.delegatee = stored.delegatee)
      (hrole : d.role = stored.role) :
      RecordChange organization b {d.delegatee} 0 { b with store := b.store.putDelegation d }
  | newOverride {o : Override} (horganization : o.organization = organization)
      (hid : o.id = b.nextId .override) (hfree : b.store.overrides.find? o.id = none) :
      RecordChange organization b {o.user} 1
        { b.useId .override with store := b.store.putOverride o }
  | overrideKept {stored o : Override}
      (hfound : b.store.findOverride organization o.id = some stored)
      (horganization : o.organization = organization) (huser : o.user = stored.user) :
      RecordChange organization b {o.user} 0 { b with store := b.store.putOverride o }

namespace Backend

variable {b : Backend}

theorem update_cases (r : Outcome Store) :
    (∃ fault, b.update r = (.error fault, b)) ∨
      ∃ store, r = .ok store ∧ b.update r = (.ok (), { b with store }) := by
  cases r with
  | error fault => exact .inl ⟨fault, rfl⟩
  | ok store => exact .inr ⟨store, rfl, rfl⟩

theorem insert_cases (kind : Entity) (r : Outcome Store) :
    (∃ fault, b.insert kind r = (.error fault, b)) ∨
      ∃ store, r = .ok store ∧ b.insert kind r = (.ok (), { b.useId kind with store }) := by
  cases r with
  | error fault => exact .inl ⟨fault, rfl⟩
  | ok store => exact .inr ⟨store, rfl, rfl⟩

/-- The next identifier of a situation is the one that the state gives out. -/
theorem nextId_of_situation {kind : Entity} {id : Id kind} (h : b.situation.next kind = some id) :
    id = b.nextId kind := by
  rw [situation] at h
  dsimp only at h
  split at h
  · cases h
  · exact (Option.some.inj h).symm

end Backend

variable {organization : OrganizationId} {b d : Backend} {c : Call} {touched : Set UserId}
  {k n m : Nat}

/-- An allowed change fails and leaves everything as it was, or it changes the records. -/
theorem Call.Changes.answer_cases (h : c.Changes organization b.situation) :
    (∃ fault, b.answer c = (.error fault, b)) ∨
      ∃ r d, b.answer c = (.ok r, d) ∧ RecordChange organization b c.touched c.created d := by
  rw [Backend.answer]
  cases b.outage? c with
  | some fault => exact .inl ⟨fault, rfl⟩
  | none =>
      cases c with
      | createRole role =>
          obtain ⟨rfl, hid⟩ := h
          rcases insert_cases .role (b.store.createRole role) with hfails | ⟨store, hstore, hrun⟩
          · exact .inl hfails
          · obtain ⟨hkey, rfl⟩ := Store.createRole_eq_ok.mp hstore
            exact .inr ⟨(), _, hrun, .newRole rfl (nextId_of_situation hid) hkey⟩
      | updateRole role =>
          subst h
          rcases update_cases (b.store.updateRole role) with hfails | ⟨store, hstore, hrun⟩
          · exact .inl hfails
          · obtain ⟨stored, hfound, rfl⟩ := Store.updateRole_eq_ok.mp hstore
            obtain ⟨-, hid, horganization⟩ := Store.findRole_eq_some.mp hfound
            rw [← hid] at hfound
            exact .inr ⟨(), _, hrun, .roleKept hfound horganization rfl⟩
      | deleteRole o id =>
          subst h
          rcases update_cases (b.store.deleteRole o id) with hfails | ⟨store, hstore, hrun⟩
          · exact .inl hfails
          · obtain ⟨-, -, hfound, rfl⟩ := Store.deleteRole_eq_ok.mp hstore
            obtain ⟨stored, hfound⟩ := Option.isSome_iff_exists.mp hfound
            exact .inr ⟨(), _, hrun, .roleErased hfound⟩
      | addGrant o id grant =>
          subst h
          rcases update_cases (b.store.addGrant o id grant) with hfails | ⟨store, hstore, hrun⟩
          · exact .inl hfails
          · obtain ⟨stored, hfound, -, rfl⟩ := Store.addGrant_eq_ok.mp hstore
            obtain ⟨-, rfl, horganization⟩ := Store.findRole_eq_some.mp hfound
            exact .inr ⟨(), _, hrun, .roleKept hfound horganization rfl⟩
      | removeGrant o id permission =>
          subst h
          rcases update_cases (b.store.removeGrant o id permission) with
            hfails | ⟨store, hstore, hrun⟩
          · exact .inl hfails
          · obtain ⟨stored, hfound, rfl⟩ := Store.exists_of_removeGrant hstore
            obtain ⟨-, rfl, horganization⟩ := Store.findRole_eq_some.mp hfound
            exact .inr ⟨(), _, hrun, .roleKept hfound horganization rfl⟩
      | setMemberRole o user role =>
          obtain ⟨rfl, hrole⟩ := h
          rw [serve, Backend.setMemberRole]
          cases hchanged : b.store.setMemberRole o user role with
          | error fault => exact .inl ⟨fault, rfl⟩
          | ok changed =>
              obtain ⟨stored, hfound, hm, hstore⟩ := Store.setMemberRole_eq_ok.mp hchanged
              obtain ⟨-, horganization, huser⟩ := Store.findMember_eq_some.mp hfound
              refine .inr ⟨changed.1, _, rfl, ?_⟩
              rw [hstore]
              refine .member hfound ?_ ?_ ?_
              · rw [hm]
                exact horganization
              · rw [hm]
                exact huser
              · rw [hm]
                exact hrole
      | createDelegation d =>
          obtain ⟨rfl, hid, hrole⟩ := h
          rcases insert_cases .delegation (b.store.createDelegation d) with
            hfails | ⟨store, hstore, hrun⟩
          · exact .inl hfails
          · obtain ⟨hfree, rfl⟩ := Store.createDelegation_eq_ok.mp hstore
            exact .inr ⟨(), _, hrun, .newDelegation rfl (nextId_of_situation hid) hfree hrole⟩
      | saveDelegation d =>
          obtain ⟨stored, hfound, horganization, hdelegatee, hrole⟩ := h
          rcases update_cases (b.store.saveDelegation d) with hfails | ⟨store, hstore, hrun⟩
          · exact .inl hfails
          · obtain ⟨-, rfl⟩ := Store.saveDelegation_eq_ok.mp hstore
            have hstored := Store.findDelegation_eq_some.mp hfound
            exact .inr ⟨(), _, hrun,
              .delegationKept hfound (horganization.trans hstored.2.2) hdelegatee hrole⟩
      | createOverride o =>
          obtain ⟨rfl, hid⟩ := h
          rcases insert_cases .override (b.store.createOverride o) with
            hfails | ⟨store, hstore, hrun⟩
          · exact .inl hfails
          · obtain ⟨hfree, rfl⟩ := Store.createOverride_eq_ok.mp hstore
            exact .inr ⟨(), _, hrun, .newOverride rfl (nextId_of_situation hid) hfree⟩
      | saveOverride o =>
          obtain ⟨stored, hfound, horganization, huser⟩ := h
          rcases update_cases (b.store.saveOverride o) with hfails | ⟨store, hstore, hrun⟩
          · exact .inl hfails
          · obtain ⟨-, rfl⟩ := Store.saveOverride_eq_ok.mp hstore
            have hstored := Store.findOverride_eq_some.mp hfound
            exact .inr ⟨(), _, hrun, .overrideKept hfound (horganization.trans hstored.2.2) huser⟩
      | _ => exact h.elim

/-- The audit log and the cache are as before, and the same calls are out of order. -/
theorem RecordChange.rest (h : RecordChange organization b touched k d) :
    d.log = b.log ∧ d.cache = b.cache ∧ d.broken = b.broken := by
  cases h <;> exact ⟨rfl, rfl, rfl⟩

/-! ## Fresh identifiers -/

namespace Table

variable {κ α : Type} {key : α → κ} [DecidableEq κ] {t : Table key} {f : Nat → κ} {k n m : Nat}
  {a : α}

/-- No row has one of the `n` keys behind the `k`-th. -/
def Misses (t : Table key) (f : Nat → κ) (k n : Nat) : Prop :=
  ∀ i ∈ Set.Ioc k (k + n), t.find? (f i) = none

theorem Misses.mono (h : t.Misses f k n) (hm : m ≤ n) : t.Misses f k m := fun i hi =>
  h i ⟨hi.1, hi.2.trans (Nat.add_le_add_left hm k)⟩

theorem Misses.next (h : t.Misses f k n) (hn : 1 ≤ n) : t.find? (f (k + 1)) = none :=
  h (k + 1) ⟨Nat.lt_succ_self k, Nat.add_le_add_left hn k⟩

theorem Misses.put_old (h : t.Misses f k n) (hold : (t.find? (key a)).isSome = true) :
    (t.put a).Misses f k n := by
  intro i hi
  rw [find?_put_eq_none]
  refine ⟨?_, h i hi⟩
  intro heq
  rw [← heq, h i hi] at hold
  cases hold

theorem Misses.put_new (h : t.Misses f k n) (hn : 1 ≤ n)
    (hdistinct : Set.InjOn f (Set.Ioc k (k + n))) (hnew : key a = f (k + 1)) :
    (t.put a).Misses f (k + 1) (n - 1) := by
  rintro i ⟨hlow, hhigh⟩
  have hi : i ∈ Set.Ioc k (k + n) := ⟨by omega, by omega⟩
  rw [find?_put_eq_none, hnew]
  refine ⟨?_, h i hi⟩
  intro heq
  have hsame := hdistinct hi ⟨Nat.lt_succ_self k, Nat.add_le_add_left hn k⟩ heq
  omega

theorem Misses.erase (h : t.Misses f k n) (k' : κ) : (t.erase k').Misses f k n := by
  intro i hi
  by_cases hkey : f i = k'
  · rw [hkey, find?_erase_self]
  · rw [find?_erase_of_ne hkey, h i hi]

end Table

/-- The identifiers of the next `n` records are distinct, and no record has one of them. -/
structure Backend.FreshAhead (n : Nat) (b : Backend) : Prop where
  distinct : ∀ kind, kind ≠ .auditEntry →
    Set.InjOn (b.mint kind) (Set.Ioc (b.used kind) (b.used kind + n))
  role : b.store.roles.Misses (b.mint .role) (b.used .role) n
  delegation : b.store.delegations.Misses (b.mint .delegation) (b.used .delegation) n
  override : b.store.overrides.Misses (b.mint .override) (b.used .override) n

theorem Store.isSome_of_findRole {s : Store} {id : RoleId} {role : Role}
    (h : s.findRole organization id = some role) : (s.roles.find? id).isSome = true := by
  rw [(Option.filter_eq_some_iff.mp h).1]
  rfl

namespace Backend

theorem FreshAhead.of_keeps (hfresh : b.FreshAhead n) (h : Keeps b d) : d.FreshAhead n where
  distinct kind hkind := by
    rw [h.mint, h.used kind hkind]
    exact hfresh.distinct kind hkind
  role := by
    rw [h.store, h.mint, h.used .role (by decide)]
    exact hfresh.role
  delegation := by
    rw [h.store, h.mint, h.used .delegation (by decide)]
    exact hfresh.delegation
  override := by
    rw [h.store, h.mint, h.used .override (by decide)]
    exact hfresh.override

theorem FreshAhead.mono (hfresh : b.FreshAhead n) (hm : m ≤ n) : b.FreshAhead m where
  distinct kind hkind := by
    refine (hfresh.distinct kind hkind).mono ?_
    rintro i ⟨hlow, hhigh⟩
    exact ⟨hlow, hhigh.trans (Nat.add_le_add_left hm _)⟩
  role := hfresh.role.mono hm
  delegation := hfresh.delegation.mono hm
  override := hfresh.override.mono hm

/-- For one record it is enough that nothing has the identifiers that come next. -/
theorem FreshAhead.one (hrole : b.store.roles.find? (b.nextId .role) = none)
    (hdelegation : b.store.delegations.find? (b.nextId .delegation) = none)
    (hoverride : b.store.overrides.find? (b.nextId .override) = none) : b.FreshAhead 1 := by
  have hnext : ∀ {k i : Nat}, i ∈ Set.Ioc k (k + 1) → i = k + 1 := fun hi =>
    Nat.le_antisymm hi.2 hi.1
  exact
    { distinct := fun kind _ i hi j hj _ => (hnext hi).trans (hnext hj).symm
      role := fun i hi => hnext hi ▸ hrole
      delegation := fun i hi => hnext hi ▸ hdelegation
      override := fun i hi => hnext hi ▸ hoverride }

/-- No stored role has the identifier of the next one. -/
theorem FreshAhead.id_ne_nextId (hfresh : b.FreshAhead n) (hn : 1 ≤ n) {role : Role}
    (hrole : role ∈ b.store.roles.rows) : role.id ≠ b.nextId .role := by
  intro hid
  have hunused : b.store.roles.find? (b.nextId .role) = none := hfresh.role.next hn
  exact Table.find?_eq_none.mp hunused (hid ▸ List.mem_map_of_mem hrole)

/-- The identifiers behind the next one of a kind are distinct. -/
theorem FreshAhead.distinct_useId (hfresh : b.FreshAhead n) (hn : 1 ≤ n) (kind' : Entity)
    {kind : Entity} (hkind : kind ≠ .auditEntry) :
    Set.InjOn ((b.useId kind').mint kind)
      (Set.Ioc ((b.useId kind').used kind) ((b.useId kind').used kind + (n - 1))) := by
  refine (hfresh.distinct kind hkind).mono ?_
  rintro i ⟨hlow, hhigh⟩
  have hcount : (b.useId kind').used kind = b.used kind ∨
      (b.useId kind').used kind = b.used kind + 1 := by
    rw [useId]
    dsimp only
    split
    · exact .inr rfl
    · exact .inl rfl
  exact ⟨by omega, by omega⟩

end Backend

/-- A new record takes the next identifier, and those behind it stay fresh. -/
theorem RecordChange.freshAhead (h : RecordChange organization b touched k d)
    (hfresh : b.FreshAhead n) (hn : k ≤ n) : d.FreshAhead (n - k) := by
  have hless := hfresh.mono (Nat.sub_le n 1)
  cases h with
  | newRole _ hid _ =>
      exact ⟨fun kind => hfresh.distinct_useId hn .role,
        hfresh.role.put_new hn (hfresh.distinct .role (by decide)) hid, hless.delegation,
        hless.override⟩
  | roleKept hfound _ _ =>
      exact ⟨hfresh.distinct, hfresh.role.put_old (Store.isSome_of_findRole hfound),
        hfresh.delegation, hfresh.override⟩
  | roleErased _ =>
      exact ⟨hfresh.distinct, hfresh.role.erase _, hfresh.delegation, hfresh.override⟩
  | member => exact ⟨hfresh.distinct, hfresh.role, hfresh.delegation, hfresh.override⟩
  | newDelegation _ hid _ _ =>
      exact ⟨fun kind => hfresh.distinct_useId hn .delegation, hless.role,
        hfresh.delegation.put_new hn (hfresh.distinct .delegation (by decide)) hid, hless.override⟩
  | delegationKept hfound _ _ _ =>
      refine ⟨hfresh.distinct, hfresh.role, hfresh.delegation.put_old ?_, hfresh.override⟩
      rw [(Option.filter_eq_some_iff.mp hfound).1]
      rfl
  | newOverride _ hid _ =>
      exact ⟨fun kind => hfresh.distinct_useId hn .override, hless.role, hless.delegation,
        hfresh.override.put_new hn (hfresh.distinct .override (by decide)) hid⟩
  | overrideKept hfound _ _ =>
      refine ⟨hfresh.distinct, hfresh.role, hfresh.delegation, hfresh.override.put_old ?_⟩
      rw [(Option.filter_eq_some_iff.mp hfound).1]
      rfl

theorem Call.Changes.freshAhead (hcall : c.Changes organization b.situation)
    (hn : c.created ≤ n) (hfresh : b.FreshAhead n) :
    (b.answer c).2.FreshAhead (n - c.created) := by
  rcases hcall.answer_cases with ⟨fault, hrun⟩ | ⟨r, d, hrun, hchange⟩
  · rw [hrun]
    exact hfresh.mono (Nat.sub_le _ _)
  · rw [hrun]
    exact hchange.freshAhead hfresh hn

end AccessControl
