import AccessControl.Proofs.DelegationBound
import AccessControl.Proofs.Histories

/-!
# System roles

Nobody can change or delete a system role: each operation that would do so asks first whether the
role is one.  So an operation leaves every system role as it was, and a role that was not stored
before it is none (`RosterChange.mem_of_isSystem`, `RosterChange.isSystem_of_mem`).

Only the making of an organization's first roles puts system roles in, and it changes none that is
stored.  So system roles stay as they are through every history in which new records get fresh
identifiers (`History.system_roles_immutable`).
-/

namespace AccessControl

open Administration

namespace Store

variable {s : Store} {role custom changed : Role}

/-- A system role and a role that is none have different identifiers. -/
theorem id_ne_of_isSystem (hrole : role ∈ s.roles.rows) (hsystem : role.isSystem = true)
    (hstored : custom ∈ s.roles.rows) (hcustom : custom.isSystem = false) :
    role.id ≠ custom.id := by
  intro hid
  obtain rfl : role = custom := Table.eq_of_key_eq hrole hstored hid
  cases hsystem.symm.trans hcustom

/-- Whatever takes the place of a role that is none leaves the system roles where they are. -/
theorem mem_putRole_of_isSystem (hrole : role ∈ s.roles.rows) (hsystem : role.isSystem = true)
    (hstored : custom ∈ s.roles.rows) (hcustom : custom.isSystem = false)
    (hid : changed.id = custom.id) : role ∈ (s.putRole changed).roles.rows := by
  apply Table.mem_put.mpr
  refine .inr ⟨hrole, ?_⟩
  rw [hid]
  exact id_ne_of_isSystem hrole hsystem hstored hcustom

end Store

/-! ## One operation -/

namespace RosterChange

variable {b : Backend} {s : Setting} {actor : Actor} {op : Operation} {store : Store} {role : Role}

/-- Every system role is kept as it is. -/
theorem mem_of_isSystem (h : RosterChange b s actor op store) (hfresh : b.FreshAhead 1)
    (hrole : role ∈ b.store.roles.rows) (hsystem : role.isSystem = true) :
    role ∈ store.roles.rows := by
  cases h with
  | nothing _ hroles => exact hroles ▸ hrole
  | roleStored h =>
      rw [h.store]
      refine Table.mem_put.mpr (.inr ⟨hrole, ?_⟩)
      exact h.minted ▸ hfresh.id_ne_nextId (Nat.le_refl 1) hrole
  | roleUpdated h =>
      obtain ⟨stored, heditable, -, -, hchanged⟩ := h.stored
      obtain ⟨hstored, -, -⟩ := Store.findRole_eq_some.mp heditable.found
      rw [h.store, hchanged]
      exact Store.mem_putRole_of_isSystem hrole hsystem hstored heditable.custom rfl
  | grantsChanged heditable hstore =>
      obtain ⟨hstored, -, -⟩ := Store.findRole_eq_some.mp heditable.found
      rw [hstore]
      exact Store.mem_putRole_of_isSystem hrole hsystem hstored heditable.custom rfl
  | roleDeleted h =>
      obtain ⟨deleted, hfound, hcustom, -⟩ := h.role
      obtain ⟨hstored, rfl, -⟩ := Store.findRole_eq_some.mp hfound
      rw [h.store]
      refine Table.mem_erase.mpr ⟨hrole, ?_⟩
      exact Store.id_ne_of_isSystem hrole hsystem hstored hcustom
  | roleAssigned h =>
      rw [h.store]
      exact hrole

/-- A role has the flag that it had before, or it is new and not a system role. -/
theorem isSystem_of_mem (h : RosterChange b s actor op store) (hfresh : b.FreshAhead 1)
    (hrole : role ∈ store.roles.rows) :
    (∃ stored ∈ b.store.roles.rows, stored.id = role.id ∧ stored.isSystem = role.isSystem) ∨
      b.store.roles.find? role.id = none ∧ role.isSystem = false := by
  have hkept : role ∈ b.store.roles.rows →
      (∃ stored ∈ b.store.roles.rows, stored.id = role.id ∧ stored.isSystem = role.isSystem) :=
    fun hmem => ⟨role, hmem, rfl, rfl⟩
  cases h with
  | nothing _ hroles => exact .inl (hkept (hroles ▸ hrole))
  | roleStored h =>
      rw [h.store] at hrole
      rcases Table.mem_put.mp hrole with rfl | ⟨hold, -⟩
      · exact .inr ⟨h.minted ▸ hfresh.role.next (Nat.le_refl 1), h.custom⟩
      · exact .inl (hkept hold)
  | roleUpdated h =>
      obtain ⟨stored, heditable, -, -, hchanged⟩ := h.stored
      obtain ⟨hstored, -, -⟩ := Store.findRole_eq_some.mp heditable.found
      rw [h.store, hchanged] at hrole
      rcases Table.mem_put.mp hrole with rfl | ⟨hold, -⟩
      · exact .inl ⟨stored, hstored, rfl, rfl⟩
      · exact .inl (hkept hold)
  | grantsChanged heditable hstore =>
      obtain ⟨hstored, -, -⟩ := Store.findRole_eq_some.mp heditable.found
      rw [hstore] at hrole
      rcases Table.mem_put.mp hrole with rfl | ⟨hold, -⟩
      · exact .inl ⟨_, hstored, rfl, rfl⟩
      · exact .inl (hkept hold)
  | roleDeleted h =>
      rw [h.store] at hrole
      exact .inl (hkept (Table.mem_erase.mp hrole).1)
  | roleAssigned h =>
      rw [h.store] at hrole
      exact .inl (hkept hrole)

end RosterChange

/-! ## Histories -/

/-- The next records get identifiers that nothing stored has, as many as the job may create. -/
def Fresh (b : Backend) (job : Job) : Prop := b.FreshAhead job.task.creations

namespace Job.Change

variable {b : Backend} {job : Job} {store : Store} {role : Role}

theorem mem_of_isSystem (h : job.Change b store) (hfresh : Fresh b job)
    (hrole : role ∈ b.store.roles.rows) (hsystem : role.isSystem = true) :
    role ∈ store.roles.rows := by
  cases h with
  | nothing => exact hrole
  | act act => exact (act.rosterChange b).mem_of_isSystem hfresh hrole hsystem
  | founded h => exact h.mem_of_freshAhead hfresh hrole

/-- No job gives the flag to a stored role or takes it away. -/
theorem isSystem_eq (h : job.Change b store) (hfresh : Fresh b job)
    (hrole : role ∈ b.store.roles.rows) {after : Role} (hafter : after ∈ store.roles.rows)
    (hid : after.id = role.id) : after.isSystem = role.isSystem := by
  cases h with
  | nothing => rw [Table.eq_of_key_eq hafter hrole hid]
  | act act =>
      rcases (act.rosterChange b).isSystem_of_mem hfresh hafter with
        ⟨stored, hstored, hsame, hflag⟩ | ⟨hnone, -⟩
      · rw [← hflag, Table.eq_of_key_eq hstored hrole (hsame.trans hid)]
      · have hfound := Table.find?_key hrole
        rw [← hid, hnone] at hfound
        cases hfound
  | founded h =>
      rw [Table.eq_of_key_eq hafter (h.mem_of_freshAhead hfresh hrole) hid]

end Job.Change

/-- Where new records get fresh identifiers, every system role stays as it is, no job gives the flag
to a stored role or takes it away, and no role that an act puts in has it. -/
theorem History.system_roles_immutable {b c : Backend} (h : History Fresh b c) :
    (∀ role ∈ b.store.roles.rows, role.isSystem = true → role ∈ c.store.roles.rows) ∧
      (∀ job : Job, Fresh c job → ∀ role ∈ c.store.roles.rows,
        ∀ after ∈ (job.after c).store.roles.rows, after.id = role.id →
          after.isSystem = role.isSystem) ∧
      ∀ act : Act, Fresh c act.job → ∀ role ∈ (act.after c).store.roles.rows,
        c.store.roles.find? role.id = none → role.isSystem = false := by
  refine ⟨?_, ?_, ?_⟩
  · intro role hrole hsystem
    refine h.preserves (I := fun store => role ∈ store.roles.rows) hrole ?_
    intro d job store hmem hfresh hchange
    exact hchange.mem_of_isSystem hfresh hmem hsystem
  · intro job hfresh role hrole after hafter hid
    exact (job.change c).isSystem_eq hfresh hrole hafter hid
  · intro act hfresh role hrole hnew
    rcases (act.rosterChange c).isSystem_of_mem hfresh hrole with
      ⟨stored, hstored, hsame, -⟩ | ⟨-, hcustom⟩
    · cases hnew.symm.trans (hsame ▸ Table.find?_key hstored)
    · exact hcustom

/-! ## The administrators' role -/

namespace Sample

/-- The administrators' role of the templates. -/
def adminRole : Role := LegacyRole.admin.toRole (roleId .admin) organization

/-- The owner deletes it. -/
def abolition : Act where
  setting := { now := ⟨0⟩ }
  actor := actor owner
  operation := .deleteRole adminRole.id

/-- The owner makes a copy of it. -/
def copying : Act where
  setting := { now := ⟨1⟩ }
  actor := actor owner
  operation := .duplicateRole adminRole.id { key := "substitute", name := "Substitute" }

/-- The copy. -/
def adminCopy : Role :=
  { adminRole with
    id := opening.nextId .role
    key := ⟨"substitute", by decide⟩
    name := "Substitute"
    isSystem := false
    isEditable := true }

theorem fresh_abolition : Fresh opening abolition.job :=
  .one (by decide +kernel) (by decide +kernel) (by decide +kernel)

theorem fresh_copying : Fresh (abolition.after opening) copying.job :=
  .one (by decide +kernel) (by decide +kernel) (by decide +kernel)

end Sample

open Sample

/-- The administrators' role is there still when the owner has deleted it, and its copy is no system
role. -/
theorem admin_role_survives_deletion :
    History Fresh opening (abolition.after opening) ∧
      adminRole ∈ (abolition.after opening).store.roles.rows ∧
      Fresh (abolition.after opening) copying.job ∧
      adminCopy ∈ (copying.after (abolition.after opening)).store.roles.rows ∧
      adminCopy.isSystem = false := by
  have hhistory : History Fresh opening (abolition.after opening) :=
    .job abolition.job (.refl opening) fresh_abolition
  obtain ⟨hkept, -, hcustom⟩ := hhistory.system_roles_immutable
  have hadmin : adminRole ∈ opening.store.roles.rows := by decide +kernel
  have hcopy : adminCopy ∈ (copying.after (abolition.after opening)).store.roles.rows := by
    decide +kernel
  refine ⟨hhistory, hkept adminRole hadmin rfl, fresh_copying, hcopy, ?_⟩
  exact hcustom copying fresh_copying adminCopy hcopy (by decide +kernel)

end AccessControl
