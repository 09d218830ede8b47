import AccessControl.Administration.Roles
import AccessControl.Proofs.Changes
import AccessControl.Proofs.Inspection

/-!
# What the operations on roles check and change

For each operation a structure of all that has been checked once it has succeeded, together with
the store that it leaves; `ends_` lemmas say that an operation comes to that or fails and leaves
the store alone.  The checks are stated about the state in which the operation was started.
-/

namespace AccessControl.Administration

open Service Backend

variable {s : Setting} {b : Backend} {actor : Actor}

/-- The actor may do this to roles as a whole. -/
def MayOnRoles (b : Backend) (s : Setting) (actor : Actor) (action : Action) : Prop :=
  (b.rules s actor.organization actor.user).permits action (.ofType .role) = true

/-- A role that can be changed, of a priority that the actor may deal with. -/
structure Editable (b : Backend) (s : Setting) (actor : Actor) (id : RoleId) (role : Role) :
    Prop where
  permitted : MayOnRoles b s actor .update
  found : b.store.findRole actor.organization id = some role
  custom : role.isSystem = false
  editable : role.isEditable = true
  within : b.store.Within actor.organization actor.user role.priority

/-- The parts that creating and duplicating a role have in common. -/
structure RoleStored (b : Backend) (s : Setting) (actor : Actor) (key name : String) (role : Role)
    (store : Store) : Prop where
  permitted : MayOnRoles b s actor .create
  key : RoleKey.parse key = .ok role.key
  name : checkName name = .ok role.name
  within : b.store.Within actor.organization actor.user role.priority
  free : b.store.findRoleByKey actor.organization role.key = none
  minted : role.id = b.nextId .role
  organization : role.organization = actor.organization
  custom : role.isSystem = false
  editable : role.isEditable = true
  store : store = b.store.putRole role

structure RoleCreated (b : Backend) (s : Setting) (actor : Actor) (draft : RoleDraft)
    (role : Role) (store : Store) : Prop
    extends RoleStored b s actor draft.key draft.name role store where
  priority : RolePriority.parse draft.priority = .ok role.priority
  grants : GrantDraft.toGrants [] draft.grants = .ok role.grants

structure RoleDuplicated (b : Backend) (s : Setting) (actor : Actor) (id : RoleId)
    (copy : RoleCopy) (role : Role) (store : Store) : Prop
    extends RoleStored b s actor copy.key copy.name role store where
  source : ∃ source, b.store.findRole actor.organization id = some source ∧
    role.priority = source.priority ∧ role.grants = source.grants

/-- The new priority of a role, which stays where no other is asked for. -/
def Repriced (b : Backend) (actor : Actor) (stored : Role) (change : Option Int)
    (priority : RolePriority) : Prop :=
  match change with
  | none => priority = stored.priority
  | some value => RolePriority.parse value = .ok priority ∧
      b.store.Within actor.organization actor.user priority

structure RoleUpdated (b : Backend) (s : Setting) (actor : Actor) (id : RoleId)
    (change : RoleChange) (role : Role) (store : Store) : Prop where
  stored : ∃ stored, Editable b s actor id stored ∧
    changedName stored change.name = .ok role.name ∧
    Repriced b actor stored change.priority role.priority ∧
    role = { stored with name := role.name, priority := role.priority }
  store : store = b.store.putRole role

structure RoleDeleted (b : Backend) (s : Setting) (actor : Actor) (id : RoleId) (store : Store) :
    Prop where
  permitted : MayOnRoles b s actor .destroy
  role : ∃ role, b.store.findRole actor.organization id = some role ∧ role.isSystem = false ∧
    b.store.Within actor.organization actor.user role.priority
  unassigned : b.store.countMembers actor.organization id = 0
  undelegated : b.store.countDelegations actor.organization id = 0
  store : store = { b.store with roles := b.store.roles.erase id }

structure RoleAssigned (b : Backend) (s : Setting) (actor : Actor) (user : UserId) (id : RoleId)
    (m : Member) (store : Store) : Prop where
  member : ∃ stored, b.store.findMember actor.organization user = some stored ∧
    m = { stored with role := .dynamic id } ∧
    (b.rules s actor.organization actor.user).permits .changeRole
      (.resource (b.store.memberResource stored actor.organization user)) = true
  role : ∃ role, b.store.findRole actor.organization id = some role ∧
    b.store.Within actor.organization actor.user role.priority
  store : store = b.store.putMember m

structure PermissionAdded (b : Backend) (s : Setting) (actor : Actor) (id : RoleId)
    (draft : GrantDraft) (role : Role) (store : Store) : Prop where
  stored : ∃ stored grant, Editable b s actor id stored ∧ draft.toGrant = .ok grant ∧
    stored.grantFor? draft.permission = none ∧
    (stored.grants.any fun g => g.permission = grant.permission) = false ∧
    role = { stored with grants := stored.grants ++ [grant] }
  store : store = b.store.putRole role

structure PermissionRemoved (b : Backend) (s : Setting) (actor : Actor) (id : RoleId)
    (permission : Permission) (role : Role) (store : Store) : Prop where
  stored : ∃ stored, Editable b s actor id stored ∧
    (stored.grantFor? permission).isSome = true ∧
    role = { stored with
      grants := stored.grants.filter fun g => g.permission.resolve? ≠ some permission }
  store : store = b.store.putRole role

/-! ## Looking around -/

theorem learns_requireOnRoles (action : Action) :
    Learns s b (requireOnRoles s actor action) fun _ => MayOnRoles b s actor action :=
  Authorization.learns_require actor action _

/-- The role can be asked for also later on. -/
theorem learns_editableRole (id : RoleId) :
    Learns s b (editableRole s actor id) fun role => Editable b s actor id role ∧
      b.outage? (.findRole actor.organization id) = none := by
  refine (learns_requireOnRoles .update).bind fun _ hpermitted => ?_
  refine (learns_findRole actor id).bind fun role hfound => ?_
  refine (Learns.ofOutcome _).bind fun _ hchecked => ?_
  refine (learns_requirePriority actor role.priority).bind fun _ hwithin => ?_
  rw [checkEditable] at hchecked
  split at hchecked
  · cases hchecked
  · rename_i hflags
    simp only [Bool.or_eq_true, Bool.not_eq_true', not_or, Bool.not_eq_true,
      Bool.not_eq_false] at hflags
    exact Learns.pure ⟨⟨hpermitted, hfound.1, hflags.1, hflags.2, hwithin⟩, hfound.2⟩

theorem learns_requireFreeKey (key : RoleKey) :
    Learns s b (requireFreeKey actor key) fun _ =>
      b.store.findRoleByKey actor.organization key = none := by
  refine Learns.bind (learns_ask_store (.findRoleByKey actor.organization key)
    (·.findRoleByKey actor.organization key) fun _ => rfl) fun role hrole => ?_
  cases role with
  | none => exact Learns.pure hrole.1.symm
  | some role => exact Learns.fail

theorem learns_changedPriority (stored : Role) (change : Option Int) :
    Learns s b (changedPriority actor stored change) fun priority =>
      Repriced b actor stored change priority := by
  cases change with
  | none => exact Learns.pure rfl
  | some value =>
      refine (Learns.ofOutcome _).bind fun priority hpriority => ?_
      refine (learns_requirePriority actor priority).bind fun _ hwithin => ?_
      exact Learns.pure ⟨hpriority, hwithin⟩

theorem eq_zero_of_refusal {n : Nat} {fault : Fault} {u : Unit}
    (h : (if 0 < n then .error fault else .ok () : Outcome Unit) = .ok u) : n = 0 := by
  split at h
  · cases h
  · rename_i hnone
    exact Nat.eq_zero_of_not_pos hnone

theorem learns_requireUnused (role : Role) (id : RoleId) :
    Learns s b (requireUnused actor role id) fun _ =>
      b.store.countMembers actor.organization id = 0 ∧
        b.store.countDelegations actor.organization id = 0 := by
  refine Learns.bind (learns_ask_store (.countMembers actor.organization id)
    (·.countMembers actor.organization id) fun _ => rfl) fun members hmembers => ?_
  refine (Learns.ofOutcome _).bind fun _ hunassigned => ?_
  refine Learns.bind (learns_ask_store (.countDelegations actor.organization id)
    (·.countDelegations actor.organization id) fun _ => rfl) fun delegations hdelegations => ?_
  refine (Learns.ofOutcome _).mono fun _ hundelegated => ?_
  exact ⟨hmembers.1.symm.trans (eq_zero_of_refusal hunassigned),
    hdelegations.1.symm.trans (eq_zero_of_refusal hundelegated)⟩

/-! ## The operations -/

theorem finishes_findRole {id : RoleId} (role : Role)
    (hcall : b.outage? (.findRole actor.organization id) = none)
    (hfound : b.store.findRole actor.organization id = some role) :
    Finishes b (findRole actor id) fun r c => r = role ∧ c = b := by
  have hrun : b.run (ask (.findRole actor.organization id)) = (.ok (some role), b) := by
    change b.answer (.findRole actor.organization id) = _
    rw [answer, hcall, ← hfound]
    rfl
  exact ⟨role, b, (run_bind_ok hrun).trans rfl, rfl, rfl⟩

/-- The organization's rule sets are forgotten and the operation is entered into the log before it
is over. -/
theorem finishes_notice {α : Type} {Q : α → Backend → Prop} {rest : Unit → Service α}
    {action : AuditAction} {id : RoleId} {detail : String}
    (hrest : ∀ c, Keeps b c → Finishes c (rest ()) Q) :
    Finishes b (Authorization.forgetOrganization s actor.organization >>= fun _ =>
      reportRole s actor action id detail >>= rest) Q := by
  refine (Authorization.finishes_forgetOrganization b).bind fun _ c hc => ?_
  exact (finishes_report c s _).bind fun _ d hd => hrest d (hc.trans hd)

theorem ends_storeRole (key : RoleKey) (name : String) (priority : RolePriority)
    (grants : List RoleGrant) :
    Ends s b (storeRole actor key name priority grants) fun role c =>
      role = { id := b.nextId .role, organization := actor.organization, key, name, priority,
               isSystem := false, isEditable := true, grants } ∧
        c.store = b.store.putRole role := by
  refine (learns_newId (by decide)).bind fun id hid => ?_
  subst hid
  refine Ends.bind (ends_change (.createRole _) (·.createRole _) (·.useId .role) (fun _ => rfl)
    fun _ => rfl) fun _ c hc => ?_
  exact Finishes.pure ⟨rfl, (Store.createRole_eq_ok.mp hc.1).2⟩

theorem ends_createRole (draft : RoleDraft) :
    Ends s b (createRole s actor draft) fun role c =>
      RoleCreated b s actor draft role c.store := by
  refine (learns_requireOnRoles .create).bind fun _ hpermitted => ?_
  refine (Learns.ofOutcome _).bind fun key hkey => ?_
  refine (Learns.ofOutcome _).bind fun name hname => ?_
  refine (Learns.ofOutcome _).bind fun priority hpriority => ?_
  refine (learns_requirePriority actor priority).bind fun _ hwithin => ?_
  refine (Learns.ofOutcome _).bind fun grants hgrants => ?_
  refine (learns_requireFreeKey key).bind fun _ hfree => ?_
  refine (ends_storeRole key name priority grants).bind fun role c hstored => ?_
  refine (finishes_report c s _).bind fun _ d hd => Finishes.pure ?_
  obtain ⟨rfl, hstore⟩ := hstored
  exact ⟨⟨hpermitted, hkey, hname, hwithin, hfree, rfl, rfl, rfl, rfl, hd.store.trans hstore⟩,
    hpriority, hgrants⟩

theorem ends_duplicateRole (id : RoleId) (copy : RoleCopy) :
    Ends s b (duplicateRole s actor id copy) fun role c =>
      RoleDuplicated b s actor id copy role c.store := by
  refine (learns_requireOnRoles .create).bind fun _ hpermitted => ?_
  refine (learns_findRole actor id).bind fun source hsource => ?_
  refine (learns_requirePriority actor source.priority).bind fun _ hwithin => ?_
  refine (Learns.ofOutcome _).bind fun key hkey => ?_
  refine (Learns.ofOutcome _).bind fun name hname => ?_
  refine (learns_requireFreeKey key).bind fun _ hfree => ?_
  refine (ends_storeRole key name source.priority source.grants).bind fun role c hstored => ?_
  refine (finishes_report c s _).bind fun _ d hd => Finishes.pure ?_
  obtain ⟨rfl, hstore⟩ := hstored
  exact ⟨⟨hpermitted, hkey, hname, hwithin, hfree, rfl, rfl, rfl, rfl, hd.store.trans hstore⟩,
    source, hsource.1, rfl, rfl⟩

theorem ends_updateRole (id : RoleId) (change : RoleChange) :
    Ends s b (updateRole s actor id change) fun role c =>
      RoleUpdated b s actor id change role c.store := by
  refine (learns_editableRole id).bind fun stored hstored => ?_
  refine (Learns.ofOutcome _).bind fun name hname => ?_
  refine (learns_changedPriority stored change.priority).bind fun priority hpriority => ?_
  refine Ends.bind (ends_change (.updateRole _) (·.updateRole _) (fun c => c) (fun _ => rfl)
    fun _ => rfl) fun _ c hc => ?_
  refine finishes_notice fun d hd => Finishes.pure ?_
  obtain ⟨found, hfound, hstore⟩ := Store.updateRole_eq_ok.mp hc.1
  have hkey := Store.findRole_eq_some.mp hstored.1.found
  have hsame : found = stored := by
    have hagain : b.store.findRole stored.organization stored.id = some stored :=
      Store.findRole_eq_some.mpr ⟨hkey.1, rfl, rfl⟩
    exact Option.some.inj (hfound.symm.trans hagain)
  exact ⟨⟨stored, hstored.1, hname, hpriority, rfl⟩, hd.store.trans (hsame ▸ hstore)⟩

theorem ends_deleteRole (id : RoleId) :
    Ends s b (deleteRole s actor id) fun _ c => RoleDeleted b s actor id c.store := by
  refine (learns_requireOnRoles .destroy).bind fun _ hpermitted => ?_
  refine (learns_findRole actor id).bind fun role hrole => ?_
  refine (Learns.ofOutcome _).bind fun _ hdeletable => ?_
  refine (learns_requirePriority actor role.priority).bind fun _ hwithin => ?_
  refine (learns_requireUnused role id).bind fun _ hunused => ?_
  refine Ends.bind (ends_change (.deleteRole actor.organization id)
    (·.deleteRole actor.organization id) (fun c => c) (fun _ => rfl) fun _ => rfl)
    fun _ c hc => ?_
  refine (Authorization.finishes_forgetOrganization c).bind fun _ d hd => ?_
  refine (finishes_report d s _).mono fun _ e he => ?_
  have hcustom : role.isSystem = false := by
    rw [checkDeletable] at hdeletable
    split at hdeletable
    · cases hdeletable
    · rename_i hsystem
      exact Bool.not_eq_true _ ▸ hsystem
  exact ⟨hpermitted, ⟨role, hrole.1, hcustom, hwithin⟩, hunused.1, hunused.2,
    he.store.trans (hd.store.trans (Store.deleteRole_eq_ok.mp hc.1).2.2.2)⟩

theorem ends_setMemberRole (user : UserId) (role : MemberRole) :
    Ends s b (ask (.setMemberRole actor.organization user role)) fun m c =>
      b.store.setMemberRole actor.organization user role = .ok (m, c.store) := by
  intro c hc
  have hrun : c.run (ask (.setMemberRole actor.organization user role)) =
      c.answer (.setMemberRole actor.organization user role) := rfl
  rw [hrun, answer, ← hc.store]
  cases c.outage? (.setMemberRole actor.organization user role) with
  | some fault => exact hc
  | none =>
      simp only [serve, Backend.setMemberRole]
      cases c.store.setMemberRole actor.organization user role with
      | error fault => exact hc
      | ok changed => rfl

theorem ends_assignRole (user : UserId) (id : RoleId) :
    Ends s b (assignRole s actor user id) fun m c =>
      RoleAssigned b s actor user id m c.store := by
  refine Learns.bind (learns_ask_store (.findMember actor.organization user)
    (·.findMember actor.organization user) fun _ => rfl) fun _ hmember => ?_
  refine (Learns.found _ _).bind fun stored hstored => ?_
  refine (learns_memberResource actor stored user).bind fun resource hresource => ?_
  refine (Authorization.learns_require actor .changeRole _).bind fun _ hpermitted => ?_
  refine (learns_findRole actor id).bind fun role hrole => ?_
  refine (learns_requirePriority actor role.priority).bind fun _ hwithin => ?_
  refine (ends_setMemberRole user (.dynamic id)).bind fun m c hc => ?_
  refine (Authorization.finishes_forgetUser c).bind fun _ d hd => ?_
  refine (finishes_report d s _).bind fun _ e he => Finishes.pure ?_
  obtain ⟨found, hfound, hm, hstore⟩ := Store.setMemberRole_eq_ok.mp hc
  subst hresource
  have hsame : found = stored :=
    Option.some.inj (hfound.symm.trans (hmember.1.symm.trans hstored))
  exact ⟨⟨found, hfound, hm, hsame ▸ hpermitted⟩, ⟨role, hrole.1, hwithin⟩,
    he.store.trans (hd.store.trans hstore)⟩

/-- Behind a change of a role's grants the role is read again, which succeeds. -/
theorem finishes_reread {id : RoleId} {stored changed : Role} {c d : Backend}
    (hstored : b.store.findRole actor.organization id = some stored)
    (hcall : b.outage? (.findRole actor.organization id) = none)
    (hbroken : c.broken = b.broken) (hstore : c.store = b.store.putRole changed)
    (hid : changed.id = stored.id) (horganization : changed.organization = stored.organization)
    (hd : Keeps c d) :
    Finishes d (findRole actor id) fun role e => role = changed ∧ e.store = c.store := by
  refine (finishes_findRole changed ?_ ?_).mono fun role e he => ?_
  · rw [hd.outage?, outage?, hbroken, ← outage?, hcall]
  · obtain ⟨-, rfl, hsame⟩ := Store.findRole_eq_some.mp hstored
    rw [hd.store, hstore, ← hid, ← hsame, ← horganization]
    exact Store.findRole_putRole_self _ changed
  · exact ⟨he.1, he.2 ▸ hd.store⟩

theorem ends_addPermission (id : RoleId) (draft : GrantDraft) :
    Ends s b (addPermission s actor id draft) fun role c =>
      PermissionAdded b s actor id draft role c.store := by
  refine (learns_editableRole id).bind fun stored hstored => ?_
  refine (Learns.ofOutcome _).bind fun grant hgrant => ?_
  refine (Learns.ofOutcome _).bind fun _ hfree => ?_
  refine Ends.bind (ends_change (.addGrant actor.organization id grant)
    (·.addGrant actor.organization id grant) (fun c => c) (fun _ => rfl) fun _ => rfl)
    fun _ c hc => finishes_notice fun d hd => ?_
  obtain ⟨found, hfound, hnew, hstore⟩ := Store.addGrant_eq_ok.mp hc.1
  obtain rfl : found = stored := Option.some.inj (hfound.symm.trans hstored.1.found)
  have hungranted : found.grantFor? draft.permission = none := by
    cases hheld : found.grantFor? draft.permission with
    | none => rfl
    | some g => simp [hheld] at hfree
  refine (finishes_reread hfound hstored.2 hc.2 hstore rfl rfl hd).mono fun role e he => ?_
  obtain ⟨rfl, hafter⟩ := he
  exact ⟨⟨found, grant, hstored.1, hgrant, hungranted, hnew, rfl⟩, hafter.trans hstore⟩

theorem ends_removePermission (id : RoleId) (permission : Permission) :
    Ends s b (removePermission s actor id permission) fun role c =>
      PermissionRemoved b s actor id permission role c.store := by
  refine (learns_editableRole id).bind fun stored hstored => ?_
  refine (Learns.ofOutcome _).bind fun _ hheld => ?_
  refine Ends.bind (ends_change (.removeGrant actor.organization id permission)
    (·.removeGrant actor.organization id permission) (fun c => c) (fun _ => rfl) fun _ => rfl)
    fun _ c hc => finishes_notice fun d hd => ?_
  obtain ⟨found, hfound, hstore⟩ := Store.exists_of_removeGrant hc.1
  obtain rfl : found = stored := Option.some.inj (hfound.symm.trans hstored.1.found)
  have hgranted : (found.grantFor? permission).isSome = true := by
    cases hgrant : found.grantFor? permission with
    | none => simp [hgrant] at hheld
    | some g => rfl
  refine (finishes_reread hfound hstored.2 hc.2 hstore rfl rfl hd).mono fun role e he => ?_
  obtain ⟨rfl, hafter⟩ := he
  exact ⟨⟨found, hstored.1, hgranted, rfl⟩, hafter.trans hstore⟩

/-! ## Lists -/

theorem ends_listRoles :
    Ends s b (listRoles s actor) fun roles c =>
      MayOnRoles b s actor .read ∧ roles = b.store.listRoles actor.organization ∧
        c.store = b.store := by
  refine (learns_requireOnRoles .read).bind fun _ hpermitted => ?_
  exact Ends.mono (learns_ask_store (.listRoles actor.organization)
    (·.listRoles actor.organization) fun _ => rfl) fun _ _ hc =>
      ⟨hpermitted, hc.2.1, hc.1.store⟩

end AccessControl.Administration
