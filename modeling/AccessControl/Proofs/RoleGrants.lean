import AccessControl.Proofs.Histories
import AccessControl.Proofs.Tenants

/-!
# The grants of roles

A role holds no permission twice, each of its grants is of a permission of the catalog, and no two
roles of an organization have the same key.  Grants come in by four ways, and each looks for a
repeated permission in its own manner: a new role is made from a list in which no permission may be
repeated, a copy takes the grants of a role that is stored, the templates have theirs, and a single
grant is refused where the role has one that resolves to its permission.  All of them preserve what
is said here (`Store.RolesSound`), under whichever of its names a permission is kept.
-/

namespace AccessControl

/-! ## Sound lists of grants -/

/-- The grant is of a permission of the catalog and has valid conditions and a valid scope. -/
structure RoleGrant.Valid (g : RoleGrant) : Prop where
  permission : ∃ p, g.permission.resolve? = some p ∧ p.isCataloged = true
  conditions : g.conditions.validate = .ok ()
  scope : g.scope.validate = .ok ()

/-- The grants are valid and of different permissions. -/
structure GrantsSound (grants : List RoleGrant) : Prop where
  valid : ∀ g ∈ grants, g.Valid
  distinct : grants.Pairwise fun g g' => g.permission.resolve? ≠ g'.permission.resolve?

namespace RoleGrant

theorem valid_iff {g : RoleGrant} :
    g.Valid ↔ g.permission.resolve?.any (·.isCataloged) = true ∧ g.conditions.validate = .ok () ∧
      g.scope.validate = .ok () := by
  rw [Option.any_eq_true]
  constructor
  · intro h
    exact ⟨h.permission, h.conditions, h.scope⟩
  · rintro ⟨hpermission, hconditions, hscope⟩
    exact ⟨hpermission, hconditions, hscope⟩

instance (g : RoleGrant) : Decidable g.Valid := decidable_of_iff _ valid_iff.symm

/-- What is made as a grant is valid, and of the permission that it was made for. -/
theorem valid_of_create {permission : Permission} {conditions : GrantConditions}
    {scope : GrantScope} {g : RoleGrant} (h : create permission conditions scope = .ok g) :
    g.Valid ∧ g.permission.resolve? = some permission := by
  rw [create] at h
  cases hcataloged : permission.isCataloged with
  | false =>
      rw [hcataloged] at h
      cases h
  | true =>
      rw [hcataloged] at h
      rcases hconditions : conditions.validate with fault | ⟨⟩ <;> rw [hconditions] at h
      · cases h
      rcases hscope : scope.validate with fault | ⟨⟩ <;> rw [hscope] at h
      · cases h
      obtain rfl := Except.ok.inj h
      have hresolved := Permission.resolve?_stored permission
      exact ⟨⟨⟨permission, hresolved, hcataloged⟩, hconditions, hscope⟩, hresolved⟩

end RoleGrant

namespace GrantsSound

variable {grants : List RoleGrant} {g : RoleGrant}

instance (grants : List RoleGrant) : Decidable (GrantsSound grants) :=
  decidable_of_iff
    ((∀ g ∈ grants, g.Valid) ∧
      grants.Pairwise fun g g' => g.permission.resolve? ≠ g'.permission.resolve?)
    ⟨fun h => ⟨h.1, h.2⟩, fun h => ⟨h.valid, h.distinct⟩⟩

theorem nil : GrantsSound [] := ⟨nofun, .nil⟩

theorem cons (hg : g.Valid) (hnew : ∀ g' ∈ grants, g.permission.resolve? ≠ g'.permission.resolve?)
    (h : GrantsSound grants) : GrantsSound (g :: grants) where
  valid := List.forall_mem_cons.mpr ⟨hg, h.valid⟩
  distinct := List.pairwise_cons.mpr ⟨hnew, h.distinct⟩

theorem append_singleton (h : GrantsSound grants) (hg : g.Valid)
    (hnew : ∀ g' ∈ grants, g'.permission.resolve? ≠ g.permission.resolve?) :
    GrantsSound (grants ++ [g]) where
  valid := List.forall_mem_append.mpr ⟨h.valid, List.forall_mem_singleton.mpr hg⟩
  distinct := by
    rw [List.pairwise_append]
    refine ⟨h.distinct, List.pairwise_singleton _ g, ?_⟩
    intro g' hg' g'' hg''
    rw [List.mem_singleton.mp hg'']
    exact hnew g' hg'

theorem filter (h : GrantsSound grants) (p : RoleGrant → Bool) :
    GrantsSound (grants.filter p) where
  valid g hg := h.valid g (List.mem_of_mem_filter hg)
  distinct := h.distinct.filter p

/-- At most one of the grants is of a permission. -/
theorem filter_resolve (h : GrantsSound grants) (p : Permission) :
    (grants.filter fun g => g.permission.resolve? = some p) =
      (grants.find? fun g => g.permission.resolve? = some p).toList := by
  have hdistinct := h.distinct
  clear h
  induction grants with
  | nil => rfl
  | cons g grants ih =>
      obtain ⟨hg, hrest⟩ := List.pairwise_cons.mp hdistinct
      by_cases hp : g.permission.resolve? = some p
      · have hothers : ∀ g' ∈ grants, ¬g'.permission.resolve? = some p := by
          intro g' hg' hp'
          exact hg g' hg' (hp.trans hp'.symm)
        simpa [hp] using hothers
      · simpa [hp] using ih hrest

end GrantsSound

/-- Drafts that are accepted make sound grants, and none of a permission that was seen before. -/
theorem GrantDraft.grantsSound_of_toGrants {seen : List Permission} {drafts : List GrantDraft}
    {grants : List RoleGrant} (h : toGrants seen drafts = .ok grants) :
    GrantsSound grants ∧ ∀ g ∈ grants, ∀ p ∈ seen, g.permission.resolve? ≠ some p := by
  induction drafts generalizing seen grants with
  | nil =>
      obtain rfl := Except.ok.inj h
      exact ⟨.nil, nofun⟩
  | cons d rest ih =>
      rw [toGrants] at h
      by_cases hseen : d.permission ∈ seen
      · rw [if_pos hseen] at h
        cases h
      rw [if_neg hseen] at h
      rcases hgrant : d.toGrant with fault | grant <;> rw [hgrant] at h
      · cases h
      rcases hothers : toGrants (d.permission :: seen) rest with fault | others <;>
        simp only [hothers] at h
      · cases h
      obtain rfl := Except.ok.inj h
      obtain ⟨hvalid, hresolved⟩ := RoleGrant.valid_of_create hgrant
      obtain ⟨hsound, hnew⟩ := ih hothers
      constructor
      · refine .cons hvalid ?_ hsound
        intro g hg
        rw [hresolved]
        exact (hnew g hg d.permission List.mem_cons_self).symm
      · intro g hg p hp
        rcases List.mem_cons.mp hg with rfl | hg
        · rw [hresolved]
          rintro ⟨⟩
          exact hseen hp
        · exact hnew g hg p (List.mem_cons_of_mem _ hp)

theorem LegacyRole.grantsSound (r : LegacyRole) : GrantsSound r.grants := by
  cases r <;> decide +kernel

/-! ## Sound stores -/

/-- No two roles of an organization have the same key, and the grants of every role are sound. -/
structure Store.RolesSound (s : Store) : Prop where
  keys : ∀ organization, s.KeysDistinct organization
  grants : ∀ role ∈ s.roles.rows, GrantsSound role.grants

namespace Store.RolesSound

variable {s t : Store} {role stored : Role}

theorem of_roles_eq (h : s.RolesSound) (hroles : t.roles = s.roles) : t.RolesSound where
  keys organization := by
    rw [KeysDistinct, rolesOf, hroles]
    exact h.keys organization
  grants := by
    rw [hroles]
    exact h.grants

theorem erase (h : s.RolesSound) (id : RoleId) :
    ({ s with roles := s.roles.erase id } : Store).RolesSound where
  keys organization r hr r' hr' hkey := by
    have hsublist : (s.roles.erase id).rows.Sublist s.roles.rows := List.filter_sublist
    have hkept := (hsublist.filter fun r => r.organization = organization).subset
    exact h.keys organization r (hkept hr) r' (hkept hr') hkey
  grants r hr := h.grants r (Table.mem_erase.mp hr).1

/-- A role with sound grants may be put in where no other role of its organization has its key. -/
theorem putRole (h : s.RolesSound) (hgrants : GrantsSound role.grants)
    (hfree : ∀ r ∈ s.rolesOf role.organization, r.id ≠ role.id → r.key ≠ role.key) :
    (s.putRole role).RolesSound where
  keys organization := by
    by_cases hsame : role.organization = organization
    · subst hsame
      exact (h.keys _).putRole rfl hfree
    · have hkept : ∀ r ∈ (s.putRole role).rolesOf organization, r ∈ s.rolesOf organization := by
        intro r hr
        obtain ⟨hmem, horganization⟩ := List.mem_filter.mp hr
        rcases Table.mem_put.mp hmem with rfl | ⟨hold, -⟩
        · exact absurd (of_decide_eq_true horganization) hsame
        · exact List.mem_filter.mpr ⟨hold, horganization⟩
      intro r hr r' hr' hkey
      exact h.keys organization r (hkept r hr) r' (hkept r' hr') hkey
  grants r hr := by
    rcases Table.mem_put.mp hr with rfl | ⟨hold, -⟩
    · exact hgrants
    · exact h.grants r hold

theorem putRole_new (h : s.RolesSound) (hgrants : GrantsSound role.grants)
    (hfree : s.findRoleByKey role.organization role.key = none) : (s.putRole role).RolesSound := by
  apply h.putRole hgrants
  intro r hr _
  simpa using List.find?_eq_none.mp hfree r hr

/-- A role that is put in the place of a stored one keeps its organization and its key. -/
theorem putRole_stored (h : s.RolesSound) (hstored : stored ∈ s.roles.rows)
    (hgrants : GrantsSound role.grants) (hid : role.id = stored.id)
    (horganization : role.organization = stored.organization) (hkey : role.key = stored.key) :
    (s.putRole role).RolesSound := by
  apply h.putRole hgrants
  intro r hr hne hsame
  have hmem : stored ∈ s.rolesOf role.organization :=
    List.mem_filter.mpr ⟨hstored, decide_eq_true horganization.symm⟩
  rw [h.keys _ r hr stored hmem (hsame.trans hkey)] at hne
  exact hne hid.symm

end Store.RolesSound

/-! ## Operations on roles -/

namespace Administration

variable {b : Backend} {s : Setting} {actor : Actor} {id : RoleId} {role stored : Role}
  {store : Store}

theorem Editable.mem (h : Editable b s actor id stored) : stored ∈ b.store.roles.rows :=
  (Store.findRole_eq_some.mp h.found).1

theorem RoleStored.rolesSound {key name : String} (h : RoleStored b s actor key name role store)
    (hsound : b.store.RolesSound) (hgrants : GrantsSound role.grants) : store.RolesSound := by
  rw [h.store]
  exact hsound.putRole_new hgrants (h.organization ▸ h.free)

theorem RoleDuplicated.rolesSound {copy : RoleCopy}
    (h : RoleDuplicated b s actor id copy role store) (hsound : b.store.RolesSound) :
    store.RolesSound := by
  obtain ⟨source, hfound, -, hgrants⟩ := h.source
  apply h.toRoleStored.rolesSound hsound
  rw [hgrants]
  exact hsound.grants source (Store.findRole_eq_some.mp hfound).1

theorem RoleUpdated.rolesSound {change : RoleChange}
    (h : RoleUpdated b s actor id change role store) (hsound : b.store.RolesSound) :
    store.RolesSound := by
  obtain ⟨stored, heditable, -, -, hrole⟩ := h.stored
  rw [h.store, hrole]
  exact hsound.putRole_stored heditable.mem (hsound.grants stored heditable.mem) rfl rfl rfl

/-- The role has no grant that resolves to the permission of the new one, whatever the names under
which it keeps them. -/
theorem PermissionAdded.rolesSound {draft : GrantDraft}
    (h : PermissionAdded b s actor id draft role store) (hsound : b.store.RolesSound) :
    store.RolesSound := by
  obtain ⟨stored, grant, heditable, hmade, hungranted, -, rfl⟩ := h.stored
  obtain ⟨hvalid, hresolved⟩ := RoleGrant.valid_of_create hmade
  rw [h.store]
  refine hsound.putRole_stored heditable.mem ?_ rfl rfl rfl
  refine (hsound.grants stored heditable.mem).append_singleton hvalid ?_
  intro g hg
  rw [hresolved]
  simpa using List.find?_eq_none.mp hungranted g hg

theorem PermissionRemoved.rolesSound {permission : Permission}
    (h : PermissionRemoved b s actor id permission role store) (hsound : b.store.RolesSound) :
    store.RolesSound := by
  obtain ⟨stored, heditable, -, rfl⟩ := h.stored
  rw [h.store]
  refine hsound.putRole_stored heditable.mem ?_ rfl rfl rfl
  exact (hsound.grants stored heditable.mem).filter _

/-- The role that is returned is the stored one, and it has no grant of the permission. -/
theorem PermissionRemoved.grantFor?_eq_none {permission : Permission}
    (h : PermissionRemoved b s actor id permission role store) :
    role ∈ store.roles.rows ∧ role.grantFor? permission = none := by
  obtain ⟨stored, -, -, rfl⟩ := h.stored
  constructor
  · rw [h.store]
    exact Table.mem_put.mpr (.inl rfl)
  · rw [Role.grantFor?, List.find?_eq_none]
    intro g hg
    simpa using (List.mem_filter.mp hg).2

/-- Whatever an operation does, the roles stay sound. -/
theorem Operation.rolesSound_of_done {op : Operation} {r : op.Result}
    (h : op.Done b s actor r store) (hsound : b.store.RolesSound) : store.RolesSound := by
  cases op with
  | listRoles => exact h.2.2 ▸ hsound
  | createRole draft =>
      exact h.toRoleStored.rolesSound hsound (GrantDraft.grantsSound_of_toGrants h.grants).1
  | duplicateRole id copy => exact RoleDuplicated.rolesSound h hsound
  | updateRole id change => exact RoleUpdated.rolesSound h hsound
  | deleteRole id => exact h.store ▸ hsound.erase id
  | assignRole user id => exact h.store ▸ hsound.of_roles_eq rfl
  | addPermission id draft => exact PermissionAdded.rolesSound h hsound
  | removePermission id permission => exact PermissionRemoved.rolesSound h hsound
  | createDelegation request => exact h.store ▸ hsound.of_roles_eq rfl
  | revokeDelegation id => exact h.store ▸ hsound.of_roles_eq rfl
  | extendDelegation id endsAt => exact h.store ▸ hsound.of_roles_eq rfl
  | listDelegations f => exact h.2.2 ▸ hsound
  | grantOverride request => exact h.store ▸ hsound.of_roles_eq rfl
  | revokeOverride id => exact h.store ▸ hsound.of_roles_eq rfl
  | extendOverride id expiresAt => exact h.store ▸ hsound.of_roles_eq rfl
  | listOverrides f => exact h.2.2 ▸ hsound
  | listEntries q => exact h.2 ▸ hsound
  | auditSummary window => exact h.2 ▸ hsound
  | exportEntries window => exact h.2 ▸ hsound
  | purgeEntries days => exact h.2 ▸ hsound

end Administration

open Administration

theorem Act.rolesSound {b : Backend} (act : Act) (hsound : b.store.RolesSound) :
    (act.after b).store.RolesSound := by
  rcases act.kept_or_done b with hkept | ⟨r, hdone⟩
  · exact hkept ▸ hsound
  · exact Operation.rolesSound_of_done hdone hsound

/-! ## Histories -/

theorem Bootstrap.Founding.rolesSound {organization : OrganizationId} {rs : List LegacyRole}
    {b c : Backend} (h : Founding organization rs b c) (hsound : b.store.RolesSound) :
    c.store.RolesSound := by
  induction h with
  | nil => exact hsound
  | skip _ ih => exact ih hsound
  | @role r rs b c hfree _ ih => exact ih (hsound.putRole_new r.grantsSound hfree)

/-- Where the roles are sound in the beginning they are so through every history.  At most one grant
of a role is of a permission, and once the permission has been removed none is. -/
theorem History.roles_sound {allowed : Backend → Job → Prop} {b c : Backend}
    (h : History allowed b c) (hsound : b.store.RolesSound) :
    c.store.RolesSound ∧
      (∀ role ∈ c.store.roles.rows, ∀ p,
        (role.grants.filter fun g => g.permission.resolve? = some p) =
          (role.grantFor? p).toList) ∧
      ∀ (s : Setting) (actor : Actor) (id : RoleId) (p : Permission) (role : Role),
        (c.run (removePermission s actor id p)).1 = .ok role →
          role ∈ (c.run (removePermission s actor id p)).2.store.roles.rows ∧
            role.grantFor? p = none := by
  have hend : c.store.RolesSound := by
    refine h.preserves hsound ?_
    intro d job store hd _ hchange
    cases hchange with
    | nothing => exact hd
    | act act => exact act.rolesSound hd
    | founded h => exact h.rolesSound hd
  refine ⟨hend, ?_, ?_⟩
  · intro role hrole p
    exact (hend.grants role hrole).filter_resolve p
  · intro s actor id p role hresult
    have hperformed : (c.run ((Operation.removePermission id p).perform s actor)).1 = .ok role :=
      hresult
    exact PermissionRemoved.grantFor?_eq_none (Operation.done_of_perform hperformed)

/-! ## One permission under two names -/

namespace Sample

/-- Clerks may read tasks, by a grant that is kept under the name of their class. -/
def clerkRole : Role where
  id := ⟨⟨5⟩⟩
  organization
  key := ⟨"clerk", by decide⟩
  name := "Clerk"
  priority := .viewer
  isSystem := false
  isEditable := true
  grants := [{ permission := ⟨"Task", "read"⟩ }]

/-- The small organization with that role. -/
def clerical : Backend := { backend with store := store.putRole clerkRole }

theorem rolesSound_clerical : clerical.store.RolesSound where
  keys organization r hr r' hr' hkey := by
    have hdistinct : ∀ r ∈ clerical.store.roles.rows, ∀ r' ∈ clerical.store.roles.rows,
        r.key = r'.key → r = r' := by decide +kernel
    exact hdistinct r (List.mem_of_mem_filter hr) r' (List.mem_of_mem_filter hr') hkey
  grants := by decide +kernel

/-- The owner grants the same under its other name. -/
def doubling : Act where
  setting := { now := ⟨0⟩ }
  actor := actor owner
  operation := .addPermission clerkRole.id { permission := ⟨.task, .read⟩ }

/-- The owner takes it away under that name. -/
def undoubling : Service Role :=
  removePermission { now := ⟨1⟩ } (actor owner) clerkRole.id ⟨.task, .read⟩

end Sample

open Sample

/-- Clerks are not granted the same twice, and it can be taken away from them under either name. -/
theorem clerks_read_tasks_once :
    History (fun _ _ => True) clerical (doubling.after clerical) ∧
      clerical.store.RolesSound ∧ (doubling.after clerical).store.RolesSound ∧
      ∃ role, ((doubling.after clerical).run undoubling).1 = .ok role ∧
        role.grantFor? ⟨.task, .read⟩ = none := by
  have hhistory : History (fun _ _ => True) clerical (doubling.after clerical) :=
    .job doubling.job (.refl clerical) trivial
  obtain ⟨hsound, -, hremoved⟩ := hhistory.roles_sound rolesSound_clerical
  have hresult : ((doubling.after clerical).run undoubling).1 =
      .ok { clerkRole with grants := [] } := by decide +kernel
  obtain ⟨-, hnone⟩ := hremoved _ _ _ _ _ hresult
  exact ⟨hhistory, rolesSound_clerical, hsound, _, hresult, hnone⟩

end AccessControl
