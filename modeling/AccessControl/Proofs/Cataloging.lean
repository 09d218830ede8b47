import AccessControl.Proofs.Ledger
import AccessControl.Proofs.RoleGrants

/-!
# Where permissions outside the catalog come in

A permission is a pair of a type and an action, and the catalog has those in which the type supports
the action.  Permissions are stored in roles, in overrides and in delegations.  The grants of a role
and an override are made for permissions of the catalog only.  A delegation is made for permissions
whose two names are known, and one who may do everything on a type also holds the pairs that are not
in the catalog.

So a store that began with permissions of the catalog keeps to them exactly as long as no operation
has delegated one outside of it (`Run.keeps_to_catalog_iff`).
-/

namespace AccessControl

open Administration

/-! ## Stores that keep to the catalog -/

/-- The names stand for a permission of the catalog. -/
def StoredPermission.isCataloged (names : StoredPermission) : Bool :=
  names.resolve?.any (·.isCataloged)

theorem Permission.isCataloged_stored (p : Permission) :
    p.stored.isCataloged = p.isCataloged := by
  rw [StoredPermission.isCataloged, resolve?_stored, Option.any_some]

theorem StoredPermission.isCataloged_of_resolve? {names : StoredPermission} {p : Permission}
    (hcataloged : names.isCataloged = true) (h : names.resolve? = some p) :
    p.isCataloged = true := by
  rwa [isCataloged, h, Option.any_some] at hcataloged

theorem RoleGrant.Valid.isCataloged {g : RoleGrant} (h : g.Valid) :
    g.permission.isCataloged = true := by
  rw [StoredPermission.isCataloged, Option.any_eq_true]
  exact h.permission

namespace Store

/-- The grants of all roles. -/
def grants (s : Store) : List RoleGrant := s.roles.rows.flatMap (·.grants)

/-- The permissions that delegations hand over one by one. -/
def shares (s : Store) : List StoredPermission := s.delegations.rows.flatMap (·.permissions)

/-- What roles grant and what overrides are about are permissions of the catalog. -/
structure RightsCataloged (s : Store) : Prop where
  grants : ∀ g ∈ s.grants, g.permission.isCataloged = true
  overrides : ∀ o ∈ s.overrides.rows, o.permission.isCataloged = true

/-- Everything that is stored is about permissions of the catalog. -/
structure Cataloged (s : Store) : Prop extends RightsCataloged s where
  shares : ∀ names ∈ s.shares, names.isCataloged = true

instance (s : Store) : Decidable s.Cataloged :=
  decidable_of_iff
    (((∀ g ∈ s.grants, g.permission.isCataloged = true) ∧
      ∀ o ∈ s.overrides.rows, o.permission.isCataloged = true) ∧
      ∀ names ∈ s.shares, names.isCataloged = true)
    ⟨fun h => ⟨⟨h.1.1, h.1.2⟩, h.2⟩, fun h => ⟨⟨h.grants, h.overrides⟩, h.shares⟩⟩

variable {s : Store} {role : Role} {g : RoleGrant}

theorem mem_grants : g ∈ s.grants ↔ ∃ role ∈ s.roles.rows, g ∈ role.grants := List.mem_flatMap

theorem mem_grants_of_findRole {organization : OrganizationId} {id : RoleId}
    (h : s.findRole organization id = some role) (hg : g ∈ role.grants) : g ∈ s.grants :=
  mem_grants.mpr ⟨role, (findRole_eq_some.mp h).1, hg⟩

/-- A role that is put in brings its own grants. -/
theorem mem_grants_putRole (h : g ∈ (s.putRole role).grants) : g ∈ role.grants ∨ g ∈ s.grants := by
  obtain ⟨r, hr, hg⟩ := mem_grants.mp h
  rcases Table.mem_put.mp hr with rfl | ⟨hold, -⟩
  · exact .inl hg
  · exact .inr (mem_grants.mpr ⟨r, hold, hg⟩)

end Store

/-! ## The grants of roles -/

namespace Administration

variable {b : Backend} {s : Setting} {actor : Actor} {store : Store} {g : RoleGrant}

/-- A grant that a role has after an operation was one before, or is a valid one. -/
theorem Operation.Done.grant_stored_or_valid {op : Operation} {r : op.Result}
    (h : op.Done b s actor r store) (hg : g ∈ store.grants) : g ∈ b.store.grants ∨ g.Valid := by
  cases op with
  | listRoles | listDelegations f | listOverrides f => exact .inl (h.2.2 ▸ hg)
  | listEntries q | auditSummary window | exportEntries window | purgeEntries days =>
      exact .inl (h.2 ▸ hg)
  | createRole draft =>
      rw [h.store] at hg
      rcases Store.mem_grants_putRole hg with hg | hg
      · exact .inr ((GrantDraft.grantsSound_of_toGrants h.grants).1.valid g hg)
      · exact .inl hg
  | duplicateRole id copy =>
      obtain ⟨source, hsource, -, hgrants⟩ := h.source
      rw [h.store] at hg
      rcases Store.mem_grants_putRole hg with hg | hg
      · exact .inl (Store.mem_grants_of_findRole hsource (hgrants ▸ hg))
      · exact .inl hg
  | updateRole id change =>
      obtain ⟨stored, heditable, -, -, hrole⟩ := h.stored
      rw [h.store] at hg
      rcases Store.mem_grants_putRole hg with hg | hg
      · rw [hrole] at hg
        exact .inl (Store.mem_grants_of_findRole heditable.found hg)
      · exact .inl hg
  | deleteRole id =>
      rw [h.store] at hg
      obtain ⟨role, hrole, hg⟩ := Store.mem_grants.mp hg
      exact .inl (Store.mem_grants.mpr ⟨role, (Table.mem_erase.mp hrole).1, hg⟩)
  | addPermission id draft =>
      obtain ⟨stored, grant, heditable, hgrant, -, -, rfl⟩ := h.stored
      rw [h.store] at hg
      rcases Store.mem_grants_putRole hg with hg | hg
      · rcases List.mem_append.mp hg with hg | hg
        · exact .inl (Store.mem_grants_of_findRole heditable.found hg)
        · obtain rfl := List.mem_singleton.mp hg
          exact .inr (RoleGrant.valid_of_create hgrant).1
      · exact .inl hg
  | removePermission id permission =>
      obtain ⟨stored, heditable, -, rfl⟩ := h.stored
      rw [h.store] at hg
      rcases Store.mem_grants_putRole hg with hg | hg
      · exact .inl (Store.mem_grants_of_findRole heditable.found (List.mem_of_mem_filter hg))
      · exact .inl hg
  | assignRole user id | createDelegation request | revokeDelegation id
  | extendDelegation id endsAt | grantOverride request | revokeOverride id
  | extendOverride id expiresAt =>
      rw [h.store] at hg
      exact .inl hg

end Administration

/-! ## Overrides and delegations -/

theorem Override.isCataloged_of_create {id : OverrideId} {draft : Override.Draft} {o : Override}
    {now : Instant} (h : Override.create id draft now = .ok o) :
    o.permission.isCataloged = true := by
  obtain ⟨hcataloged, -, -, rfl⟩ := Override.create_eq_ok_iff.mp h
  exact (Permission.isCataloged_stored draft.permission).trans hcataloged

theorem Override.Step.permission_eq {b : Backend} {act : Act} {o p : Override}
    (h : o.Step b act p) : p.permission = o.permission := by
  rw [h.continues.same]

theorem Delegation.Step.permissions_eq {b : Backend} {act : Act} {d e : Delegation}
    (h : d.Step b act e) : e.permissions = d.permissions := by
  rw [h.continues.same]

/-- What a new delegation hands over one by one is what the request lists. -/
theorem Administration.DelegationCreated.permissions_eq {b : Backend} {s : Setting} {actor : Actor}
    {request : DelegationRequest} {d : Delegation} {store : Store}
    (h : DelegationCreated b s actor request d store) :
    d.permissions = request.permissions.map (·.stored) := by
  cases hrole : request.role with
  | none => exact (h.of_permissions hrole).2.1
  | some id =>
      obtain ⟨own, share, -, hheld, hcreated⟩ := h.drawn
      obtain ⟨-, -, hshare⟩ := Delegation.shared_of_create hcreated
      cases share with
      | permissions names => exact absurd (hrole.symm.trans hheld.1) (by simp)
      | role id' priority =>
          obtain ⟨-, hnone, -⟩ := hheld
          rw [hnone]
          exact congrArg Prod.snd (Delegation.Share.check_role.mp hshare).2

namespace Act

variable {b : Backend}

/-- What roles grant and what overrides are about stays in the catalog through every act. -/
theorem rightsCataloged (act : Act) (h : b.store.RightsCataloged) :
    (act.after b).store.RightsCataloged where
  grants g hg := by
    rcases act.kept_or_done b with hkept | ⟨r, hdone⟩
    · exact h.grants g (hkept ▸ hg)
    · rcases hdone.grant_stored_or_valid hg with hstored | hvalid
      · exact h.grants g hstored
      · exact hvalid.isCataloged
  overrides p hp := by
    rcases act.override_stored_or_created (Table.find?_key hp) with
      ⟨o, ho, hstep⟩ | ⟨request, -, hgranted⟩
    · rw [hstep.permission_eq]
      exact h.overrides o (Table.mem_of_find? ho)
    · obtain ⟨expiresAt, -, hcreated⟩ := hgranted.created
      exact Override.isCataloged_of_create hcreated

/-- The operation comes to a result. -/
def Succeeds (act : Act) (b : Backend) : Prop :=
  ∃ r, (b.run (act.operation.perform act.setting act.actor)).1 = .ok r

/-- The act delegates a permission that is outside the catalog. -/
def Smuggles (act : Act) (b : Backend) : Prop :=
  ∃ request, act.operation = .createDelegation request ∧
    (∃ p ∈ request.permissions, p.isCataloged = false) ∧ act.Succeeds b

/-- What is handed over stays so, even when it is no longer in force. -/
theorem shares_subset (act : Act) : b.store.shares ⊆ (act.after b).store.shares := by
  intro names h
  obtain ⟨d, hd, hnames⟩ := List.mem_flatMap.mp h
  obtain ⟨e, he, hstep⟩ := act.exists_delegation_step (Table.find?_key hd)
  exact List.mem_flatMap.mpr ⟨e, Table.mem_of_find? he, hstep.permissions_eq ▸ hnames⟩

/-- An act that fails leaves the store as it is. -/
theorem succeeds_of_store_ne {act : Act} (h : (act.after b).store ≠ b.store) : act.Succeeds b := by
  cases hresult : (b.run (act.operation.perform act.setting act.actor)).1 with
  | ok r => exact ⟨r, hresult⟩
  | error fault => exact absurd (Operation.store_of_perform_error hresult) h

/-- An act by which a delegation has come into the store has succeeded. -/
theorem succeeds_of_created {act : Act} {request : DelegationRequest} {e : Delegation}
    (hcreated : DelegationCreated b act.setting act.actor request e (act.after b).store) :
    act.Succeeds b := by
  apply succeeds_of_store_ne
  intro hkept
  have hfound : (act.after b).store.delegations.find? e.id = some e := by
    rw [hcreated.store]
    exact Table.find?_put_self _ e
  rw [hkept, hcreated.free] at hfound
  cases hfound

/-- What an act leaves handed over was handed over before, or the request of a delegation that has
succeeded lists it. -/
theorem share_stored_or_listed (act : Act) {names : StoredPermission}
    (h : names ∈ (act.after b).store.shares) :
    names ∈ b.store.shares ∨ ∃ request, act.operation = .createDelegation request ∧
      names ∈ request.permissions.map (·.stored) ∧ act.Succeeds b := by
  obtain ⟨e, he, hnames⟩ := List.mem_flatMap.mp h
  rcases act.delegation_stored_or_created (Table.find?_key he) with
    ⟨d, hd, hstep⟩ | ⟨request, hoperation, hcreated⟩
  · exact .inl (List.mem_flatMap.mpr ⟨d, Table.mem_of_find? hd, hstep.permissions_eq ▸ hnames⟩)
  · exact .inr ⟨request, hoperation, hcreated.permissions_eq ▸ hnames,
      succeeds_of_created hcreated⟩

/-- What an act smuggles in is handed over afterwards. -/
theorem Smuggles.exists_share {act : Act} (h : act.Smuggles b) :
    ∃ names ∈ (act.after b).store.shares, names.isCataloged = false := by
  obtain ⟨s, actor, op⟩ := act
  obtain ⟨request, rfl, ⟨p, hp, hforeign⟩, d, hresult⟩ := h
  have hdone : DelegationCreated b s actor request d
      (Act.after ⟨s, actor, .createDelegation request⟩ b).store :=
    Operation.done_of_perform hresult
  have hstored :
      d ∈ (Act.after ⟨s, actor, .createDelegation request⟩ b).store.delegations.rows := by
    rw [hdone.store]
    exact Table.mem_put.mpr (.inl rfl)
  have hshared : p.stored ∈ d.permissions := by
    rw [hdone.permissions_eq]
    exact List.mem_map_of_mem hp
  exact ⟨p.stored, List.mem_flatMap.mpr ⟨d, hstored, hshared⟩,
    (Permission.isCataloged_stored p).trans hforeign⟩

/-- An act keeps the store to the catalog unless it delegates a permission that is outside of it. -/
theorem cataloged_iff (act : Act) (h : b.store.RightsCataloged) :
    (act.after b).store.Cataloged ↔ b.store.Cataloged ∧ ¬act.Smuggles b := by
  constructor
  · intro hafter
    refine ⟨⟨h, fun names hnames => hafter.shares names (act.shares_subset hnames)⟩, ?_⟩
    intro hsmuggles
    obtain ⟨names, hnames, hforeign⟩ := hsmuggles.exists_share
    cases hforeign.symm.trans (hafter.shares names hnames)
  · rintro ⟨hbefore, hhonest⟩
    refine ⟨act.rightsCataloged h, fun names hnames => ?_⟩
    rcases act.share_stored_or_listed hnames with hstored | ⟨request, hoperation, hlisted, hresult⟩
    · exact hbefore.shares names hstored
    · obtain ⟨p, hp, rfl⟩ := List.mem_map.mp hlisted
      rw [Permission.isCataloged_stored, ← Bool.not_eq_false]
      exact fun hforeign => hhonest ⟨request, hoperation, ⟨p, hp, hforeign⟩, hresult⟩

end Act

/-! ## What operations name -/

/-- Every draft in a list that is accepted is for a permission of the catalog. -/
theorem GrantDraft.isCataloged_of_toGrants {seen : List Permission} {drafts : List GrantDraft}
    {grants : List RoleGrant} (h : toGrants seen drafts = .ok grants) :
    ∀ d ∈ drafts, d.permission.isCataloged = true := by
  induction drafts generalizing seen grants with
  | nil => exact List.forall_mem_nil _
  | cons d rest ih =>
      rw [toGrants] at h
      by_cases hseen : d.permission ∈ seen
      · rw [if_pos hseen] at h
        cases h
      rw [if_neg hseen] at h
      rcases hgrant : d.toGrant with fault | grant <;> rw [hgrant] at h
      · cases h
      rcases hothers : toGrants (d.permission :: seen) rest with fault | others <;>
        simp only [hothers] at h
      · cases h
      obtain ⟨hvalid, hresolved⟩ := RoleGrant.valid_of_create hgrant
      have hd := StoredPermission.isCataloged_of_resolve? hvalid.isCataloged hresolved
      exact List.forall_mem_cons.mpr ⟨hd, ih hothers⟩

namespace Administration

/-- The permissions that the input of an operation names, to be stored or taken away. -/
def Operation.named : Operation → List Permission
  | .createRole draft => draft.grants.map (·.permission)
  | .addPermission _ draft => [draft.permission]
  | .removePermission _ p => [p]
  | .createDelegation request => request.permissions
  | .grantOverride request => [request.permission]
  | _ => []

variable {b : Backend} {s : Setting} {actor : Actor} {store : Store}

/-- An operation that succeeds names permissions of the catalog only, unless it delegates them. -/
theorem Operation.Done.named_cataloged {op : Operation} {r : op.Result}
    (h : op.Done b s actor r store) (hrights : b.store.RightsCataloged)
    (hop : ∀ request, op ≠ .createDelegation request) : ∀ p ∈ op.named, p.isCataloged = true := by
  cases op with
  | createRole draft =>
      have hdrafts := GrantDraft.isCataloged_of_toGrants h.grants
      simpa [named] using hdrafts
  | addPermission id draft =>
      obtain ⟨stored, grant, -, hgrant, -⟩ := h.stored
      obtain ⟨hvalid, hresolved⟩ := RoleGrant.valid_of_create hgrant
      exact List.forall_mem_singleton.mpr
        (StoredPermission.isCataloged_of_resolve? hvalid.isCataloged hresolved)
  | removePermission id p =>
      obtain ⟨stored, heditable, hheld, -⟩ := h.stored
      obtain ⟨g, hg⟩ := Option.isSome_iff_exists.mp hheld
      have hstored := Store.mem_grants_of_findRole heditable.found (List.mem_of_find?_eq_some hg)
      have hresolved : g.permission.resolve? = some p := by simpa using List.find?_some hg
      exact List.forall_mem_singleton.mpr
        (StoredPermission.isCataloged_of_resolve? (hrights.grants g hstored) hresolved)
  | grantOverride request =>
      obtain ⟨expiresAt, -, hcreated⟩ := h.created
      exact List.forall_mem_singleton.mpr (Override.create_eq_ok_iff.mp hcreated).1
  | createDelegation request => exact absurd rfl (hop request)
  | _ => exact List.forall_mem_nil _

end Administration

/-! ## Runs -/

namespace Run

variable {allowed : Backend → Act → Prop} {b c : Backend}

theorem rightsCataloged (h : Run allowed b c) (hbegin : b.store.RightsCataloged) :
    c.store.RightsCataloged :=
  h.keeps (fun _ act hbefore => act.rightsCataloged hbefore) hbegin

theorem cataloged (h : Run (fun d act => allowed d act ∧ ¬act.Smuggles d) b c)
    (hbegin : b.store.Cataloged) : c.store.Cataloged := by
  induction h with
  | refl => exact hbegin
  | act act hrun hact ih => exact (act.cataloged_iff ih.toRightsCataloged).mpr ⟨ih, hact.2⟩
  | drift hrun hstore ih => exact hstore ▸ ih

/-- A run from permissions of the catalog ends with such exactly when none of its acts has
delegated another one.  What roles grant and what overrides are about is of the catalog in any case,
and whatever operation names another permission at the end fails, unless it is to delegate it. -/
theorem keeps_to_catalog_iff (h : Run allowed b c) (hbegin : b.store.Cataloged) :
    (c.store.Cataloged ↔ Run (fun d act => allowed d act ∧ ¬act.Smuggles d) b c) ∧
      c.store.RightsCataloged ∧
      ∀ act : Act, (∃ p ∈ act.operation.named, p.isCataloged = false) →
        (∀ request, act.operation ≠ .createDelegation request) →
          ∃ fault, (c.run (act.operation.perform act.setting act.actor)).1 = .error fault := by
  refine ⟨⟨?_, fun hhonest => hhonest.cataloged hbegin⟩,
    h.rightsCataloged hbegin.toRightsCataloged, ?_⟩
  · intro hend
    induction h with
    | refl => exact .refl _
    | act act hrun hallowed ih =>
        have hrights := hrun.rightsCataloged hbegin.toRightsCataloged
        obtain ⟨hbefore, hhonest⟩ := (act.cataloged_iff hrights).mp hend
        exact .act act (ih hbefore) ⟨hallowed, hhonest⟩
    | drift hrun hstore ih => exact .drift (ih (hstore ▸ hend)) hstore
  · rintro act ⟨p, hp, hforeign⟩ hop
    cases hresult : (c.run (act.operation.perform act.setting act.actor)).1 with
    | error fault => exact ⟨fault, rfl⟩
    | ok r =>
        have hdone := Operation.done_of_perform hresult
        have hrights := h.rightsCataloged hbegin.toRightsCataloged
        cases hforeign.symm.trans (hdone.named_cataloged hrights hop p hp)

end Run

/-! ## An invitation to projects -/

namespace Sample

/-- The owner lets the viewer invite to projects, which nobody can be invited to. -/
def invitation : Act where
  setting := { now := ⟨0⟩ }
  actor := actor owner
  operation := .createDelegation
    { delegatee := viewer, role := none, permissions := [⟨.project, .invite⟩], startsAt := ⟨0⟩,
      endsAt := ⟨2⟩, reason := none }

/-- The owner lets the viewer invite to one project. -/
def singleInvitation : Act where
  setting := { now := ⟨0⟩ }
  actor := actor owner
  operation := .grantOverride
    { user := viewer, permission := ⟨.project, .invite⟩, resourceId := "7", granted := true,
      expiresAt := none }

end Sample

open Sample

/-- The owner, who holds every pair of a type and an action, delegates one outside the catalog. -/
theorem owner_delegates_invitation_to_projects :
    Run (fun _ _ => True) opening (invitation.after opening) ∧ opening.store.Cataloged ∧
      (⟨.project, .invite⟩ : Permission).isCataloged = false ∧
      ¬(invitation.after opening).store.Cataloged := by
  have hrun : Run (fun _ _ => True) opening (invitation.after opening) :=
    .act invitation (.refl opening) trivial
  exact ⟨hrun, by decide +kernel, by decide, by decide +kernel⟩

/-- The store keeps to the catalog when the administrators' role is handed over, and an override
outside of it is refused. -/
theorem handover_keeps_to_catalog :
    Run (fun _ _ => True) opening (handover.after opening) ∧ opening.store.Cataloged ∧
      (handover.after opening).store.Cataloged ∧
      ∃ fault, ((handover.after opening).run (singleInvitation.operation.perform
        singleInvitation.setting singleInvitation.actor)).1 = .error fault := by
  have hrun : Run (fun _ _ => True) opening (handover.after opening) :=
    .act handover (.refl opening) trivial
  have hbegin : opening.store.Cataloged := by decide +kernel
  have hhonest : Run (fun d act => True ∧ ¬act.Smuggles d) opening (handover.after opening) := by
    refine .act handover (.refl opening) ⟨trivial, ?_⟩
    rintro ⟨request, hoperation, ⟨p, hp, -⟩, -⟩
    cases hoperation
    cases hp
  obtain ⟨hiff, -, hrefuses⟩ := hrun.keeps_to_catalog_iff hbegin
  have hforeign : ∃ p ∈ singleInvitation.operation.named, p.isCataloged = false :=
    ⟨⟨.project, .invite⟩, List.mem_singleton_self _, by decide⟩
  exact ⟨hrun, hbegin, hiff.mpr hhonest, hrefuses singleInvitation hforeign (by rintro _ ⟨⟩)⟩

end AccessControl
