import AccessControl.Proofs.Administration.Operation

/-!
# Runs of operations

Twenty operations change the store in eight ways: `StoreChange` lists them, with what was checked
before.  A run is a sequence of operations, each carried out by some actor under some setting.
Between two of them everything but the store may become different: the log, the cache, the clock
by which entries are purged, the calls that are out of order and the identifiers that are given
out next.

What every change of the store preserves holds after every run (`Run.preserves`).
-/

namespace AccessControl

open Administration

/-- The ways in which an operation of the actor changes the store, checked in the state `b`. -/
inductive StoreChange (b : Backend) (s : Setting) (actor : Actor) : Store → Prop
  | nothing : StoreChange b s actor b.store
  | role {role : Role} {action : Action} (haction : action = .create ∨ action = .update)
      (hpermitted : MayOnRoles b s actor action)
      (horganization : role.organization = actor.organization)
      (hwithin : b.store.Within actor.organization actor.user role.priority) :
      StoreChange b s actor (b.store.putRole role)
  | roleErased {id : RoleId} (hpermitted : MayOnRoles b s actor .destroy) :
      StoreChange b s actor { b.store with roles := b.store.roles.erase id }
  | member {user : UserId} {id : RoleId} {m : Member} {store : Store}
      (h : RoleAssigned b s actor user id m store) : StoreChange b s actor store
  | delegation {request : DelegationRequest} {d : Delegation} {store : Store}
      (h : DelegationCreated b s actor request d store) : StoreChange b s actor store
  | delegationKept {id : DelegationId} {stored : Delegation} {active : Bool}
      {revokedAt : Option Instant} {endsAt : Instant}
      (hmanaged : DelegationManaged b s actor id stored) :
      StoreChange b s actor (b.store.putDelegation { stored with active, revokedAt, endsAt })
  | override {request : OverrideRequest} {o : Override} {store : Store}
      (h : OverrideGranted b s actor request o store) : StoreChange b s actor store
  | overrideKept {id : OverrideId} {stored : Override} {granted : Bool}
      {expiresAt revokedAt : Option Instant} (hmanaged : OverrideManaged b s actor id stored)
      (hgranted : granted = true → stored.granted = true) :
      StoreChange b s actor (b.store.putOverride { stored with granted, expiresAt, revokedAt })

namespace StoreChange

variable {b : Backend} {s : Setting} {actor : Actor} {id : RoleId} {role : Role} {store : Store}

theorem of_roleStored {key name : String} (h : RoleStored b s actor key name role store) :
    StoreChange b s actor store := by
  rw [h.store]
  exact .role (.inl rfl) h.permitted h.organization h.within

/-- A role that is put in the place of an editable one stays in the actor's organization. -/
theorem of_editable {stored : Role} (h : Editable b s actor id stored)
    (horganization : role.organization = stored.organization)
    (hwithin : b.store.Within actor.organization actor.user role.priority) :
    StoreChange b s actor (b.store.putRole role) := by
  have hstored := (Store.findRole_eq_some.mp h.found).2.2
  exact .role (.inr rfl) h.permitted (horganization.trans hstored) hwithin

theorem of_roleUpdated {change : RoleChange} (h : RoleUpdated b s actor id change role store) :
    StoreChange b s actor store := by
  obtain ⟨stored, heditable, -, hpriority, hrole⟩ := h.stored
  rw [h.store]
  have horganization : role.organization = stored.organization := by rw [hrole]
  refine of_editable heditable horganization ?_
  cases hchange : change.priority with
  | none =>
      rw [hchange] at hpriority
      have hsame : role.priority = stored.priority := hpriority
      exact hsame ▸ heditable.within
  | some value =>
      rw [hchange] at hpriority
      exact hpriority.2

theorem of_permissionAdded {draft : GrantDraft}
    (h : PermissionAdded b s actor id draft role store) : StoreChange b s actor store := by
  obtain ⟨stored, grant, heditable, -, -, -, rfl⟩ := h.stored
  rw [h.store]
  exact of_editable heditable rfl heditable.within

theorem of_permissionRemoved {permission : Permission}
    (h : PermissionRemoved b s actor id permission role store) : StoreChange b s actor store := by
  obtain ⟨stored, heditable, -, rfl⟩ := h.stored
  rw [h.store]
  exact of_editable heditable rfl heditable.within

theorem of_delegationRevoked {id : DelegationId} {d : Delegation}
    (h : DelegationRevoked b s actor id d store) : StoreChange b s actor store := by
  obtain ⟨stored, hmanaged, hrevoked⟩ := h.stored
  rw [h.store, Delegation.eq_of_revoke hrevoked]
  exact .delegationKept hmanaged

theorem of_delegationExtended {id : DelegationId} {endsAt : Instant} {d : Delegation}
    (h : DelegationExtended b s actor id endsAt d store) : StoreChange b s actor store := by
  obtain ⟨stored, hmanaged, hextended⟩ := h.stored
  rw [h.store, Delegation.eq_of_extend hextended]
  exact .delegationKept hmanaged

theorem of_overrideRevoked {id : OverrideId} {o : Override}
    (h : OverrideRevoked b s actor id o store) : StoreChange b s actor store := by
  obtain ⟨stored, hmanaged, hrevoked⟩ := h.stored
  rw [h.store, Override.eq_of_revoke hrevoked]
  refine .overrideKept hmanaged ?_
  rintro ⟨⟩

theorem of_overrideExtended {id : OverrideId} {expiresAt : Instant} {o : Override}
    (h : OverrideExtended b s actor id expiresAt o store) : StoreChange b s actor store := by
  obtain ⟨stored, hmanaged, hextended⟩ := h.stored
  rw [h.store, Override.eq_of_extend hextended]
  exact .overrideKept hmanaged fun hgranted => hgranted

/-- An operation that succeeds changes the store in one of these ways. -/
theorem of_done {op : Operation} {r : op.Result} (h : op.Done b s actor r store) :
    StoreChange b s actor store := by
  cases op with
  | listRoles => exact h.2.2 ▸ .nothing
  | createRole draft => exact of_roleStored h.toRoleStored
  | duplicateRole id copy => exact of_roleStored h.toRoleStored
  | updateRole id change => exact of_roleUpdated h
  | deleteRole id => exact h.store ▸ .roleErased h.permitted
  | assignRole user id => exact .member h
  | addPermission id draft => exact of_permissionAdded h
  | removePermission id permission => exact of_permissionRemoved h
  | createDelegation request => exact .delegation h
  | revokeDelegation id => exact of_delegationRevoked h
  | extendDelegation id endsAt => exact of_delegationExtended h
  | listDelegations f => exact h.2.2 ▸ .nothing
  | grantOverride request => exact .override h
  | revokeOverride id => exact of_overrideRevoked h
  | extendOverride id expiresAt => exact of_overrideExtended h
  | listOverrides f => exact h.2.2 ▸ .nothing
  | listEntries q => exact h.2 ▸ .nothing
  | auditSummary window => exact h.2 ▸ .nothing
  | exportEntries window => exact h.2 ▸ .nothing
  | purgeEntries days => exact h.2 ▸ .nothing

end StoreChange

/-- One operation as it is carried out. -/
structure Act where
  setting : Setting
  actor : Actor
  operation : Operation

/-- The state after an act, whether the operation succeeded or not. -/
def Act.after (act : Act) (b : Backend) : Backend :=
  (b.run (act.operation.perform act.setting act.actor)).2

/-- An act leaves the store as it was, or the operation has succeeded. -/
theorem Act.kept_or_done (act : Act) (b : Backend) :
    (act.after b).store = b.store ∨
      ∃ r, act.operation.Done b act.setting act.actor r (act.after b).store := by
  cases hresult : (b.run (act.operation.perform act.setting act.actor)).1 with
  | error fault => exact .inl (Operation.store_of_perform_error hresult)
  | ok r => exact .inr ⟨r, Operation.done_of_perform hresult⟩

/-- An act changes the store in one of the ways of `StoreChange`. -/
theorem Act.storeChange (act : Act) (b : Backend) :
    StoreChange b act.setting act.actor (act.after b).store := by
  rcases act.kept_or_done b with hkept | ⟨r, hdone⟩
  · rw [hkept]
    exact .nothing
  · exact .of_done hdone

/-- The states that are reached by acts that are allowed in the states in which they begin. -/
inductive Run (allowed : Backend → Act → Prop) : Backend → Backend → Prop
  | refl (b : Backend) : Run allowed b b
  | act {b c : Backend} (act : Act) (h : Run allowed b c) (hallowed : allowed c act) :
      Run allowed b (act.after c)
  | drift {b c d : Backend} (h : Run allowed b c) (hstore : d.store = c.store) :
      Run allowed b d

/-- What holds of the store in the beginning and is preserved by every change that an allowed act
can make holds at the end. -/
theorem Run.preserves {allowed : Backend → Act → Prop} {I : Store → Prop} {b c : Backend}
    (h : Run allowed b c) (hbegin : I b.store)
    (hchange : ∀ (d : Backend) (act : Act) (store : Store), I d.store → allowed d act →
      StoreChange d act.setting act.actor store → I store) : I c.store := by
  induction h with
  | refl => exact hbegin
  | act act _ hallowed ih => exact hchange _ act _ ih hallowed (act.storeChange _)
  | drift _ hstore ih => exact hstore ▸ ih

/-- What every act preserves holds at the end if it held in the beginning. -/
theorem Run.keeps {allowed : Backend → Act → Prop} {I : Store → Prop} {b c : Backend}
    (h : Run allowed b c) (hact : ∀ (d : Backend) (act : Act), I d.store → I (act.after d).store)
    (hbegin : I b.store) : I c.store := by
  induction h with
  | refl => exact hbegin
  | act act _ _ ih => exact hact _ act ih
  | drift _ hstore ih => exact hstore ▸ ih

end AccessControl
