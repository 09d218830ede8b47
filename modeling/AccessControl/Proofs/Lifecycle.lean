import AccessControl.Proofs.Runs
import AccessControl.Proofs.Tables

/-!
# What operations do to delegations and overrides

Six of the twenty operations have to do with the records by which authority is handed out:
`LedgerChange` lists what they do.  A record that is stored is never put in the place of another
and never removed.  It stays as it is, or one of those who manage it revokes it or moves its end
(`Delegation.Step`, `Override.Step`).
-/

namespace AccessControl

open Administration

/-- The ways in which an operation of the actor changes delegations and overrides, checked in the
state `b`. -/
inductive LedgerChange (b : Backend) (s : Setting) (actor : Actor) : Operation → Store → Prop
  | nothing {op : Operation} {store : Store}
      (hdelegations : store.delegations = b.store.delegations)
      (hoverrides : store.overrides = b.store.overrides) : LedgerChange b s actor op store
  | delegated {request : DelegationRequest} {d : Delegation} {store : Store}
      (h : DelegationCreated b s actor request d store) :
      LedgerChange b s actor (.createDelegation request) store
  | delegationRevoked {id : DelegationId} {d : Delegation} {store : Store}
      (h : DelegationRevoked b s actor id d store) :
      LedgerChange b s actor (.revokeDelegation id) store
  | delegationExtended {id : DelegationId} {endsAt : Instant} {d : Delegation} {store : Store}
      (h : DelegationExtended b s actor id endsAt d store) :
      LedgerChange b s actor (.extendDelegation id endsAt) store
  | overrideGranted {request : OverrideRequest} {o : Override} {store : Store}
      (h : OverrideGranted b s actor request o store) :
      LedgerChange b s actor (.grantOverride request) store
  | overrideRevoked {id : OverrideId} {o : Override} {store : Store}
      (h : OverrideRevoked b s actor id o store) :
      LedgerChange b s actor (.revokeOverride id) store
  | overrideExtended {id : OverrideId} {expiresAt : Instant} {o : Override} {store : Store}
      (h : OverrideExtended b s actor id expiresAt o store) :
      LedgerChange b s actor (.extendOverride id expiresAt) store

namespace LedgerChange

variable {b : Backend} {s : Setting} {actor : Actor} {op : Operation} {store : Store}

theorem of_putRole {role : Role} (h : store = b.store.putRole role) :
    LedgerChange b s actor op store := by
  rw [h]
  exact .nothing rfl rfl

theorem of_eq (h : store = b.store) : LedgerChange b s actor op store := by
  rw [h]
  exact .nothing rfl rfl

/-- An operation that succeeds does one of these. -/
theorem of_done {r : op.Result} (h : op.Done b s actor r store) :
    LedgerChange b s actor op store := by
  cases op with
  | listRoles => exact of_eq h.2.2
  | createRole draft => exact of_putRole h.store
  | duplicateRole id copy => exact of_putRole h.store
  | updateRole id change => exact of_putRole h.store
  | deleteRole id => exact .nothing (by rw [h.store]) (by rw [h.store])
  | assignRole user id => exact .nothing (by rw [h.store]; rfl) (by rw [h.store]; rfl)
  | addPermission id draft => exact of_putRole h.store
  | removePermission id permission => exact of_putRole h.store
  | createDelegation request => exact .delegated h
  | revokeDelegation id => exact .delegationRevoked h
  | extendDelegation id endsAt => exact .delegationExtended h
  | listDelegations f => exact of_eq h.2.2
  | grantOverride request => exact .overrideGranted h
  | revokeOverride id => exact .overrideRevoked h
  | extendOverride id expiresAt => exact .overrideExtended h
  | listOverrides f => exact of_eq h.2.2
  | listEntries q => exact of_eq h.2
  | auditSummary window => exact of_eq h.2
  | exportEntries window => exact of_eq h.2
  | purgeEntries days => exact of_eq h.2

end LedgerChange

/-- An act changes delegations and overrides in one of the ways of `LedgerChange`. -/
theorem Act.ledgerChange (act : Act) (b : Backend) :
    LedgerChange b act.setting act.actor act.operation (act.after b).store := by
  rcases act.kept_or_done b with hkept | ⟨r, hdone⟩
  · exact .of_eq hkept
  · exact .of_done hdone

/-! ## One stored record -/

/-- What an act makes of a stored delegation. -/
inductive Delegation.Step (b : Backend) (act : Act) (d : Delegation) : Delegation → Prop
  | kept : Step b act d d
  | revoked {e : Delegation} (hoperation : act.operation = .revokeDelegation d.id)
      (hmanaged : DelegationManaged b act.setting act.actor d.id d)
      (hrevoked : d.revoke act.setting.now = .ok e) : Step b act d e
  | extended {endsAt : Instant} {e : Delegation}
      (hoperation : act.operation = .extendDelegation d.id endsAt)
      (hmanaged : DelegationManaged b act.setting act.actor d.id d)
      (hextended : d.extend endsAt act.setting.now = .ok e) : Step b act d e

/-- What an act makes of a stored override. -/
inductive Override.Step (b : Backend) (act : Act) (o : Override) : Override → Prop
  | kept : Step b act o o
  | revoked {p : Override} (hoperation : act.operation = .revokeOverride o.id)
      (hmanaged : OverrideManaged b act.setting act.actor o.id o)
      (hrevoked : o.revoke act.setting.now = .ok p) : Step b act o p
  | extended {expiresAt : Instant} {p : Override}
      (hoperation : act.operation = .extendOverride o.id expiresAt)
      (hmanaged : OverrideManaged b act.setting act.actor o.id o)
      (hextended : o.extend expiresAt act.setting.now = .ok p) : Step b act o p

section Step

variable {b : Backend} {s : Setting} {actor : Actor}

theorem Administration.DelegationManaged.id_eq {id : DelegationId} {d : Delegation}
    (h : DelegationManaged b s actor id d) : d.id = id :=
  (Store.findDelegation_eq_some.mp h.found).2.1

theorem Administration.DelegationManaged.find? {id : DelegationId} {d : Delegation}
    (h : DelegationManaged b s actor id d) : b.store.delegations.find? d.id = some d :=
  Table.find?_key (Store.findDelegation_eq_some.mp h.found).1

theorem Administration.OverrideManaged.id_eq {id : OverrideId} {o : Override}
    (h : OverrideManaged b s actor id o) : o.id = id :=
  (Store.findOverride_eq_some.mp h.found).2.1

theorem Administration.OverrideManaged.find? {id : OverrideId} {o : Override}
    (h : OverrideManaged b s actor id o) : b.store.overrides.find? o.id = some o :=
  Table.find?_key (Store.findOverride_eq_some.mp h.found).1

variable (act : Act)

/-- A stored delegation is still stored after an act, as one of the steps leaves it. -/
theorem Act.exists_delegation_step {id : DelegationId} {d : Delegation}
    (hd : b.store.delegations.find? id = some d) :
    ∃ e, (act.after b).store.delegations.find? id = some e ∧ d.Step b act e := by
  have hchange := act.ledgerChange b
  generalize hoperation : act.operation = op at hchange
  generalize (act.after b).store = store at hchange
  cases hchange with
  | nothing hdelegations _ => exact ⟨d, hdelegations ▸ hd, .kept⟩
  | delegated h => exact ⟨d, h.store ▸ Table.find?_put_of_free h.free hd, .kept⟩
  | @delegationRevoked _ e _ h =>
      obtain ⟨stored, hmanaged, hrevoked⟩ := h.stored
      obtain rfl := hmanaged.id_eq
      have hkey := congrArg Delegation.id (Delegation.eq_of_revoke hrevoked)
      rcases Table.find?_put_of_stored hmanaged.find? hkey hd with hkept | ⟨rfl, hnew⟩
      · exact ⟨d, h.store ▸ hkept, .kept⟩
      · exact ⟨e, h.store ▸ hnew, .revoked hoperation hmanaged hrevoked⟩
  | @delegationExtended _ _ e _ h =>
      obtain ⟨stored, hmanaged, hextended⟩ := h.stored
      obtain rfl := hmanaged.id_eq
      have hkey := congrArg Delegation.id (Delegation.eq_of_extend hextended)
      rcases Table.find?_put_of_stored hmanaged.find? hkey hd with hkept | ⟨rfl, hnew⟩
      · exact ⟨d, h.store ▸ hkept, .kept⟩
      · exact ⟨e, h.store ▸ hnew, .extended hoperation hmanaged hextended⟩
  | overrideGranted h => exact ⟨d, by rw [h.store]; exact hd, .kept⟩
  | overrideRevoked h => exact ⟨d, by rw [h.store]; exact hd, .kept⟩
  | overrideExtended h => exact ⟨d, by rw [h.store]; exact hd, .kept⟩

/-- A delegation that is stored after an act was stored before, or the act created it. -/
theorem Act.delegation_stored_or_created {id : DelegationId} {e : Delegation}
    (he : (act.after b).store.delegations.find? id = some e) :
    (∃ d, b.store.delegations.find? id = some d ∧ d.Step b act e) ∨
      ∃ request, act.operation = .createDelegation request ∧
        DelegationCreated b act.setting act.actor request e (act.after b).store := by
  cases hd : b.store.delegations.find? id with
  | some d =>
      obtain ⟨e', he', hstep⟩ := act.exists_delegation_step hd
      obtain rfl : e' = e := Option.some.inj (he'.symm.trans he)
      exact .inl ⟨d, rfl, hstep⟩
  | none =>
      refine .inr ?_
      have hchange := act.ledgerChange b
      generalize act.operation = op at hchange
      generalize (act.after b).store = store at hchange he
      cases hchange with
      | nothing hdelegations _ =>
          rw [hdelegations, hd] at he
          cases he
      | @delegated request d _ h =>
          refine ⟨request, rfl, ?_⟩
          rw [h.store, Store.putDelegation] at he
          exact Table.eq_of_find?_put_of_none hd he ▸ h
      | delegationRevoked h =>
          obtain ⟨stored, hmanaged, hrevoked⟩ := h.stored
          have hkey := congrArg Delegation.id (Delegation.eq_of_revoke hrevoked)
          rw [h.store] at he
          cases (Table.find?_put_eq_none_of_stored hmanaged.find? hkey hd).symm.trans he
      | delegationExtended h =>
          obtain ⟨stored, hmanaged, hextended⟩ := h.stored
          have hkey := congrArg Delegation.id (Delegation.eq_of_extend hextended)
          rw [h.store] at he
          cases (Table.find?_put_eq_none_of_stored hmanaged.find? hkey hd).symm.trans he
      | overrideGranted h =>
          rw [h.store] at he
          cases hd.symm.trans he
      | overrideRevoked h =>
          rw [h.store] at he
          cases hd.symm.trans he
      | overrideExtended h =>
          rw [h.store] at he
          cases hd.symm.trans he

/-- A stored override is still stored after an act, as one of the steps leaves it. -/
theorem Act.exists_override_step {id : OverrideId} {o : Override}
    (ho : b.store.overrides.find? id = some o) :
    ∃ p, (act.after b).store.overrides.find? id = some p ∧ o.Step b act p := by
  have hchange := act.ledgerChange b
  generalize hoperation : act.operation = op at hchange
  generalize (act.after b).store = store at hchange
  cases hchange with
  | nothing _ hoverrides => exact ⟨o, hoverrides ▸ ho, .kept⟩
  | delegated h => exact ⟨o, by rw [h.store]; exact ho, .kept⟩
  | delegationRevoked h => exact ⟨o, by rw [h.store]; exact ho, .kept⟩
  | delegationExtended h => exact ⟨o, by rw [h.store]; exact ho, .kept⟩
  | overrideGranted h => exact ⟨o, h.store ▸ Table.find?_put_of_free h.free ho, .kept⟩
  | @overrideRevoked _ p _ h =>
      obtain ⟨stored, hmanaged, hrevoked⟩ := h.stored
      obtain rfl := hmanaged.id_eq
      have hkey := congrArg Override.id (Override.eq_of_revoke hrevoked)
      rcases Table.find?_put_of_stored hmanaged.find? hkey ho with hkept | ⟨rfl, hnew⟩
      · exact ⟨o, h.store ▸ hkept, .kept⟩
      · exact ⟨p, h.store ▸ hnew, .revoked hoperation hmanaged hrevoked⟩
  | @overrideExtended _ _ p _ h =>
      obtain ⟨stored, hmanaged, hextended⟩ := h.stored
      obtain rfl := hmanaged.id_eq
      have hkey := congrArg Override.id (Override.eq_of_extend hextended)
      rcases Table.find?_put_of_stored hmanaged.find? hkey ho with hkept | ⟨rfl, hnew⟩
      · exact ⟨o, h.store ▸ hkept, .kept⟩
      · exact ⟨p, h.store ▸ hnew, .extended hoperation hmanaged hextended⟩

/-- An override that is stored after an act was stored before, or the act granted it. -/
theorem Act.override_stored_or_created {id : OverrideId} {p : Override}
    (hp : (act.after b).store.overrides.find? id = some p) :
    (∃ o, b.store.overrides.find? id = some o ∧ o.Step b act p) ∨
      ∃ request, act.operation = .grantOverride request ∧
        OverrideGranted b act.setting act.actor request p (act.after b).store := by
  cases ho : b.store.overrides.find? id with
  | some o =>
      obtain ⟨p', hp', hstep⟩ := act.exists_override_step ho
      obtain rfl : p' = p := Option.some.inj (hp'.symm.trans hp)
      exact .inl ⟨o, rfl, hstep⟩
  | none =>
      refine .inr ?_
      have hchange := act.ledgerChange b
      generalize act.operation = op at hchange
      generalize (act.after b).store = store at hchange hp
      cases hchange with
      | nothing _ hoverrides =>
          rw [hoverrides, ho] at hp
          cases hp
      | @overrideGranted request o _ h =>
          refine ⟨request, rfl, ?_⟩
          rw [h.store, Store.putOverride] at hp
          exact Table.eq_of_find?_put_of_none ho hp ▸ h
      | overrideRevoked h =>
          obtain ⟨stored, hmanaged, hrevoked⟩ := h.stored
          have hkey := congrArg Override.id (Override.eq_of_revoke hrevoked)
          rw [h.store] at hp
          cases (Table.find?_put_eq_none_of_stored hmanaged.find? hkey ho).symm.trans hp
      | overrideExtended h =>
          obtain ⟨stored, hmanaged, hextended⟩ := h.stored
          have hkey := congrArg Override.id (Override.eq_of_extend hextended)
          rw [h.store] at hp
          cases (Table.find?_put_eq_none_of_stored hmanaged.find? hkey ho).symm.trans hp
      | delegated h =>
          rw [h.store] at hp
          cases ho.symm.trans hp
      | delegationRevoked h =>
          rw [h.store] at hp
          cases ho.symm.trans hp
      | delegationExtended h =>
          rw [h.store] at hp
          cases ho.symm.trans hp

end Step

end AccessControl
