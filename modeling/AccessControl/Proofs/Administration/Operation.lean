import AccessControl.Administration.Operation
import AccessControl.Proofs.Administration.Overrides
import AccessControl.Proofs.Administration.Roles

/-!
# What an operation of administration comes to

`Operation.Done` gathers for each operation what has been checked and changed once it succeeded.
An operation comes to that, or it fails and leaves the store alone, whatever the arguments, the
actor, the state of the cache and the calls that are out of order.
-/

namespace AccessControl.Administration

open Service Backend

variable {s : Setting} {b : Backend} {actor : Actor}

/-! ## The audit log -/

/-- The actor may do this to the audit log. -/
def MayOnLog (b : Backend) (s : Setting) (actor : Actor) (action : Action) : Prop :=
  (b.rules s actor.organization actor.user).permits action (.ofType .auditLog) = true

/-- Calls about the log do not fail, except when they are out of order, and leave the store
alone. -/
theorem ends_askLog (call : Call)
    (hcall : ∀ c : Backend, ∃ reply d, c.serve call = (.ok reply, d) ∧ d.store = c.store) :
    Ends s b (ask call) fun _ c => c.store = b.store := by
  intro c hc
  have hrun : c.run (ask call) = c.answer call := rfl
  rw [hrun, answer]
  cases c.outage? call with
  | some fault => exact hc
  | none =>
      obtain ⟨reply, d, hserve, hstore⟩ := hcall c
      simp only [hserve]
      exact hstore.trans hc.store

theorem learns_requireOnLog (action : Action) :
    Learns s b (requireOnLog s actor action) fun _ => MayOnLog b s actor action :=
  Authorization.learns_require actor action _

theorem ends_listEntries (q : AuditQuery) :
    Ends s b (listEntries s actor q) fun _ c =>
      MayOnLog b s actor .read ∧ c.store = b.store := by
  refine (learns_requireOnLog .read).bind fun _ hpermitted => ?_
  exact (ends_askLog (.listEntries _) fun c => ⟨_, c, rfl, rfl⟩).mono
    fun _ _ hstore => ⟨hpermitted, hstore⟩

theorem ends_auditSummary (window : AuditWindow) :
    Ends s b (auditSummary s actor window) fun _ c =>
      MayOnLog b s actor .read ∧ c.store = b.store := by
  refine (learns_requireOnLog .read).bind fun _ hpermitted => ?_
  refine (Learns.ofOutcome _).bind fun _ _ => ?_
  exact (ends_askLog (.summarize _ _) fun c => ⟨_, c, rfl, rfl⟩).mono
    fun _ _ hstore => ⟨hpermitted, hstore⟩

theorem ends_exportEntries (window : AuditWindow) :
    Ends s b (exportEntries s actor window) fun _ c =>
      MayOnLog b s actor .exportData ∧ c.store = b.store := by
  refine (learns_requireOnLog .exportData).bind fun _ hpermitted => ?_
  exact (ends_askLog (.listEntries _) fun c => ⟨_, c, rfl, rfl⟩).mono
    fun _ _ hstore => ⟨hpermitted, hstore⟩

theorem ends_purgeEntries (days : Nat) :
    Ends s b (purgeEntries s actor days) fun _ c =>
      MayOnLog b s actor .destroy ∧ c.store = b.store := by
  refine (learns_requireOnLog .destroy).bind fun _ hpermitted => ?_
  have hpurge : Ends s b (Audit.purge actor.organization days) fun _ c => c.store = b.store :=
    (Learns.ofOutcome _).bind fun _ _ =>
      ends_askLog (.purgeEntries _ _) fun c => ⟨_, _, rfl, rfl⟩
  refine hpurge.bind fun purged c hstore => ?_
  refine (finishes_report c s _).bind fun _ d hd => Finishes.pure ?_
  exact ⟨hpermitted, hd.store.trans hstore⟩

/-! ## All operations -/

namespace Operation

/-- What has been checked in the state `b`, and the result and the store to which it came. -/
def Done (b : Backend) (s : Setting) (actor : Actor) : (op : Operation) → op.Result → Store → Prop
  | listRoles, roles, store =>
    MayOnRoles b s actor .read ∧ roles = b.store.listRoles actor.organization ∧ store = b.store
  | createRole draft, role, store => RoleCreated b s actor draft role store
  | duplicateRole id copy, role, store => RoleDuplicated b s actor id copy role store
  | updateRole id change, role, store => RoleUpdated b s actor id change role store
  | deleteRole id, _, store => RoleDeleted b s actor id store
  | assignRole user id, m, store => RoleAssigned b s actor user id m store
  | addPermission id draft, role, store => PermissionAdded b s actor id draft role store
  | removePermission id permission, role, store =>
    PermissionRemoved b s actor id permission role store
  | createDelegation request, d, store => DelegationCreated b s actor request d store
  | revokeDelegation id, d, store => DelegationRevoked b s actor id d store
  | extendDelegation id endsAt, d, store => DelegationExtended b s actor id endsAt d store
  | listDelegations f, ds, store =>
    (b.rules s actor.organization actor.user).permits .read (.ofType .membership) = true ∧
      ds = (b.store.listDelegations actor.organization f.user).filter
        (fun d => !f.activeOnly || d.isActiveAt s.now) ∧ store = b.store
  | grantOverride request, o, store => OverrideGranted b s actor request o store
  | revokeOverride id, o, store => OverrideRevoked b s actor id o store
  | extendOverride id expiresAt, o, store => OverrideExtended b s actor id expiresAt o store
  | listOverrides f, os, store =>
    (b.rules s actor.organization actor.user).permits .read (.ofType .membership) = true ∧
      os = (b.store.listOverrides actor.organization f.user).filter
        (fun o => !f.activeOnly || o.isActiveAt s.now) ∧ store = b.store
  | listEntries _, _, store => MayOnLog b s actor .read ∧ store = b.store
  | auditSummary _, _, store => MayOnLog b s actor .read ∧ store = b.store
  | exportEntries _, _, store => MayOnLog b s actor .exportData ∧ store = b.store
  | purgeEntries _, _, store => MayOnLog b s actor .destroy ∧ store = b.store

theorem ends_perform (op : Operation) :
    Ends s b (op.perform s actor) fun r c => op.Done b s actor r c.store := by
  cases op with
  | listRoles => exact ends_listRoles
  | createRole draft => exact ends_createRole draft
  | duplicateRole id copy => exact ends_duplicateRole id copy
  | updateRole id change => exact ends_updateRole id change
  | deleteRole id => exact ends_deleteRole id
  | assignRole user id => exact ends_assignRole user id
  | addPermission id draft => exact ends_addPermission id draft
  | removePermission id permission => exact ends_removePermission id permission
  | createDelegation request => exact ends_createDelegation request
  | revokeDelegation id => exact ends_revokeDelegation id
  | extendDelegation id endsAt => exact ends_extendDelegation id endsAt
  | listDelegations f => exact ends_listDelegations f
  | grantOverride request => exact ends_grantOverride request
  | revokeOverride id => exact ends_revokeOverride id
  | extendOverride id expiresAt => exact ends_extendOverride id expiresAt
  | listOverrides f => exact ends_listOverrides f
  | listEntries q => exact ends_listEntries q
  | auditSummary window => exact ends_auditSummary window
  | exportEntries window => exact ends_exportEntries window
  | purgeEntries days => exact ends_purgeEntries days

/-- An operation that succeeds has checked and changed what it should. -/
theorem done_of_perform {op : Operation} {r : op.Result}
    (h : (b.run (op.perform s actor)).1 = .ok r) :
    op.Done b s actor r (b.run (op.perform s actor)).2.store := by
  have hends := (ends_perform op : Ends s b (op.perform s actor) _) b .refl
  rcases hrun : b.run (op.perform s actor) with ⟨e | r', c⟩ <;> rw [hrun] at h hends
  · cases h
  · cases h
    exact hends

/-- An operation that fails leaves nothing behind but entries about denials. -/
theorem calm_of_perform_error {op : Operation} {fault : Fault}
    (h : (b.run (op.perform s actor)).1 = .error fault) :
    Calm s b (b.run (op.perform s actor)).2 := by
  have hends := (ends_perform op : Ends s b (op.perform s actor) _) b .refl
  rcases hrun : b.run (op.perform s actor) with ⟨e | r, c⟩ <;> rw [hrun] at h hends
  · exact hends
  · cases h

theorem store_of_perform_error {op : Operation} {fault : Fault}
    (h : (b.run (op.perform s actor)).1 = .error fault) :
    (b.run (op.perform s actor)).2.store = b.store :=
  (calm_of_perform_error h).store

end Operation

end AccessControl.Administration
