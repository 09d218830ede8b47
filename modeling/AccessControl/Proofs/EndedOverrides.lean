import AccessControl.Proofs.Ledger
import AccessControl.Proofs.OwnerReassignment

/-!
# Overrides that have ended

An override that has expired or was revoked cannot be extended, and one that was revoked cannot be
revoked again.  Nothing more is asked of a revocation, so whoever manages an override still revokes
it after it has expired: its end becomes the time of the revocation, and it no longer says that it
grants anything.  A delegation that is over is not revoked (`Delegation.Continues.final`).

No other operation changes an override that has ended (`Act.keeps_ended_override_iff`).
-/

namespace AccessControl

open Administration Service Backend

section Ended

variable {s : Setting} {b c : Backend} {actor : Actor} {act : Act} {o p : Override}

/-- One that has ended is not in force. -/
theorem Override.isActiveAt_eq_false_iff {now : Instant} :
    o.isActiveAt now = false ↔ o.status now = .expired ∨ o.status now = .revoked := by
  rw [isActiveAt, decide_eq_false_iff_not]
  cases o.status now <;> simp

/-- Whoever manages an override that has not been revoked revokes it, whether it has expired or
not. -/
theorem Administration.finishes_revokeOverride {id : OverrideId} (hworking : b.broken = [])
    (hmanaged : OverrideManaged b s actor id o) (hrevoked : o.revoke s.now = .ok p) :
    Finishes b (revokeOverride s actor id) fun q c => q = p ∧ c.store = b.store.putOverride p := by
  have hask : b.run (ask (.findOverride actor.organization id)) = (.ok (some o), b) := by
    rw [Authorization.run_ask_of_working hworking, serve, hmanaged.found]
  have hfinds : Finishes b (managedOverride s actor id) fun q c => Calm s b c ∧ q = o := by
    rw [Finishes, managedOverride, run_bind_ok hask]
    have hlearns : Learns s b (managedTarget actor o) _ := learns_managedTarget o
    refine (hlearns.finishes (sure_managedTarget o) hworking .refl).bind fun target c hc => ?_
    obtain ⟨hc, rfl⟩ := hc
    refine (Authorization.finishes_require hworking hc hmanaged.managed).bind fun _ d hd => ?_
    exact Finishes.pure ⟨hd, rfl⟩
  refine hfinds.bind fun stored c hc => ?_
  obtain ⟨hc, rfl⟩ := hc
  rw [hrevoked]
  -- What is saved is found, under the identifier and in the organization of what was revoked.
  have hsave : c.run (ask (.saveOverride p)) =
      (.ok (), { c with store := b.store.putOverride p }) := by
    have hid : p.id = id := by
      rw [Override.eq_of_revoke hrevoked]
      exact hmanaged.id_eq
    have horganization : p.organization = actor.organization := by
      rw [Override.eq_of_revoke hrevoked]
      exact (Store.findOverride_eq_some.mp hmanaged.found).2.2
    have hsaved : c.store.saveOverride p = .ok (b.store.putOverride p) := by
      refine Store.saveOverride_eq_ok.mpr ⟨?_, by rw [hc.store]⟩
      rw [hc.store, hid, horganization, hmanaged.found]
      rfl
    rw [Authorization.run_ask_of_working (hc.broken.trans hworking), serve, hsaved]
    rfl
  have hstores : Finishes c (storeOverride s actor p) fun _ d =>
      d.store = b.store.putOverride p := by
    rw [Finishes, storeOverride, run_bind_ok hsave]
    exact (Authorization.finishes_forgetUser _).mono fun _ d hd => hd.store
  refine hstores.bind fun _ d hd => ?_
  refine (finishes_report d s _).bind fun _ e he => Finishes.pure ⟨rfl, he.store.trans hd⟩

/-- The operation does not succeed. -/
def Act.Fails (act : Act) (b : Backend) : Prop :=
  ∃ fault, (b.run (act.operation.perform act.setting act.actor)).1 = .error fault

theorem Act.not_fails_iff :
    ¬act.Fails b ↔ ∃ r, (b.run (act.operation.perform act.setting act.actor)).1 = .ok r := by
  rw [Fails]
  cases (b.run (act.operation.perform act.setting act.actor)).1 <;> simp

theorem Act.Fails.store (h : act.Fails b) : (act.after b).store = b.store := by
  obtain ⟨fault, hresult⟩ := h
  exact Operation.store_of_perform_error hresult

/-- Somebody who manages the override revokes it, and nobody has done so before. -/
structure Act.Revokes (act : Act) (b : Backend) (o : Override) : Prop where
  operation : act.operation = .revokeOverride o.id
  managed : OverrideManaged b act.setting act.actor o.id o
  unrevoked : o.revokedAt = none

/-- What is left of an override that is revoked. -/
theorem Act.Revokes.after (h : act.Revokes b o) (hworking : b.broken = []) :
    ¬act.Fails b ∧
      { o with granted := false, expiresAt := some act.setting.now,
               revokedAt := some act.setting.now } ∈ (act.after b).store.overrides.rows := by
  obtain ⟨setting, actor, operation⟩ := act
  obtain ⟨rfl, hmanaged, hunrevoked⟩ := h
  have hrevoked : o.revoke setting.now = .ok { o with
      granted := false, expiresAt := some setting.now, revokedAt := some setting.now } :=
    Override.revoke_eq_ok_iff.mpr ⟨hunrevoked, rfl⟩
  obtain ⟨_, d, hrun, rfl, hstore⟩ := finishes_revokeOverride hworking hmanaged hrevoked
  have hperform : b.run ((Operation.revokeOverride o.id).perform setting actor) = _ := hrun
  refine ⟨?_, ?_⟩
  · rintro ⟨fault, hfault⟩
    cases hfault.symm.trans (congrArg Prod.fst hperform)
  · rw [Act.after, hperform, hstore]
    exact Table.mem_put.mpr (.inl rfl)

/-- To extend an override that has ended fails. -/
theorem Act.fails_of_extends {expiresAt : Instant} (hstored : o ∈ b.store.overrides.rows)
    (hended : o.isActiveAt act.setting.now = false)
    (h : act.operation = .extendOverride o.id expiresAt) : act.Fails b := by
  obtain ⟨setting, actor, operation⟩ := act
  obtain rfl : operation = _ := h
  by_contra hnot
  obtain ⟨r, hresult⟩ := Act.not_fails_iff.mp hnot
  have hextended : OverrideExtended b setting actor o.id expiresAt r _ :=
    Operation.done_of_perform hresult
  obtain ⟨stored, hmanaged, hmoved⟩ := hextended.stored
  obtain rfl : stored = o := by
    refine Table.eq_of_key_eq (Store.findOverride_eq_some.mp hmanaged.found).1 hstored ?_
    exact hmanaged.id_eq
  cases hended.symm.trans (Override.isActiveAt_of_extend hmoved)

/-- To revoke an override succeeds only for those who manage it, and only once. -/
theorem Act.revokes_of_not_fails (hstored : o ∈ b.store.overrides.rows)
    (h : act.operation = .revokeOverride o.id) (hsucceeds : ¬act.Fails b) : act.Revokes b o := by
  obtain ⟨setting, actor, operation⟩ := act
  obtain rfl : operation = _ := h
  obtain ⟨r, hresult⟩ := Act.not_fails_iff.mp hsucceeds
  have hdone : OverrideRevoked b setting actor o.id r _ := Operation.done_of_perform hresult
  obtain ⟨stored, hmanaged, hrevoked⟩ := hdone.stored
  obtain rfl : stored = o := by
    refine Table.eq_of_key_eq (Store.findOverride_eq_some.mp hmanaged.found).1 hstored ?_
    exact hmanaged.id_eq
  exact ⟨rfl, hmanaged, (Override.revoke_eq_ok_iff.mp hrevoked).1⟩

/-- An override that has expired or was revoked stays as it is through every operation of anybody
except one: while it has not been revoked, those who manage it revoke it, and it is left as a denial
that ended then.  To extend it fails, and so does to revoke it in every other case. -/
theorem Act.keeps_ended_override_iff (hworking : b.broken = [])
    (hstored : o ∈ b.store.overrides.rows)
    (hended : o.status act.setting.now = .expired ∨ o.status act.setting.now = .revoked) :
    (o ∈ (act.after b).store.overrides.rows ↔ ¬act.Revokes b o) ∧
      (act.Revokes b o →
        { o with granted := false, expiresAt := some act.setting.now,
                 revokedAt := some act.setting.now } ∈ (act.after b).store.overrides.rows) ∧
      (∀ expiresAt, act.operation = .extendOverride o.id expiresAt → act.Fails b) ∧
      (act.operation = .revokeOverride o.id → (act.Fails b ↔ ¬act.Revokes b o)) := by
  have hinactive := Override.isActiveAt_eq_false_iff.mpr hended
  refine ⟨⟨?_, ?_⟩, fun h => (h.after hworking).2,
    fun expiresAt h => Act.fails_of_extends hstored hinactive h, fun hrevoke => ⟨?_, ?_⟩⟩
  · -- Two records of one identifier would be the same, and only one of them is revoked.
    intro hkept hrevokes
    have hsame := Table.eq_of_key_eq (hrevokes.after hworking).2 hkept rfl
    have hunrevoked := hrevokes.unrevoked
    rw [← hsame] at hunrevoked
    cases hunrevoked
  · intro hnot
    obtain ⟨p, hp, hstep⟩ := act.exists_override_step (Table.find?_key hstored)
    cases hstep with
    | kept => exact Table.mem_of_find? hp
    | revoked hoperation hmanaged hrevoked =>
        have hunrevoked := (Override.revoke_eq_ok_iff.mp hrevoked).1
        exact absurd ⟨hoperation, hmanaged, hunrevoked⟩ hnot
    | extended hoperation hmanaged hextended =>
        rw [(Act.fails_of_extends hstored hinactive hoperation).store]
        exact hstored
  · exact fun hfails hrevokes => (hrevokes.after hworking).1 hfails
  · intro hnot
    by_contra hsucceeds
    exact hnot (Act.revokes_of_not_fails hstored hrevoke hsucceeds)

end Ended

namespace Sample

/-- The owner revokes at time 10 the override that forbids the viewer to see the administrator up to
time 9. -/
def lateUnveiling : Act where
  setting := { now := ⟨10⟩ }
  actor := actor owner
  operation := .revokeOverride (backend.nextId .override)

/-- The viewer tries the same. -/
def ownUnveiling : Act := { lateUnveiling with actor := actor viewer }

/-- The owner would have the override last up to time 12. -/
def lateProlonging : Act :=
  { lateUnveiling with operation := .extendOverride (backend.nextId .override) ⟨12⟩ }

/-- The override as it was granted. -/
def veil : Override := { concealed admin.toString with expiresAt := some ⟨9⟩ }

end Sample

open Sample

/-- The owner revokes an override that has expired, which gives it another end. -/
theorem owner_revokes_expired_veil :
    veil ∈ (veiling.after backend).store.overrides.rows ∧
      veil.status lateUnveiling.setting.now = .expired ∧
      veil ∉ (lateUnveiling.after (veiling.after backend)).store.overrides.rows ∧
      { veil with expiresAt := some ⟨10⟩, revokedAt := some ⟨10⟩ } ∈
        (lateUnveiling.after (veiling.after backend)).store.overrides.rows :=
  ⟨by decide +kernel, by decide, by decide +kernel, by decide +kernel⟩

/-- The viewer leaves the override as it is, and not even the owner extends it. -/
theorem viewer_keeps_expired_veil :
    (veiling.after backend).broken = [] ∧ veil ∈ (veiling.after backend).store.overrides.rows ∧
      veil.status ownUnveiling.setting.now = .expired ∧
      veil ∈ (ownUnveiling.after (veiling.after backend)).store.overrides.rows ∧
      lateProlonging.Fails (veiling.after backend) := by
  have hworking : (veiling.after backend).broken = [] := by decide +kernel
  have hstored : veil ∈ (veiling.after backend).store.overrides.rows := by decide +kernel
  have hexpired : veil.status ownUnveiling.setting.now = .expired := by decide
  refine ⟨hworking, hstored, hexpired, ?_, ?_⟩
  · obtain ⟨hkept, -⟩ := Act.keeps_ended_override_iff hworking hstored (.inl hexpired)
    refine hkept.mpr fun hrevokes => ?_
    exact absurd hrevokes.managed.managed (by decide +kernel)
  · have hlate : veil.status lateProlonging.setting.now = .expired := by decide
    obtain ⟨-, -, hextend, -⟩ := Act.keeps_ended_override_iff hworking hstored (.inl hlate)
    exact hextend ⟨12⟩ rfl

end AccessControl
