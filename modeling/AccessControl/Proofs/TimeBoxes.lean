import AccessControl.Proofs.Lifecycle
import AccessControl.Proofs.WholeTypes

/-!
# Authority that is handed out for a time

Delegations and overrides end at a time of their own.  Whoever manages such a record may move its
end to a later time, and nothing but the rules of that user decides who manages it: the recipient is
no exception, and the rules that count are also those that the record itself brings.

A course is a run along which the clock never goes back.  Where only one user acts, a record is in
force behind the end that it had only if on the way, and before that end, the user was one of those
who manage it and extended it (`Course.prolonged_of_isActiveAt`).
-/

namespace AccessControl

open Administration

/-- A state at a time. -/
structure Snapshot where
  state : Backend
  now : Instant

/-- The snapshot behind an act that is carried out at its time. -/
def Snapshot.after (m : Snapshot) (act : Act) : Snapshot := ⟨act.after m.state, m.now⟩

/-- The snapshots that are reached by acts that are allowed where they are carried out.  Between two
acts time goes by, and everything but the store may become different. -/
inductive Course (allowed : Snapshot → Act → Prop) : Snapshot → Snapshot → Prop
  | refl (b : Snapshot) : Course allowed b b
  | act {b c : Snapshot} (act : Act) (h : Course allowed b c) (hallowed : allowed c act)
      (hnow : act.setting.now = c.now) : Course allowed b (c.after act)
  | drift {b c d : Snapshot} (h : Course allowed b c) (hstore : d.state.store = c.state.store)
      (hnow : c.now ≤ d.now) : Course allowed b d

/-- On the way from one snapshot to the other an act is carried out of which `P` holds. -/
def Passes (allowed P : Snapshot → Act → Prop) (b c : Snapshot) : Prop :=
  ∃ m act, Course allowed b m ∧ allowed m act ∧ act.setting.now = m.now ∧ P m act ∧
    Course allowed (m.after act) c

section Course

variable {allowed P : Snapshot → Act → Prop} {b c : Snapshot} {I : Store → Prop}

/-- What every act preserves unless `P` holds of it still holds at the end, unless an act was
carried out on the way of which `P` holds. -/
theorem Course.preserves_or_passes (h : Course allowed b c) (hbegin : I b.state.store)
    (hact : ∀ m act, allowed m act → act.setting.now = m.now → I m.state.store →
      I (act.after m.state).store ∨ P m act) :
    I c.state.store ∨ Passes allowed P b c := by
  induction h with
  | refl => exact .inl hbegin
  | @act c act hcourse hallowed hnow ih =>
      rcases ih with hholds | ⟨m, act', hbefore, hallowed', hnow', hP, hbehind⟩
      · rcases hact c act hallowed hnow hholds with hstill | hP
        · exact .inl hstill
        · exact .inr ⟨c, act, hcourse, hallowed, hnow, hP, .refl _⟩
      · exact .inr ⟨m, act', hbefore, hallowed', hnow', hP, .act act hbehind hallowed hnow⟩
  | drift hcourse hstore hnow ih =>
      rcases ih with hholds | ⟨m, act', hbefore, hallowed', hnow', hP, hbehind⟩
      · exact .inl (hstore ▸ hholds)
      · exact .inr ⟨m, act', hbefore, hallowed', hnow', hP, .drift hbehind hstore hnow⟩

end Course

/-! ## Extensions -/

/-- The act moves the end of the delegation, which is not over and which the actor gave, or which
the actor manages along with all members. -/
structure Delegation.ProlongedBy (d : Delegation) (m : Snapshot) (act : Act) : Prop where
  organization : act.actor.organization = d.organization
  before : m.now < d.endsAt
  allowed : d.delegator = act.actor.user ∨
    (m.state.rules act.setting d.organization act.actor.user).permits .manage
      (.ofType .membership) = true
  later : ∃ endsAt, act.operation = .extendDelegation d.id endsAt ∧ d.endsAt < endsAt ∧
    (act.after m.state).store.delegations.find? d.id = some { d with endsAt }

/-- The act moves the end of the override, which is not over and which the actor manages. -/
structure Override.ProlongedBy (o : Override) (m : Snapshot) (act : Act) : Prop where
  organization : act.actor.organization = o.organization
  before : ∃ t, o.expiresAt = some t ∧ m.now < t
  allowed : (m.state.rules act.setting o.organization act.actor.user).permits .manage
    (managedOn m.state act.actor o) = true
  later : ∃ expiresAt, act.operation = .extendOverride o.id expiresAt ∧
    (∀ t, o.expiresAt = some t → t < expiresAt) ∧
    (act.after m.state).store.overrides.find? o.id = some { o with expiresAt := some expiresAt }

/-- The delegation is stored as it is, or it has been revoked. -/
def Store.KeepsDelegation (s : Store) (d : Delegation) : Prop :=
  ∃ e, s.delegations.find? d.id = some e ∧ (e = d ∨ e.active = false)

/-- The override is stored as it is, or it has been revoked. -/
def Store.KeepsOverride (s : Store) (o : Override) : Prop :=
  ∃ p, s.overrides.find? o.id = some p ∧ (p = o ∨ p.revokedAt.isSome = true)

section Extensions

variable {m : Snapshot} {act : Act}

theorem Act.keepsDelegation_or_prolongedBy {d : Delegation} (hnow : act.setting.now = m.now)
    (h : m.state.store.KeepsDelegation d) :
    (act.after m.state).store.KeepsDelegation d ∨ d.ProlongedBy m act := by
  obtain ⟨e, he, hkept⟩ := h
  obtain ⟨f, hf, hstep⟩ := act.exists_delegation_step he
  cases hstep with
  | kept => exact .inl ⟨e, hf, hkept⟩
  | revoked _ _ hrevoked =>
      obtain ⟨-, -, rfl⟩ := Delegation.revoke_eq_ok_iff.mp hrevoked
      exact .inl ⟨_, hf, .inr rfl⟩
  | extended hoperation hmanaged hextended =>
      -- One that was revoked cannot be extended, so this one is as it was.
      obtain ⟨hactive, hopen, hlater, rfl⟩ := Delegation.extend_eq_ok_iff.mp hextended
      rcases hkept with rfl | hrevoked
      · have horganization := (Store.findDelegation_eq_some.mp hmanaged.found).2.2
        refine .inr ⟨horganization.symm, hnow ▸ hopen, ?_, _, hoperation, hlater, hf⟩
        exact horganization ▸ hmanaged.managed
      · cases hactive.symm.trans hrevoked

theorem Act.keepsOverride_or_prolongedBy {o : Override} (hnow : act.setting.now = m.now)
    (h : m.state.store.KeepsOverride o) :
    (act.after m.state).store.KeepsOverride o ∨ o.ProlongedBy m act := by
  obtain ⟨p, hp, hkept⟩ := h
  obtain ⟨q, hq, hstep⟩ := act.exists_override_step hp
  cases hstep with
  | kept => exact .inl ⟨p, hq, hkept⟩
  | revoked _ _ hrevoked =>
      obtain ⟨-, rfl⟩ := Override.revoke_eq_ok_iff.mp hrevoked
      exact .inl ⟨_, hq, .inr rfl⟩
  | extended hoperation hmanaged hextended =>
      obtain ⟨hunrevoked, t, hend, hopen, hlater, rfl⟩ := Override.extend_eq_ok_iff.mp hextended
      rcases hkept with rfl | hrevoked
      · have horganization := (Store.findOverride_eq_some.mp hmanaged.found).2.2
        refine .inr ⟨horganization.symm, ⟨t, hend, hnow ▸ hopen⟩, ?_, _, hoperation, ?_, hq⟩
        · exact horganization ▸ hmanaged.managed
        · intro t' ht'
          obtain rfl : t = t' := Option.some.inj (hend.symm.trans ht')
          exact hlater
      · rw [hunrevoked] at hrevoked
        cases hrevoked

end Extensions

/-! ## Whole courses -/

section Prolonged

variable {allowed : Snapshot → Act → Prop} {b c : Snapshot}

/-- A delegation is in force behind the end that it had only if it was extended before that. -/
theorem Course.delegation_prolonged (h : Course allowed b c) {d e : Delegation}
    (hd : d ∈ b.state.store.delegations.rows) (hover : d.endsAt ≤ c.now)
    (he : c.state.store.delegations.find? d.id = some e) (hactive : e.isActiveAt c.now = true) :
    Passes allowed d.ProlongedBy b c := by
  have hbegin : b.state.store.KeepsDelegation d := ⟨d, Table.find?_key hd, .inl rfl⟩
  rcases h.preserves_or_passes (I := fun store => store.KeepsDelegation d) hbegin
      fun m act _ hnow => Act.keepsDelegation_or_prolongedBy hnow with hkept | hpassed
  · obtain ⟨e', he', hsame⟩ := hkept
    obtain rfl : e' = e := Option.some.inj (he'.symm.trans he)
    obtain ⟨hunrevoked, -, hopen⟩ := Delegation.isActiveAt_iff.mp hactive
    rcases hsame with rfl | hrevoked
    · exact absurd hover (Instant.not_le.mpr hopen)
    · cases hunrevoked.symm.trans hrevoked
  · exact hpassed

/-- An override is in force behind the end that it had only if it was extended before that. -/
theorem Course.override_prolonged (h : Course allowed b c) {o p : Override}
    (ho : o ∈ b.state.store.overrides.rows) {t : Instant} (hend : o.expiresAt = some t)
    (hover : t ≤ c.now) (hp : c.state.store.overrides.find? o.id = some p)
    (hactive : p.isActiveAt c.now = true) : Passes allowed o.ProlongedBy b c := by
  have hbegin : b.state.store.KeepsOverride o := ⟨o, Table.find?_key ho, .inl rfl⟩
  rcases h.preserves_or_passes (I := fun store => store.KeepsOverride o) hbegin
      fun m act _ hnow => Act.keepsOverride_or_prolongedBy hnow with hkept | hpassed
  · obtain ⟨p', hp', hsame⟩ := hkept
    obtain rfl : p' = p := Option.some.inj (hp'.symm.trans hp)
    obtain ⟨hunrevoked, hopen⟩ := Override.isActiveAt_iff.mp hactive
    rcases hsame with rfl | hrevoked
    · exact absurd hover (Instant.not_le.mpr (hopen t hend))
    · rw [hunrevoked] at hrevoked
      cases hrevoked
  · exact hpassed

end Prolonged

/-- Nobody else acts. -/
def Alone (user : UserId) : Snapshot → Act → Prop := fun _ act => act.actor.user = user

/-- Where only one user acts, a delegation or an override is in force at or behind the end that it
had only if the user managed it on the way, before that end, and extended it. -/
theorem Course.prolonged_of_isActiveAt {user : UserId} {b c : Snapshot}
    (h : Course (Alone user) b c) :
    (∀ d ∈ b.state.store.delegations.rows, d.endsAt ≤ c.now →
      ∀ e, c.state.store.delegations.find? d.id = some e → e.isActiveAt c.now = true →
        Passes (Alone user) d.ProlongedBy b c) ∧
      ∀ o ∈ b.state.store.overrides.rows, ∀ t, o.expiresAt = some t → t ≤ c.now →
        ∀ p, c.state.store.overrides.find? o.id = some p → p.isActiveAt c.now = true →
          Passes (Alone user) o.ProlongedBy b c :=
  ⟨fun _ hd hover _ he hactive => h.delegation_prolonged hd hover he hactive,
    fun _ ho _ hend hover _ hp hactive => h.override_prolonged ho hend hover hp hactive⟩

/-! ## A viewer with the administrators' role -/

namespace Sample

/-- The owner hands the administrators' role over to the viewer, up to time 1. -/
def adminLoan : Delegation :=
  (received 1 viewer (LegacyRole.admin.toRole (roleId .admin) organization)).delegation

/-- The viewer has it at time 0. -/
def lending : Snapshot := ⟨{ backend with store := store.putDelegation adminLoan }, ⟨0⟩⟩

/-- The viewer, who manages all members by that role, moves the end to time 2. -/
def prolonging : Act where
  setting := { now := ⟨0⟩ }
  actor := actor viewer
  operation := .extendDelegation adminLoan.id ⟨2⟩

/-- Time goes by up to the end that the delegation had. -/
def prolonged : Snapshot := ⟨(lending.after prolonging).state, ⟨1⟩⟩

theorem course_prolonged : Course (Alone viewer) lending prolonged :=
  .drift (.act prolonging (.refl lending) rfl rfl) rfl (by decide)

theorem find?_prolonged : prolonged.state.store.delegations.find? adminLoan.id =
    some { adminLoan with endsAt := ⟨2⟩ } := by
  decide +kernel

end Sample

open Sample

/-- The viewer prolongs a delegation by the authority that it gives. -/
theorem viewer_prolongs_admin_loan :
    Course (Alone viewer) lending prolonged ∧ adminLoan ∈ lending.state.store.delegations.rows ∧
      adminLoan.delegatee = viewer ∧ adminLoan.endsAt ≤ prolonged.now ∧
      ∃ e, prolonged.state.store.delegations.find? adminLoan.id = some e ∧
        e.isActiveAt prolonged.now = true :=
  ⟨course_prolonged, by decide, rfl, by decide, _, find?_prolonged, by decide⟩

/-- On the way the viewer has extended the delegation as one who manages all members. -/
theorem viewer_has_prolonged_admin_loan :
    Course (Alone viewer) lending prolonged ∧
      Passes (Alone viewer) adminLoan.ProlongedBy lending prolonged := by
  obtain ⟨hdelegations, -⟩ := course_prolonged.prolonged_of_isActiveAt
  exact ⟨course_prolonged,
    hdelegations adminLoan (by decide) (by decide) _ find?_prolonged (by decide)⟩

end AccessControl
