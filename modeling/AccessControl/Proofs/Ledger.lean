import AccessControl.Proofs.DelegationBound
import AccessControl.Proofs.Issuance

/-!
# The ledger of delegations and overrides

Records by which authority is handed out are entered once and never struck out.  `Sound` says what
holds of every entry that the operations make, and `Continues` what may become of one while an
operation is carried out: the end moves to a later time while the record is in force, or the record
is revoked, and nothing is done to it any more once it has been.

A record is idle at a time at which it makes no rule for anybody, whatever else is stored.  From
empty ledgers on every run keeps their entries sound, every operation continues them, and those that
have been revoked stay as they are and are idle at all times (`Run.delegation_ledger`,
`Run.override_ledger`).
-/

namespace AccessControl

open Administration

/-! ## Records that make no rules -/

/-- Rule sets depend on the sources by what the layers of a member are made of. -/
theorem resolve_congr {user : Option UserId} {organization : OrganizationId}
    {sources sources' : GrantSources} {now : Instant}
    (hmembership : sources'.membership = sources.membership)
    (hrole : sources'.role = sources.role) (hteams : sources'.teams = sources.teams)
    (hrules : ∀ (b : Bearer) (role : BaseRole),
      memberRules b role sources' now = memberRules b role sources now) :
    resolve user organization sources' now = resolve user organization sources now := by
  cases user with
  | none => rfl
  | some user =>
      have hbase : sources'.baseRole? user organization = sources.baseRole? user organization := by
        rw [GrantSources.baseRole?, GrantSources.baseRole?, hmembership, hrole]
      rw [resolve, resolve, hbase, hteams]
      simp only [hrules]

/-- The delegation makes no rule at the time, for whomever and wherever it is listed. -/
def Delegation.IsIdle (d : Delegation) (now : Instant) : Prop :=
  ∀ (user : Option UserId) (organization : OrganizationId) (sources : GrantSources)
    (before behind : List DelegatedAccess) (role : Option Role),
    resolve user organization { sources with delegations := before ++ ⟨d, role⟩ :: behind } now =
      resolve user organization { sources with delegations := before ++ behind } now

/-- The override makes no rule at the time, for whomever and wherever it is listed. -/
def Override.IsIdle (o : Override) (now : Instant) : Prop :=
  ∀ (user : Option UserId) (organization : OrganizationId) (sources : GrantSources)
    (before behind : List Override),
    resolve user organization { sources with overrides := before ++ o :: behind } now =
      resolve user organization { sources with overrides := before ++ behind } now

theorem Delegation.isIdle_of_not_active {d : Delegation} {now : Instant}
    (h : d.isActiveAt now = false) : d.IsIdle now := by
  intro user organization sources before behind role
  refine resolve_congr rfl rfl rfl fun b base => ?_
  have hnot : b.receives now ⟨d, role⟩ = false := by simp [Bearer.receives, h]
  rw [Bearer.memberRules_eq, Bearer.memberRules_eq, Bearer.delegationsInForce_of_not hnot]

theorem Override.isIdle_of_not_active {o : Override} {now : Instant}
    (h : o.isActiveAt now = false) : o.IsIdle now := by
  intro user organization sources before behind
  refine resolve_congr rfl rfl rfl fun b base => ?_
  have hnot : b.isExcepted now o = false := by simp [Bearer.isExcepted, h]
  have hlayer : b.overrideLayer now (before ++ o :: behind) =
      b.overrideLayer now (before ++ behind) := by
    simp [Bearer.overrideLayer, Bearer.overridesInForce, hnot]
  rw [Bearer.memberRules_eq, Bearer.memberRules_eq, hlayer]

/-! ## Delegations -/

/-- What holds of every delegation that is made. -/
structure Delegation.Sound (d : Delegation) : Prop where
  span : d.startsAt < d.endsAt
  parties : d.delegator ≠ d.delegatee
  share : (∃ id, d.role = some id) ∧ d.permissions = [] ∨
    d.role = none ∧ d.permissions ≠ [] ∧ ∀ names ∈ d.permissions, names.resolve?.isSome = true
  revocation : d.active = false ↔ d.revokedAt.isSome = true

/-- What an operation at the time may make of a delegation: only its end and the marks of its
revocation may become different, and of one that is over not even these. -/
structure Delegation.Continues (now : Instant) (d e : Delegation) : Prop where
  same : e = { d with endsAt := e.endsAt, active := e.active, revokedAt := e.revokedAt }
  later : d.endsAt ≤ e.endsAt
  final : d.status now = .revoked ∨ d.status now = .expired → e = d

namespace Delegation

variable {d e : Delegation} {now : Instant}

theorem not_over_of_open (hactive : d.active = true) (hopen : now < d.endsAt) :
    ¬(d.status now = .revoked ∨ d.status now = .expired) := by
  rcases status_open_iff.mpr ⟨hactive, hopen⟩ with hstatus | hstatus <;> simp [hstatus]

theorem isIdle_of_revoked (h : d.active = false) (now : Instant) : d.IsIdle now := by
  refine isIdle_of_not_active (Bool.not_eq_true _ ▸ fun hactive => ?_)
  cases (isActiveAt_iff.mp hactive).1.symm.trans h

theorem sound_of_create {id : DelegationId} {draft : Draft} (h : create id draft now = .ok d) :
    d.Sound := by
  obtain ⟨hparties, hspan, hshare⟩ := shared_of_create h
  have hmade := eq_of_create h
  refine ⟨?_, ?_, ?_, ?_⟩
  · rw [hmade]
    exact hspan
  · rw [hmade]
    exact hparties
  · cases hdrawn : draft.share with
    | role id priority =>
        rw [hdrawn, Share.check_role] at hshare
        obtain ⟨hrole, hpermissions⟩ := Prod.mk.inj hshare.2
        exact .inl ⟨⟨id, hrole⟩, hpermissions⟩
    | permissions names =>
        rw [hdrawn, Share.check_permissions_eq_ok_iff] at hshare
        obtain ⟨hsome, hknown, hshared⟩ := hshare
        obtain ⟨hrole, hpermissions⟩ := Prod.mk.inj hshared
        rw [hpermissions]
        exact .inr ⟨hrole, hsome, hknown⟩
  · rw [hmade]
    simp

namespace Step

variable {b : Backend} {act : Act}

theorem sound (h : d.Step b act e) (hd : d.Sound) : e.Sound := by
  cases h with
  | kept => exact hd
  | revoked _ _ hrevoked =>
      rw [eq_of_revoke hrevoked]
      exact { hd with revocation := by simp }
  | extended _ _ hextended =>
      obtain ⟨-, -, hlater, rfl⟩ := extend_eq_ok_iff.mp hextended
      exact { hd with span := Int.lt_trans hd.span hlater }

theorem continues (h : d.Step b act e) : d.Continues act.setting.now e := by
  cases h with
  | kept => exact ⟨rfl, Int.le_refl _, fun _ => rfl⟩
  | revoked _ _ hrevoked =>
      obtain ⟨hactive, hopen, rfl⟩ := revoke_eq_ok_iff.mp hrevoked
      exact ⟨rfl, Int.le_refl _, fun hover => absurd hover (not_over_of_open hactive hopen)⟩
  | extended _ _ hextended =>
      obtain ⟨hactive, hopen, hlater, rfl⟩ := extend_eq_ok_iff.mp hextended
      exact ⟨rfl, Int.le_of_lt hlater, fun hover => absurd hover (not_over_of_open hactive hopen)⟩

end Step

end Delegation

section Acts

variable {b : Backend} {d : Delegation} (act : Act)

/-- A stored delegation is continued by every act. -/
theorem Act.exists_continued_delegation (hd : d ∈ b.store.delegations.rows) :
    ∃ e ∈ (act.after b).store.delegations.rows, d.Continues act.setting.now e := by
  obtain ⟨e, he, hstep⟩ := act.exists_delegation_step (Table.find?_key hd)
  exact ⟨e, Table.mem_of_find? he, hstep.continues⟩

/-- A revoked delegation stays as it is. -/
theorem Act.keeps_revoked_delegation (hrevoked : d.active = false)
    (hd : d ∈ b.store.delegations.rows) : d ∈ (act.after b).store.delegations.rows := by
  obtain ⟨e, he, hcontinued⟩ := act.exists_continued_delegation hd
  have hstatus : d.status act.setting.now = .revoked := by simp [Delegation.status, hrevoked]
  exact hcontinued.final (.inl hstatus) ▸ he

theorem Act.delegations_sound (h : ∀ d ∈ b.store.delegations.rows, d.Sound) :
    ∀ e ∈ (act.after b).store.delegations.rows, e.Sound := by
  intro e he
  rcases act.delegation_stored_or_created (Table.find?_key he) with
    ⟨d, hd, hstep⟩ | ⟨request, -, hcreated⟩
  · exact hstep.sound (h d (Table.mem_of_find? hd))
  · obtain ⟨own, share, -, -, hmade⟩ := hcreated.drawn
    exact Delegation.sound_of_create hmade

end Acts

/-- From a store without delegations on, every delegation is sound and is continued by every
operation.  One that has been revoked stays as it is in all that follows, and makes no rule at any
time. -/
theorem Run.delegation_ledger {allowed : Backend → Act → Prop} {b c : Backend}
    (h : Run allowed b c) (hbegin : b.store.delegations.rows = []) :
    (∀ d ∈ c.store.delegations.rows, d.Sound) ∧
      (∀ d ∈ c.store.delegations.rows, ∀ act : Act,
        ∃ e ∈ (act.after c).store.delegations.rows, d.Continues act.setting.now e) ∧
      ∀ d ∈ c.store.delegations.rows, d.active = false →
        (∀ e, Run allowed c e → d ∈ e.store.delegations.rows) ∧ ∀ now, d.IsIdle now := by
  refine ⟨?_, fun d hd act => act.exists_continued_delegation hd, fun d hd hrevoked => ⟨?_, ?_⟩⟩
  · refine h.keeps (I := fun store => ∀ d ∈ store.delegations.rows, d.Sound)
      (fun _ act => act.delegations_sound) ?_
    rw [hbegin]
    exact fun d hd => absurd hd List.not_mem_nil
  · exact fun e hlater => hlater.keeps (I := fun store => d ∈ store.delegations.rows)
      (fun _ act => act.keeps_revoked_delegation hrevoked) hd
  · exact fun now => d.isIdle_of_revoked hrevoked now

namespace Sample

/-- The administrator takes the delegation of the administrators' role back at time 1. -/
def retraction : Act where
  setting := { now := ⟨1⟩ }
  actor := actor admin
  operation := .revokeDelegation handedOver.id

/-- What is left of it. -/
def retracted : Delegation := { handedOver with active := false, revokedAt := some ⟨1⟩ }

/-- The owner, whose clock is behind, moves the end of the delegation to a later time. -/
def revival : Act where
  setting := { now := ⟨0⟩ }
  actor := actor owner
  operation := .extendDelegation handedOver.id ⟨5⟩

/-- The small organization once the delegation has been taken back. -/
def afterRetraction : Backend := retraction.after (handover.after opening)

end Sample

open Sample in
/-- A delegation that has been taken back is not extended any more, and makes no rule even at a
time before it was taken back. -/
theorem retracted_delegation_not_revived :
    Run (fun _ _ => True) opening afterRetraction ∧ opening.store.delegations.rows = [] ∧
      retracted ∈ afterRetraction.store.delegations.rows ∧ retracted.active = false ∧
      retracted ∈ (revival.after afterRetraction).store.delegations.rows ∧
      retracted.IsIdle revival.setting.now := by
  have hrun : Run (fun _ _ => True) opening afterRetraction :=
    .act retraction (.act handover (.refl opening) trivial) trivial
  have hstored : retracted ∈ afterRetraction.store.delegations.rows := by decide +kernel
  obtain ⟨-, -, hrevoked⟩ := hrun.delegation_ledger rfl
  obtain ⟨hstays, hidle⟩ := hrevoked retracted hstored rfl
  exact ⟨hrun, rfl, hstored, rfl, hstays _ (.act revival (.refl _) trivial), hidle _⟩

/-! ## Overrides -/

/-- What holds of every override that is granted. -/
structure Override.Sound (o : Override) : Prop where
  permission : ∃ p, o.resolve? = some p ∧ p.isCataloged = true ∧
    o.resourceType = p.resourceType.name
  named : o.resourceId ≠ ""
  trimmed : Text.IsTrimmed o.resourceId
  issuer : ∃ issuer, o.grantedBy = some issuer ∧ issuer ≠ o.user

/-- What an operation at the time may make of an override: only what it gives, its end and the mark
of its revocation may become different.  The end of one that is in force and has an end moves to a
later time, or the override is revoked, which takes back what it gives and ends it.  Nothing is done
to one that was revoked before. -/
structure Override.Continues (now : Instant) (o p : Override) : Prop where
  same : p = { o with granted := p.granted, expiresAt := p.expiresAt, revokedAt := p.revokedAt }
  granted : p.granted ≠ o.granted →
    o.granted = true ∧ p.granted = false ∧ o.revokedAt = none ∧ p.revokedAt = some now
  expiry : p.expiresAt ≠ o.expiresAt →
    (o.isActiveAt now = true ∧ ∃ t t', o.expiresAt = some t ∧ p.expiresAt = some t' ∧ t < t') ∨
      p.expiresAt = some now ∧ o.revokedAt = none ∧ p.revokedAt = some now
  final : o.revokedAt.isSome = true → p = o

namespace Override

variable {o p : Override} {now : Instant}

theorem isIdle_of_revoked (h : o.revokedAt.isSome = true) (now : Instant) : o.IsIdle now := by
  refine isIdle_of_not_active (Bool.not_eq_true _ ▸ fun hactive => ?_)
  rw [(isActiveAt_iff.mp hactive).1] at h
  cases h

theorem sound_of_create {id : OverrideId} {draft : Draft} (h : create id draft now = .ok o)
    {issuer : UserId} (hissuer : draft.grantedBy = some issuer) (hother : draft.user ≠ issuer) :
    o.Sound := by
  obtain ⟨hcataloged, hnamed, -, rfl⟩ := create_eq_ok_iff.mp h
  refine ⟨⟨draft.permission, resolve?_of_create h, hcataloged, rfl⟩, ?_, Text.isTrimmed_trim _,
    issuer, hissuer, hother.symm⟩
  intro hempty
  rw [show Text.trim draft.resourceId = "" from hempty] at hnamed
  cases hnamed

namespace Step

variable {b : Backend} {act : Act}

theorem sound (h : o.Step b act p) (ho : o.Sound) : p.Sound := by
  cases h with
  | kept => exact ho
  | revoked _ _ hrevoked =>
      rw [eq_of_revoke hrevoked]
      exact ⟨ho.permission, ho.named, ho.trimmed, ho.issuer⟩
  | extended _ _ hextended =>
      rw [eq_of_extend hextended]
      exact ⟨ho.permission, ho.named, ho.trimmed, ho.issuer⟩

theorem continues (h : o.Step b act p) : o.Continues act.setting.now p := by
  cases h with
  | kept => exact ⟨rfl, fun hne => absurd rfl hne, fun hne => absurd rfl hne, fun _ => rfl⟩
  | revoked _ _ hrevoked =>
      obtain ⟨hunrevoked, rfl⟩ := revoke_eq_ok_iff.mp hrevoked
      refine ⟨rfl, fun hne => ⟨?_, rfl, hunrevoked, rfl⟩, fun _ => .inr ⟨rfl, hunrevoked, rfl⟩, ?_⟩
      · cases hgranted : o.granted with
        | true => rfl
        | false => exact absurd hgranted.symm hne
      · rw [hunrevoked]
        nofun
  | extended _ _ hextended =>
      have hactive := isActiveAt_of_extend hextended
      obtain ⟨hunrevoked, t, hend, -, hlater, rfl⟩ := extend_eq_ok_iff.mp hextended
      refine ⟨rfl, fun hne => absurd rfl hne, fun _ => .inl ⟨hactive, t, _, hend, rfl, hlater⟩, ?_⟩
      rw [hunrevoked]
      nofun

end Step

end Override

section Acts

variable {b : Backend} {o : Override} (act : Act)

/-- A stored override is continued by every act. -/
theorem Act.exists_continued_override (ho : o ∈ b.store.overrides.rows) :
    ∃ p ∈ (act.after b).store.overrides.rows, o.Continues act.setting.now p := by
  obtain ⟨p, hp, hstep⟩ := act.exists_override_step (Table.find?_key ho)
  exact ⟨p, Table.mem_of_find? hp, hstep.continues⟩

/-- A revoked override stays as it is. -/
theorem Act.keeps_revoked_override (hrevoked : o.revokedAt.isSome = true)
    (ho : o ∈ b.store.overrides.rows) : o ∈ (act.after b).store.overrides.rows := by
  obtain ⟨p, hp, hcontinued⟩ := act.exists_continued_override ho
  exact hcontinued.final hrevoked ▸ hp

theorem Act.overrides_sound (h : ∀ o ∈ b.store.overrides.rows, o.Sound) :
    ∀ p ∈ (act.after b).store.overrides.rows, p.Sound := by
  intro p hp
  rcases act.override_stored_or_created (Table.find?_key hp) with
    ⟨o, ho, hstep⟩ | ⟨request, -, hgranted⟩
  · exact hstep.sound (h o (Table.mem_of_find? ho))
  · obtain ⟨expiresAt, -, hmade⟩ := hgranted.created
    exact Override.sound_of_create hmade rfl hgranted.other

end Acts

/-- From a store without overrides on, every override is sound and is continued by every operation.
One that has been revoked stays as it is in all that follows, and makes no rule at any time. -/
theorem Run.override_ledger {allowed : Backend → Act → Prop} {b c : Backend}
    (h : Run allowed b c) (hbegin : b.store.overrides.rows = []) :
    (∀ o ∈ c.store.overrides.rows, o.Sound) ∧
      (∀ o ∈ c.store.overrides.rows, ∀ act : Act,
        ∃ p ∈ (act.after c).store.overrides.rows, o.Continues act.setting.now p) ∧
      ∀ o ∈ c.store.overrides.rows, o.revokedAt.isSome = true →
        (∀ e, Run allowed c e → o ∈ e.store.overrides.rows) ∧ ∀ now, o.IsIdle now := by
  refine ⟨?_, fun o ho act => act.exists_continued_override ho, fun o ho hrevoked => ⟨?_, ?_⟩⟩
  · refine h.keeps (I := fun store => ∀ o ∈ store.overrides.rows, o.Sound)
      (fun _ act => act.overrides_sound) ?_
    rw [hbegin]
    exact fun o ho => absurd ho List.not_mem_nil
  · exact fun e hlater => hlater.keeps (I := fun store => o ∈ store.overrides.rows)
      (fun _ act => act.keeps_revoked_override hrevoked) ho
  · exact fun now => o.isIdle_of_revoked hrevoked now

namespace Sample

/-- The owner forbids the viewer to see the administrator, up to time 9. -/
def veiling : Act where
  setting := { now := ⟨0⟩ }
  actor := actor owner
  operation := .grantOverride { concealment admin.toString with expiresAt := some ⟨9⟩ }

/-- The owner revokes that at time 1. -/
def unveiling : Act where
  setting := { now := ⟨1⟩ }
  actor := actor owner
  operation := .revokeOverride (backend.nextId .override)

/-- The owner, whose clock is behind, prolongs it. -/
def reveiling : Act where
  setting := { now := ⟨0⟩ }
  actor := actor owner
  operation := .extendOverride (backend.nextId .override) ⟨12⟩

/-- What is left of the override. -/
def unveiled : Override :=
  { concealed admin.toString with expiresAt := some ⟨1⟩, revokedAt := some ⟨1⟩ }

/-- The small organization once it has been revoked. -/
def afterUnveiling : Backend := unveiling.after (veiling.after backend)

end Sample

open Sample in
/-- An override that has been revoked is not prolonged any more, and makes no rule even at a time
before it was revoked. -/
theorem revoked_override_not_prolonged :
    Run (fun _ _ => True) backend afterUnveiling ∧ backend.store.overrides.rows = [] ∧
      unveiled ∈ afterUnveiling.store.overrides.rows ∧ unveiled.revokedAt.isSome = true ∧
      unveiled ∈ (reveiling.after afterUnveiling).store.overrides.rows ∧
      unveiled.IsIdle reveiling.setting.now := by
  have hrun : Run (fun _ _ => True) backend afterUnveiling :=
    .act unveiling (.act veiling (.refl backend) trivial) trivial
  have hstored : unveiled ∈ afterUnveiling.store.overrides.rows := by decide +kernel
  obtain ⟨-, -, hrevoked⟩ := hrun.override_ledger rfl
  obtain ⟨hstays, hidle⟩ := hrevoked unveiled hstored rfl
  exact ⟨hrun, rfl, hstored, rfl, hstays _ (.act reveiling (.refl _) trivial), hidle _⟩

end AccessControl
