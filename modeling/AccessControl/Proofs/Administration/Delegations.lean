import AccessControl.Administration.Delegations
import AccessControl.Proofs.Changes
import AccessControl.Proofs.Inspection
import AccessControl.Proofs.Layers

/-!
# What the operations on delegations check and change

A delegation is made for an active member, and hands over a role that is not above the priority of
the one who makes it, or permissions that this one holds without conditions.  Stored delegations
are changed by those who gave them and by those who manage all members.
-/

namespace AccessControl

namespace Delegation

variable {id : DelegationId} {draft : Draft} {d e : Delegation} {now endsAt : Instant}

theorem Share.check_role {own : RolePriority} {role : RoleId} {priority : RolePriority}
    {shared : Option RoleId × List StoredPermission} :
    Share.check own (.role role priority) = .ok shared ↔
      priority ≤ own ∧ shared = (some role, []) := by
  have hle : priority ≤ own ↔ ¬own < priority := Nat.not_lt.symm
  rw [Share.check, hle]
  by_cases h : own < priority <;> simp [h, eq_comm]

theorem Share.check_permissions_eq_ok_iff {own : RolePriority} {names : List StoredPermission}
    {shared : Option RoleId × List StoredPermission} :
    Share.check own (.permissions names) = .ok shared ↔
      names ≠ [] ∧ (∀ p ∈ names, p.resolve?.isSome = true) ∧ shared = (none, names) := by
  rw [Share.check]
  cases names with
  | nil => simp
  | cons p rest =>
      rw [if_neg (by simp)]
      cases hunknown : (p :: rest).find? fun p => p.resolve?.isNone with
      | some q =>
          have hq : q.resolve? = none := by simpa using List.find?_some hunknown
          refine iff_of_false nofun fun h => ?_
          have hknown := h.2.1 q (List.mem_of_find?_eq_some hunknown)
          rw [hq] at hknown
          cases hknown
      | none =>
          have hknown : ∀ q ∈ p :: rest, q.resolve?.isSome = true := by
            intro q hq
            simpa [Option.isSome_iff_ne_none] using List.find?_eq_none.mp hunknown q hq
          simp only [Except.ok.injEq, eq_comm (b := shared)]
          exact ⟨fun h => ⟨by simp, hknown, h⟩, fun h => h.2.2⟩

theorem Share.check_permissions {own : RolePriority} {names : List StoredPermission}
    {shared : Option RoleId × List StoredPermission}
    (h : Share.check own (.permissions names) = .ok shared) : shared = (none, names) :=
  (check_permissions_eq_ok_iff.mp h).2.2

/-- A delegation is made of a draft when its span is not empty and its share may be handed over. -/
theorem shared_of_create (h : create id draft now = .ok d) :
    draft.delegator ≠ draft.delegatee ∧ draft.startsAt < draft.endsAt ∧
      draft.share.check draft.delegatorPriority = .ok (d.role, d.permissions) := by
  rw [create] at h
  by_cases hself : draft.delegator = draft.delegatee
  · rw [if_pos hself] at h
    cases h
  · by_cases hwindow : draft.endsAt ≤ draft.startsAt
    · rw [if_neg hself, if_pos hwindow] at h
      cases h
    · rw [if_neg hself, if_neg hwindow] at h
      cases hshare : draft.share.check draft.delegatorPriority with
      | error fault =>
          rw [hshare] at h
          cases h
      | ok shared =>
          rw [hshare] at h
          cases h
          exact ⟨hself, Instant.not_le.mp hwindow, rfl⟩

/-- What a new delegation has from its draft. -/
theorem eq_of_create (h : create id draft now = .ok d) :
    d = { id, organization := draft.organization, delegator := draft.delegator,
          delegatee := draft.delegatee, role := d.role, permissions := d.permissions,
          startsAt := draft.startsAt, endsAt := draft.endsAt, active := true, revokedAt := none,
          reason := Text.shown? draft.reason, createdAt := now } := by
  obtain ⟨hself, hwindow, hshare⟩ := shared_of_create h
  rw [create, if_neg hself, if_neg (Instant.not_le.mpr hwindow), hshare] at h
  exact (Except.ok.inj h).symm

/-- A role in a new delegation is the one that its share hands over. -/
theorem exists_share_of_create (h : create id draft now = .ok d) {role : RoleId}
    (hrole : d.role = some role) : ∃ priority, draft.share = .role role priority := by
  obtain ⟨-, -, hshare⟩ := shared_of_create h
  cases hdrawn : draft.share with
  | permissions names =>
      rw [hdrawn] at hshare
      have hnone := congrArg Prod.fst (Share.check_permissions hshare)
      exact absurd (hrole.symm.trans hnone) (by simp)
  | role id' priority =>
      rw [hdrawn] at hshare
      have hsome := congrArg Prod.fst (Share.check_role.mp hshare).2
      obtain rfl : role = id' := Option.some.inj (hrole.symm.trans hsome)
      exact ⟨priority, rfl⟩

theorem status_open_iff :
    d.status now = .scheduled ∨ d.status now = .active ↔ d.active = true ∧ now < d.endsAt := by
  have hend : now < d.endsAt ↔ ¬d.endsAt ≤ now := Instant.not_le.symm
  rw [status, hend]
  cases d.active with
  | false => simp
  | true => by_cases hover : d.endsAt ≤ now <;> by_cases hearly : now < d.startsAt <;> simp [*]

/-- A delegation can be revoked until it is over. -/
theorem revoke_eq_ok_iff :
    d.revoke now = .ok e ↔
      d.active = true ∧ now < d.endsAt ∧ e = { d with active := false, revokedAt := some now } := by
  rw [← and_assoc, ← status_open_iff, revoke]
  cases d.status now <;> simp [eq_comm]

/-- The end of a delegation can be moved to a later time until it is over. -/
theorem extend_eq_ok_iff :
    d.extend endsAt now = .ok e ↔
      d.active = true ∧ now < d.endsAt ∧ d.endsAt < endsAt ∧ e = { d with endsAt } := by
  rw [← and_assoc, ← status_open_iff, extend, ← Instant.not_le]
  cases d.status now <;> by_cases hlater : endsAt ≤ d.endsAt <;> simp [hlater, eq_comm]

theorem eq_of_revoke (h : d.revoke now = .ok e) :
    e = { d with active := false, revokedAt := some now } :=
  (revoke_eq_ok_iff.mp h).2.2

theorem eq_of_extend (h : d.extend endsAt now = .ok e) : e = { d with endsAt } :=
  (extend_eq_ok_iff.mp h).2.2.2

end Delegation

namespace Administration

open Service Backend

variable {s : Setting} {b : Backend} {actor : Actor}

/-- The user can be given something. -/
def Recipient (b : Backend) (actor : Actor) (user : UserId) : Prop :=
  ∃ m, b.store.findMember actor.organization user = some m ∧
    m.isActiveFor user actor.organization = true

/-- The share is what the request hands over, with the priority that its role has now, and
permissions in it are held without conditions. -/
def ShareHeld (b : Backend) (s : Setting) (actor : Actor) (request : DelegationRequest) :
    Delegation.Share → Prop
  | .role id priority => request.role = some id ∧ request.permissions = [] ∧
      ∃ role, b.store.findRole actor.organization id = some role ∧ role.priority = priority
  | .permissions names => request.role = none ∧
      names = request.permissions.map (·.stored) ∧
      ∀ p ∈ request.permissions,
        (b.rules s actor.organization actor.user).grantsUnconditionally p = true

/-- The request with what was found out about the actor. -/
def draftOf (actor : Actor) (request : DelegationRequest) (own : RolePriority)
    (share : Delegation.Share) : Delegation.Draft :=
  { organization := actor.organization, delegator := actor.user, delegatee := request.delegatee,
    delegatorPriority := own, share, startsAt := request.startsAt, endsAt := request.endsAt,
    reason := request.reason }

structure DelegationCreated (b : Backend) (s : Setting) (actor : Actor)
    (request : DelegationRequest) (d : Delegation) (store : Store) : Prop where
  recipient : Recipient b actor request.delegatee
  drawn : ∃ own share, b.store.priority? actor.organization actor.user = some own ∧
    ShareHeld b s actor request share ∧
    Delegation.create (b.nextId .delegation) (draftOf actor request own share) s.now = .ok d
  free : b.store.delegations.find? d.id = none
  store : store = b.store.putDelegation d

/-- A stored delegation that the actor gave, or one of any member to those who manage members. -/
structure DelegationManaged (b : Backend) (s : Setting) (actor : Actor) (id : DelegationId)
    (d : Delegation) : Prop where
  found : b.store.findDelegation actor.organization id = some d
  managed : d.delegator = actor.user ∨
    (b.rules s actor.organization actor.user).permits .manage (.ofType .membership) = true

structure DelegationRevoked (b : Backend) (s : Setting) (actor : Actor) (id : DelegationId)
    (d : Delegation) (store : Store) : Prop where
  stored : ∃ stored, DelegationManaged b s actor id stored ∧ stored.revoke s.now = .ok d
  store : store = b.store.putDelegation d

structure DelegationExtended (b : Backend) (s : Setting) (actor : Actor) (id : DelegationId)
    (endsAt : Instant) (d : Delegation) (store : Store) : Prop where
  stored : ∃ stored, DelegationManaged b s actor id stored ∧ stored.extend endsAt s.now = .ok d
  store : store = b.store.putDelegation d

namespace DelegationCreated

variable {request : DelegationRequest} {d : Delegation} {store : Store}

/-- A role that is handed over is not above the priority of the one who hands it over. -/
theorem of_role (h : DelegationCreated b s actor request d store) {id : RoleId}
    (hrole : request.role = some id) :
    d.role = some id ∧ ∃ role, b.store.findRole actor.organization id = some role ∧
      b.store.Within actor.organization actor.user role.priority := by
  obtain ⟨own, share, hown, hheld, hcreated⟩ := h.drawn
  obtain ⟨-, -, hshare⟩ := Delegation.shared_of_create hcreated
  cases share with
  | permissions names => exact absurd (hrole.symm.trans hheld.1) (by simp)
  | role id' priority =>
      obtain ⟨hid, -, role, hfound, rfl⟩ := hheld
      obtain rfl : id = id' := Option.some.inj (hrole.symm.trans hid)
      obtain ⟨hle, hshared⟩ := Delegation.Share.check_role.mp hshare
      exact ⟨congrArg Prod.fst hshared, role, hfound, own, hown, hle⟩

/-- Permissions that are handed over are held without conditions. -/
theorem of_permissions (h : DelegationCreated b s actor request d store)
    (hrole : request.role = none) :
    d.role = none ∧ d.permissions = request.permissions.map (·.stored) ∧
      ∀ p ∈ request.permissions,
        (b.rules s actor.organization actor.user).grantsUnconditionally p = true := by
  obtain ⟨own, share, -, hheld, hcreated⟩ := h.drawn
  obtain ⟨-, -, hshare⟩ := Delegation.shared_of_create hcreated
  cases share with
  | role id priority => exact absurd (hrole.symm.trans hheld.1) (by simp)
  | permissions names =>
      obtain ⟨-, rfl, hpermissions⟩ := hheld
      have hshared := Delegation.Share.check_permissions hshare
      exact ⟨congrArg Prod.fst hshared, congrArg Prod.snd hshared, hpermissions⟩

/-- A new delegation of permissions decides the checks that these are about, whoever reads it. -/
theorem exists_permission_of_verdict? (h : DelegationCreated b s actor request d store)
    (hrole : request.role = none) {bearer : Bearer} {role : Option Role} {action : Action}
    {target : Target} {effect : Effect}
    (hdecides : verdict? (bearer.delegationRules ⟨d, role⟩) action target = some effect) :
    ∃ p ∈ request.permissions, p.action.covers action = true ∧
      p.resourceType = target.resourceType := by
  obtain ⟨hid, hpermissions, -⟩ := h.of_permissions hrole
  rw [Bearer.delegationRules_of_permissions hid] at hdecides
  obtain ⟨names, hnames, p, hp, hcovers⟩ := Bearer.exists_permission_of_verdict? hdecides
  rw [hpermissions] at hnames
  obtain ⟨q, hq, rfl⟩ := List.mem_map.mp hnames
  obtain rfl : q = p := Option.some.inj ((Permission.resolve?_stored q).symm.trans hp)
  exact ⟨q, hq, hcovers⟩

end DelegationCreated

/-! ## Looking around -/

theorem learns_requireActiveMember (user : UserId) :
    Learns s b (requireActiveMember actor user) fun _ => Recipient b actor user := by
  refine Learns.bind (learns_ask_store (.findMember actor.organization user)
    (·.findMember actor.organization user) fun _ => rfl) fun m hm => ?_
  split
  · rename_i hactive
    cases m with
    | none => cases hactive
    | some m => exact Learns.pure ⟨m, hm.1.symm, hactive⟩
  · exact Learns.fail

theorem held_of_checkHeld {rules : RuleSet} {permissions : List Permission} {u : Unit}
    (h : checkHeld rules permissions = .ok u) :
    ∀ p ∈ permissions, rules.grantsUnconditionally p = true := by
  rw [checkHeld] at h
  split at h
  · cases h
  · rename_i hnone
    simpa using hnone

theorem learns_shareOf (request : DelegationRequest) :
    Learns s b (shareOf s actor request) (ShareHeld b s actor request) := by
  rw [shareOf]
  cases hrole : request.role with
  | some id =>
      simp only []
      split
      · rename_i hpermissions
        refine (learns_findRole actor id).bind fun role hfound => ?_
        exact Learns.pure ⟨hrole, List.isEmpty_iff.mp hpermissions, role, hfound.1, rfl⟩
      · exact Learns.fail
  | none =>
      refine Authorization.learns_memberRuleSet.bind fun rules hrules => ?_
      refine (Learns.ofOutcome _).bind fun _ hheld => ?_
      exact Learns.pure ⟨hrole, rfl, hrules ▸ held_of_checkHeld hheld⟩

theorem learns_managedDelegation (id : DelegationId) :
    Learns s b (managedDelegation s actor id) (DelegationManaged b s actor id) := by
  refine Learns.bind (learns_ask_store (.findDelegation actor.organization id)
    (·.findDelegation actor.organization id) fun _ => rfl) fun _ hanswer => ?_
  refine (Learns.found _ _).bind fun d hfound => ?_
  have hstored := hanswer.1.symm.trans hfound
  split
  · rename_i hgiven
    exact Learns.pure ⟨hstored, .inl hgiven⟩
  · refine (Authorization.learns_require actor .manage _).bind fun _ hmanages => ?_
    exact Learns.pure ⟨hstored, .inr hmanages⟩

/-! ## The operations -/

/-- Behind the change the user's rules are forgotten and the operation is entered into the log. -/
theorem finishes_forgetAndReport {α : Type} {Q : α → Backend → Prop} {user : UserId}
    {r : AuditRecord} {rest : Unit → Service α}
    (hrest : ∀ c, Keeps b c → Finishes c (rest ()) Q) :
    Finishes b (Authorization.forgetUser s actor.organization user >>= fun _ =>
      report s r >>= rest) Q := by
  refine (Authorization.finishes_forgetUser b).bind fun _ c hc => ?_
  exact (finishes_report c s r).bind fun _ d hd => hrest d (hc.trans hd)

theorem ends_createDelegation (request : DelegationRequest) :
    Ends s b (createDelegation s actor request) fun d c =>
      DelegationCreated b s actor request d c.store := by
  refine (learns_ownPriority actor).bind fun own hown => ?_
  refine (learns_shareOf request).bind fun share hshare => ?_
  refine (learns_requireActiveMember request.delegatee).bind fun _ hrecipient => ?_
  refine (learns_newId (by decide)).bind fun id hid => ?_
  subst hid
  refine (Learns.ofOutcome _).bind fun d hcreated => ?_
  refine Ends.bind (ends_change (.createDelegation d) (·.createDelegation d)
    (·.useId .delegation) (fun _ => rfl) fun _ => rfl) fun _ c hc => ?_
  refine finishes_forgetAndReport fun e he => Finishes.pure ?_
  obtain ⟨hfree, hstore⟩ := Store.createDelegation_eq_ok.mp hc.1
  exact ⟨hrecipient, ⟨own, share, hown, hshare, hcreated⟩, hfree, he.store.trans hstore⟩

theorem ends_storeDelegation (d : Delegation) :
    Ends s b (storeDelegation s actor d) fun _ c => c.store = b.store.putDelegation d := by
  refine Ends.bind (ends_change (.saveDelegation d) (·.saveDelegation d) (fun c => c)
    (fun _ => rfl) fun _ => rfl) fun _ c hc => ?_
  refine (Authorization.finishes_forgetUser c).mono fun _ e he => ?_
  exact he.store.trans (Store.saveDelegation_eq_ok.mp hc.1).2

theorem ends_revokeDelegation (id : DelegationId) :
    Ends s b (revokeDelegation s actor id) fun d c =>
      DelegationRevoked b s actor id d c.store := by
  refine (learns_managedDelegation id).bind fun stored hstored => ?_
  refine (Learns.ofOutcome _).bind fun d hrevoked => ?_
  refine (ends_storeDelegation d).bind fun _ c hc => ?_
  refine (finishes_report c s _).bind fun _ e he => Finishes.pure ?_
  exact ⟨⟨stored, hstored, hrevoked⟩, he.store.trans hc⟩

theorem ends_extendDelegation (id : DelegationId) (endsAt : Instant) :
    Ends s b (extendDelegation s actor id endsAt) fun d c =>
      DelegationExtended b s actor id endsAt d c.store := by
  refine (learns_managedDelegation id).bind fun stored hstored => ?_
  refine (Learns.ofOutcome _).bind fun d hextended => ?_
  refine (ends_storeDelegation d).bind fun _ c hc => ?_
  refine (finishes_report c s _).bind fun _ e he => Finishes.pure ?_
  exact ⟨⟨stored, hstored, hextended⟩, he.store.trans hc⟩

theorem ends_listDelegations (f : ListFilter) :
    Ends s b (listDelegations s actor f) fun ds c =>
      (b.rules s actor.organization actor.user).permits .read (.ofType .membership) = true ∧
        ds = (b.store.listDelegations actor.organization f.user).filter
          (fun d => !f.activeOnly || d.isActiveAt s.now) ∧ c.store = b.store := by
  refine (Authorization.learns_require actor .read _).bind fun _ hpermitted => ?_
  refine Learns.bind (learns_ask_store (.listDelegations actor.organization f.user)
    (·.listDelegations actor.organization f.user) fun _ => rfl) fun all hall => ?_
  intro c hc
  exact ⟨hpermitted, by rw [hall.1], hc.store⟩

end Administration

end AccessControl
