import AccessControl.Administration.Overrides
import AccessControl.Proofs.Administration.Delegations

/-!
# What the operations on overrides check and change

An override is granted by one who may manage the resource and may do there all that the override
is about.  A membership is asked about as it is stored, so its identifier has to be readable and
its member has to be there.
-/

namespace AccessControl

namespace Override

variable {id : OverrideId} {draft : Draft} {o changed : Override} {now expiresAt : Instant}

/-- An override is made of a draft when its permission is one of the catalog, its resource is named
and its end is still to come. -/
theorem create_eq_ok_iff :
    create id draft now = .ok o ↔ draft.permission.isCataloged = true ∧
      (Text.trim draft.resourceId).isEmpty = false ∧
      (∀ t, draft.expiresAt = some t → now < t) ∧
      o = { id, organization := draft.organization, user := draft.user,
            permission := draft.permission.stored,
            resourceType := draft.permission.resourceType.name,
            resourceId := Text.trim draft.resourceId, granted := draft.granted,
            expiresAt := draft.expiresAt, revokedAt := none, grantedBy := draft.grantedBy,
            createdAt := now } := by
  have hopen : (∀ t, draft.expiresAt = some t → now < t) ↔
      ¬draft.expiresAt.any (· ≤ now) = true := by
    cases draft.expiresAt <;> simp [← Instant.not_le]
  rw [create, hopen]
  by_cases hcatalog : (!draft.permission.isCataloged) = true
  · rw [if_pos hcatalog]
    refine iff_of_false (fun h => by cases h) ?_
    rintro ⟨hcataloged, -⟩
    rw [hcataloged] at hcatalog
    cases hcatalog
  · by_cases hblank : (Text.trim draft.resourceId).isEmpty = true
    · rw [if_neg hcatalog, if_pos hblank]
      refine iff_of_false (fun h => by cases h) ?_
      rintro ⟨-, hnamed, -⟩
      cases hblank.symm.trans hnamed
    · by_cases hpassed : (draft.expiresAt.any (· ≤ now)) = true
      · rw [if_neg hcatalog, if_neg hblank, if_pos hpassed]
        exact iff_of_false (fun h => by cases h) fun h => h.2.2.1 hpassed
      · rw [if_neg hcatalog, if_neg hblank, if_neg hpassed]
        have hcataloged : draft.permission.isCataloged = true := by simpa using hcatalog
        have hnamed := Bool.not_eq_true _ ▸ hblank
        constructor
        · intro h
          exact ⟨hcataloged, hnamed, hpassed, (Except.ok.inj h).symm⟩
        · rintro ⟨-, -, -, rfl⟩
          rfl

/-- What a new override has from its draft. -/
theorem eq_of_create (h : create id draft now = .ok o) :
    o = { id, organization := draft.organization, user := draft.user,
          permission := draft.permission.stored,
          resourceType := draft.permission.resourceType.name,
          resourceId := Text.trim draft.resourceId, granted := draft.granted,
          expiresAt := draft.expiresAt, revokedAt := none, grantedBy := draft.grantedBy,
          createdAt := now } :=
  (create_eq_ok_iff.mp h).2.2.2

/-- A new override is about the permission of its draft. -/
theorem resolve?_of_create (h : create id draft now = .ok o) :
    o.resolve? = some draft.permission := by
  rw [eq_of_create h]
  simp [resolve?]

theorem resourceId_of_create (h : create id draft now = .ok o) :
    o.resourceId = Text.trim draft.resourceId := by
  rw [eq_of_create h]

theorem isActiveAt_iff :
    o.isActiveAt now = true ↔ o.revokedAt = none ∧ ∀ t, o.expiresAt = some t → now < t := by
  rw [isActiveAt, decide_eq_true_eq, status]
  cases o.revokedAt with
  | some t => simp
  | none => cases o.expiresAt <;> simp [← Instant.not_le]

/-- A new override is in force. -/
theorem isActiveAt_of_create (h : create id draft now = .ok o) : o.isActiveAt now = true := by
  obtain ⟨-, -, hopen, rfl⟩ := create_eq_ok_iff.mp h
  exact isActiveAt_iff.mpr ⟨rfl, hopen⟩

/-- An override can be revoked once. -/
theorem revoke_eq_ok_iff :
    o.revoke now = .ok changed ↔ o.revokedAt = none ∧
      changed = { o with granted := false, expiresAt := some now, revokedAt := some now } := by
  rw [revoke]
  cases o.revokedAt <;> simp [eq_comm]

/-- The end of an active override can be moved to a later time, if it has one. -/
theorem extend_eq_ok_iff :
    o.extend expiresAt now = .ok changed ↔ o.revokedAt = none ∧
      ∃ t, o.expiresAt = some t ∧ now < t ∧ t < expiresAt ∧
        changed = { o with expiresAt := some expiresAt } := by
  have hactive : o.status now = .active ↔
      o.revokedAt = none ∧ ∀ t, o.expiresAt = some t → now < t :=
    decide_eq_true_iff.symm.trans isActiveAt_iff
  rw [extend]
  cases hstatus : o.status now with
  | active =>
      obtain ⟨hrevoked, hopen⟩ := hactive.mp hstatus
      cases hend : o.expiresAt with
      | none => simp
      | some t =>
          have hlater : t < expiresAt ↔ ¬expiresAt ≤ t := Instant.not_le.symm
          by_cases hle : expiresAt ≤ t <;> simp [hrevoked, hopen t hend, hlater, hle, eq_comm]
  | _ =>
      refine iff_of_false nofun ?_
      rintro ⟨hrevoked, t, hend, hopen, -⟩
      have hstill : o.status now = .active := hactive.mpr ⟨hrevoked, by simpa [hend] using hopen⟩
      cases hstill.symm.trans hstatus

theorem eq_of_revoke (h : o.revoke now = .ok changed) :
    changed = { o with granted := false, expiresAt := some now, revokedAt := some now } :=
  (revoke_eq_ok_iff.mp h).2

theorem eq_of_extend (h : o.extend expiresAt now = .ok changed) :
    changed = { o with expiresAt := some expiresAt } := by
  obtain ⟨-, _, -, -, -, hchanged⟩ := extend_eq_ok_iff.mp h
  exact hchanged

/-- What is extended is in force. -/
theorem isActiveAt_of_extend (h : o.extend expiresAt now = .ok changed) :
    o.isActiveAt now = true := by
  obtain ⟨hunrevoked, t, hend, hopen, -⟩ := extend_eq_ok_iff.mp h
  refine isActiveAt_iff.mpr ⟨hunrevoked, fun t' ht' => ?_⟩
  obtain rfl : t = t' := Option.some.inj (hend.symm.trans ht')
  exact hopen

end Override

namespace Administration

open Service Backend

variable {s : Setting} {b : Backend} {actor : Actor}

/-- A user's membership as a resource, if the user is a member. -/
def membershipOf? (b : Backend) (actor : Actor) (user : UserId) : Option Resource :=
  (b.store.findMember actor.organization user).map fun m =>
    b.store.memberResource m actor.organization user

/-- The resource on which an override is granted. -/
def IssuedOn (b : Backend) (actor : Actor) (t : ResourceType) (resourceId : String)
    (target : Target) : Prop :=
  if t = .membership then
    ∃ user resource, Id.parse resourceId = .ok user ∧ membershipOf? b actor user = some resource ∧
      target = .resource resource
  else
    target = .resource { resourceType := t, id := resourceId, organization := actor.organization }

/-- An override whose identifier is that of a user, as it is printed, is on the membership of the
user. -/
theorem exists_of_issuedOn_membership {resourceId : String} {target : Target} {user : UserId}
    (h : IssuedOn b actor .membership (Text.trim resourceId) target)
    (hid : user.toString = Text.trim resourceId) :
    ∃ resource, membershipOf? b actor user = some resource ∧ target = .resource resource := by
  rw [IssuedOn, if_pos rfl] at h
  obtain ⟨user', resource, hparsed, hresource, htarget⟩ := h
  have hread := Id.parse_of_trim ((Text.trim_trim resourceId).trans hid.symm)
  obtain rfl : user = user' := Except.ok.inj (hread.symm.trans hparsed)
  exact ⟨resource, hresource, htarget⟩

/-- The resource on which a stored override has to be managed, which is all members where it
cannot be told. -/
def managedOn (b : Backend) (actor : Actor) (o : Override) : Target :=
  match ResourceType.ofName? o.resourceType with
  | none => .ofType .membership
  | some .membership =>
    match (Id.parse o.resourceId : Outcome UserId) with
    | .error _ => .ofType .membership
    | .ok user => ((membershipOf? b actor user).map .resource).getD (.ofType .membership)
  | some t =>
    .resource { resourceType := t, id := o.resourceId, organization := actor.organization }

structure OverrideGranted (b : Backend) (s : Setting) (actor : Actor) (request : OverrideRequest)
    (o : Override) (store : Store) : Prop where
  other : request.user ≠ actor.user
  held : ∃ target,
    IssuedOn b actor request.permission.resourceType (Text.trim request.resourceId) target ∧
      ∀ action ∈ Action.manage :: request.permission.coveredActions,
        (b.rules s actor.organization actor.user).permits action target = true
  recipient : Recipient b actor request.user
  created : ∃ expiresAt, endOf s request.expiresAt = .ok expiresAt ∧
    Override.create (b.nextId .override)
      { organization := actor.organization, user := request.user,
        permission := request.permission, resourceId := request.resourceId,
        granted := request.granted, expiresAt, grantedBy := some actor.user } s.now = .ok o
  free : b.store.overrides.find? o.id = none
  store : store = b.store.putOverride o

structure OverrideManaged (b : Backend) (s : Setting) (actor : Actor) (id : OverrideId)
    (o : Override) : Prop where
  found : b.store.findOverride actor.organization id = some o
  managed : (b.rules s actor.organization actor.user).permits .manage (managedOn b actor o) = true

structure OverrideRevoked (b : Backend) (s : Setting) (actor : Actor) (id : OverrideId)
    (o : Override) (store : Store) : Prop where
  stored : ∃ stored, OverrideManaged b s actor id stored ∧ stored.revoke s.now = .ok o
  store : store = b.store.putOverride o

structure OverrideExtended (b : Backend) (s : Setting) (actor : Actor) (id : OverrideId)
    (expiresAt : Instant) (o : Override) (store : Store) : Prop where
  stored : ∃ stored, OverrideManaged b s actor id stored ∧ stored.extend expiresAt s.now = .ok o
  store : store = b.store.putOverride o

/-! ## Looking around -/

theorem learns_membershipResource? (user : UserId) :
    Learns s b (membershipResource? actor user) fun r => r = membershipOf? b actor user := by
  refine Learns.bind (learns_ask_store (.findMember actor.organization user)
    (·.findMember actor.organization user) fun _ => rfl) fun m hm => ?_
  cases m with
  | none => exact Learns.pure (by rw [membershipOf?, ← hm.1]; rfl)
  | some m =>
      refine (learns_memberResource actor m user).bind fun resource hresource => ?_
      exact Learns.pure (by rw [membershipOf?, ← hm.1, hresource]; rfl)

theorem learns_overrideTarget (t : ResourceType) (resourceId : String) :
    Learns s b (overrideTarget actor t resourceId) (IssuedOn b actor t resourceId) := by
  rw [overrideTarget]
  split
  · rename_i hmembership
    generalize hparsed : (Id.parse resourceId : Outcome UserId) = parsed
    refine (Learns.ofOutcome parsed).bind fun user huser => ?_
    refine (learns_membershipResource? user).bind fun _ hmember => ?_
    refine (Learns.found _ _).bind fun resource hresource => ?_
    refine Learns.pure ?_
    rw [IssuedOn, if_pos hmembership]
    exact ⟨user, resource, hparsed.trans huser, hmember.symm.trans hresource, rfl⟩
  · rename_i hother
    refine Learns.pure ?_
    rw [IssuedOn, if_neg hother]

theorem learns_requireAll (target : Target) (actions : List Action) :
    Learns s b (requireAll s actor target actions) fun _ => ∀ action ∈ actions,
      (b.rules s actor.organization actor.user).permits action target = true := by
  induction actions with
  | nil => exact Learns.pure (by simp)
  | cons action rest ih =>
      refine (Authorization.learns_require actor action target).bind fun _ hfirst => ?_
      exact ih.mono fun _ hrest => by simpa [hfirst] using hrest

theorem learns_managedTarget (o : Override) :
    Learns s b (managedTarget actor o) fun target => target = managedOn b actor o := by
  rw [managedTarget, managedOn]
  generalize (Id.parse o.resourceId : Outcome UserId) = parsed
  cases ResourceType.ofName? o.resourceType with
  | none => exact Learns.pure rfl
  | some t =>
      cases t with
      | membership =>
          cases parsed with
          | error fault => exact Learns.pure rfl
          | ok user =>
              refine (learns_membershipResource? user).bind fun _ hmember => ?_
              exact Learns.pure (by rw [hmember])
      | _ => exact Learns.pure rfl

theorem learns_managedOverride (id : OverrideId) :
    Learns s b (managedOverride s actor id) (OverrideManaged b s actor id) := by
  refine Learns.bind (learns_ask_store (.findOverride actor.organization id)
    (·.findOverride actor.organization id) fun _ => rfl) fun _ hanswer => ?_
  refine (Learns.found _ _).bind fun o hfound => ?_
  refine (learns_managedTarget o).bind fun target htarget => ?_
  refine (Authorization.learns_require actor .manage target).bind fun _ hmanages => ?_
  exact Learns.pure ⟨hanswer.1.symm.trans hfound, htarget ▸ hmanages⟩

/-! ## The operations -/

theorem ends_grantOverride (request : OverrideRequest) :
    Ends s b (grantOverride s actor request) fun o c =>
      OverrideGranted b s actor request o c.store := by
  refine (Learns.ofOutcome _).bind fun _ hself => ?_
  refine (learns_overrideTarget _ _).bind fun target htarget => ?_
  refine (learns_requireAll target _).bind fun _ hheld => ?_
  refine (learns_requireActiveMember request.user).bind fun _ hrecipient => ?_
  refine (Learns.ofOutcome _).bind fun expiresAt hends => ?_
  refine (learns_newId (by decide)).bind fun id hid => ?_
  subst hid
  refine (Learns.ofOutcome _).bind fun o hcreated => ?_
  refine Ends.bind (ends_change (.createOverride o) (·.createOverride o)
    (·.useId .override) (fun _ => rfl) fun _ => rfl) fun _ c hc => ?_
  refine finishes_forgetAndReport fun e he => Finishes.pure ?_
  obtain ⟨hfree, hstore⟩ := Store.createOverride_eq_ok.mp hc.1
  have hother : request.user ≠ actor.user := by
    intro hsame
    rw [if_pos hsame] at hself
    cases hself
  exact ⟨hother, ⟨target, htarget, hheld⟩, hrecipient, ⟨expiresAt, hends, hcreated⟩, hfree,
    he.store.trans hstore⟩

theorem ends_storeOverride (o : Override) :
    Ends s b (storeOverride s actor o) fun _ c => c.store = b.store.putOverride o := by
  refine Ends.bind (ends_change (.saveOverride o) (·.saveOverride o) (fun c => c)
    (fun _ => rfl) fun _ => rfl) fun _ c hc => ?_
  refine (Authorization.finishes_forgetUser c).mono fun _ e he => ?_
  exact he.store.trans (Store.saveOverride_eq_ok.mp hc.1).2

theorem ends_revokeOverride (id : OverrideId) :
    Ends s b (revokeOverride s actor id) fun o c => OverrideRevoked b s actor id o c.store := by
  refine (learns_managedOverride id).bind fun stored hstored => ?_
  refine (Learns.ofOutcome _).bind fun o hrevoked => ?_
  refine (ends_storeOverride o).bind fun _ c hc => ?_
  refine (finishes_report c s _).bind fun _ e he => Finishes.pure ?_
  exact ⟨⟨stored, hstored, hrevoked⟩, he.store.trans hc⟩

theorem ends_extendOverride (id : OverrideId) (expiresAt : Instant) :
    Ends s b (extendOverride s actor id expiresAt) fun o c =>
      OverrideExtended b s actor id expiresAt o c.store := by
  refine (learns_managedOverride id).bind fun stored hstored => ?_
  refine (Learns.ofOutcome _).bind fun o hextended => ?_
  refine (ends_storeOverride o).bind fun _ c hc => ?_
  refine (finishes_report c s _).bind fun _ e he => Finishes.pure ?_
  exact ⟨⟨stored, hstored, hextended⟩, he.store.trans hc⟩

theorem ends_listOverrides (f : ListFilter) :
    Ends s b (listOverrides s actor f) fun os c =>
      (b.rules s actor.organization actor.user).permits .read (.ofType .membership) = true ∧
        os = (b.store.listOverrides actor.organization f.user).filter
          (fun o => !f.activeOnly || o.isActiveAt s.now) ∧ c.store = b.store := by
  refine (Authorization.learns_require actor .read _).bind fun _ hpermitted => ?_
  refine Learns.bind (learns_ask_store (.listOverrides actor.organization f.user)
    (·.listOverrides actor.organization f.user) fun _ => rfl) fun all hall => ?_
  intro c hc
  exact ⟨hpermitted, by rw [hall.1], hc.store⟩

end Administration

end AccessControl
