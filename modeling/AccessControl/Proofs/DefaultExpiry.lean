import AccessControl.Config
import AccessControl.Proofs.ExtensionAuthority
import AccessControl.Proofs.Levels
import AccessControl.Proofs.OwnerReassignment
import AccessControl.Proofs.RequestIsolation

/-!
# The default end of overrides

An override that is granted without an end gets one by the configuration, so many minutes later.
The minutes have to be positive, and nothing else is asked of them.  A span that is too long to be
stated at all is not loaded, but no fault is reported for it either: loading ends beyond the
calendar (`Config.load_eq_overflow`).  A shorter span may still lead beyond the calendar from the
time of the request, and then granting ends there.  Nothing else in granting an override does
(`Administration.inCalendar_grantOverride`), and those who may grant the override come to it
(`Administration.grantOverride_overflows`).

So no request up to the end of the year 9999 leads beyond the calendar exactly when the minutes are
at most `Instant.safeMinutes` (`Config.stays_in_calendar_iff`).
-/

namespace AccessControl

open Administration Backend Service

/-! ## Spans of time -/

namespace Instant

/-- The first instant of 1970. -/
def epoch : Instant := ofSecond 0 0

/-- The first instant after the year 9999. -/
def farEnd : Instant := ofSecond (daysOfDate 10000 1 1 * 86400) 0

/-- The longest span, in minutes, that leads from no instant before `farEnd` beyond the calendar. -/
def safeMinutes : Int := (horizon.second - farEnd.second) / 60

theorem safeMinutes_eq : safeMinutes = 132614409600 := by decide

/-- From 1970 on whatever is before the horizon is in the calendar. -/
theorem isSupported_ofSecond {second : Int} {nano : Nat} (hsecond : 0 ≤ second)
    (hnano : nano < 1000000000) :
    (ofSecond second nano).isSupported = true ↔ second < horizon.second := by
  have hhorizon : horizon.ticks = horizon.second * 2000000000 := by decide
  have hearliest : earliest.ticks ≤ 0 := by decide
  have hticks : (ofSecond second nano).ticks = second * 2000000000 + nano := rfl
  rw [isSupported, decide_eq_true_eq, le_iff, lt_iff, hhorizon, hticks]
  omega

/-- Whether a later time is in the calendar is a matter of its second. -/
theorem addMinutes?_eq_none_iff {t : Instant} {minutes : Int} (ht : epoch ≤ t)
    (hminutes : 0 < minutes) :
    t.addMinutes? minutes = none ↔ horizon.second ≤ t.second + 60 * minutes := by
  have hsecond : 0 ≤ t.second := by
    have hticks : 0 ≤ t.ticks := ht
    exact Int.ediv_nonneg hticks (by decide)
  have hlater : t.addSeconds (60 * minutes) =
      ofSecond (t.second + 60 * minutes) (t.nano % 1000000000) := by
    have hne : 60 * minutes ≠ 0 := by omega
    have hlt : ¬60 * minutes < 0 := by omega
    simp [addSeconds, hne, hlt]
  have hsupported : (t.addSeconds (60 * minutes)).isSupported = true ↔
      t.second + 60 * minutes < horizon.second := by
    rw [hlater]
    exact isSupported_ofSecond (by omega) (Nat.mod_lt _ (by decide))
  rw [addMinutes?, ← Int.not_lt, ← hsupported]
  simp

/-- A span leads beyond the calendar from no instant between 1970 and 9999 exactly when it is safe.
-/
theorem forall_addMinutes?_ne_none_iff {minutes : Int} (hminutes : 0 < minutes) :
    (∀ t, epoch ≤ t → t < farEnd → t.addMinutes? minutes ≠ none) ↔ minutes ≤ safeMinutes := by
  have hhorizon : horizon.second = 8210266876800 := by decide
  have hfarEnd : farEnd.ticks = 253402300800 * 2000000000 := by decide
  rw [safeMinutes_eq]
  constructor
  · intro h
    -- The last second of 9999 is the one from which the least is left.
    have hlast := h (ofSecond 253402300799 0) (by decide) (by decide)
    rw [Ne, addMinutes?_eq_none_iff (by decide) hminutes, hhorizon] at hlast
    have hsecond : (ofSecond 253402300799 0).second = 253402300799 := by decide
    omega
  · intro hsafe t hepoch hbefore
    rw [Ne, addMinutes?_eq_none_iff hepoch hminutes, hhorizon]
    have hticks : t.ticks < 253402300800 * 2000000000 := hfarEnd ▸ lt_iff.mp hbefore
    rw [second, ticksPerSecond]
    omega

end Instant

/-! ## Programs that stay in the calendar -/

theorem Outcome.ok_ne_error {α : Type} {a : α} {fault : Fault} :
    (.ok a : Outcome α) ≠ .error fault := by
  rintro ⟨⟩

/-- No run of the program ends beyond the calendar, whatever calls are out of order. -/
def InCalendar {α : Type} (p : Service α) : Prop :=
  ∀ b : Backend, (b.run p).1 ≠ .error .calendarOverflow

section InCalendar

variable {α β : Type} {p : Service α} {f : α → Service β} {c : Call}

theorem InCalendar.pure {a : α} : InCalendar (pure a : Service α) := fun _ => Outcome.ok_ne_error

theorem InCalendar.ofOutcome {r : Outcome α} (h : r ≠ .error .calendarOverflow) :
    InCalendar (Program.ofOutcome r : Service α) := fun _ => h

theorem InCalendar.fail {fault : Fault} (h : fault ≠ .calendarOverflow) :
    InCalendar (Program.fail fault : Service α) := fun _ heq => h (Except.error.inj heq)

theorem InCalendar.found {fault : Fault} (h : fault ≠ .calendarOverflow) (o : Option α) :
    InCalendar (found fault o) := by
  cases o with
  | none => exact InCalendar.fail h
  | some a => exact InCalendar.pure

theorem InCalendar.bind (h : InCalendar p) (hf : ∀ a, InCalendar (f a)) :
    InCalendar (p >>= f) := by
  intro b
  rcases hrun : b.run p with ⟨fault | a, d⟩
  · rw [run_bind_error hrun]
    have hfault := h b
    rw [hrun] at hfault
    exact fun heq => hfault (congrArg Except.error (Except.error.inj heq))
  · rw [run_bind_ok hrun]
    exact hf a d

theorem InCalendar.attempt : InCalendar p.attempt := by
  intro b
  have hrun : b.run p.attempt = (.ok (b.run p).1, (b.run p).2) := Program.run_attempt ..
  rw [hrun]
  exact Outcome.ok_ne_error

/-- A call that is out of order is unavailable. -/
theorem inCalendar_ask (h : ∀ b : Backend, (b.serve c).1 ≠ .error .calendarOverflow) :
    InCalendar (ask c) := by
  intro b
  change (b.answer c).1 ≠ _
  rw [Backend.answer]
  cases hout : b.outage? c with
  | none => exact h b
  | some fault =>
      obtain ⟨name, -, rfl⟩ := Option.map_eq_some_iff.mp hout
      rintro ⟨⟩

/-- Most calls are answered unless they are out of order. -/
theorem inCalendar_ask_of_ok (h : ∀ b : Backend, ∃ a, (b.serve c).1 = .ok a) :
    InCalendar (ask c) := by
  refine inCalendar_ask fun b => ?_
  obtain ⟨a, ha⟩ := h b
  rw [ha]
  exact Outcome.ok_ne_error

theorem inCalendar_tell : InCalendar (tell c) := InCalendar.attempt.bind fun _ => InCalendar.pure

end InCalendar

namespace Authorization

variable {s : Setting} {organization : OrganizationId} {user : UserId} {actor : Actor}
  {action : Action} {target : Target}

theorem inCalendar_findRole? (id : Option RoleId) : InCalendar (findRole? organization id) := by
  cases id with
  | none => exact InCalendar.pure
  | some id => exact inCalendar_ask_of_ok fun _ => ⟨_, rfl⟩

theorem inCalendar_withRoles (ds : List Delegation) :
    InCalendar (withRoles organization ds) := by
  induction ds with
  | nil => exact InCalendar.pure
  | cons d ds ih =>
      exact (inCalendar_findRole? d.role).bind fun _ => ih.bind fun _ => InCalendar.pure

theorem inCalendar_sources : InCalendar (sources organization user) := by
  refine InCalendar.bind (inCalendar_ask_of_ok fun _ => ⟨_, rfl⟩) fun m => ?_
  cases m with
  | none => exact InCalendar.pure
  | some m =>
      refine (inCalendar_findRole? _).bind fun _ => ?_
      refine InCalendar.bind (inCalendar_ask_of_ok fun _ => ⟨_, rfl⟩) fun ds => ?_
      refine (inCalendar_withRoles ds).bind fun _ => ?_
      refine InCalendar.bind (inCalendar_ask_of_ok fun _ => ⟨_, rfl⟩) fun _ => ?_
      exact InCalendar.bind (inCalendar_ask_of_ok fun _ => ⟨_, rfl⟩) fun _ => InCalendar.pure

theorem inCalendar_memberRuleSet : InCalendar (memberRuleSet s organization user) := by
  have hremembered : InCalendar (remembered s organization user) := by
    rw [remembered]
    cases s.ttl? with
    | none => exact InCalendar.pure
    | some ttl =>
        refine InCalendar.attempt.bind fun outcome => ?_
        cases outcome <;> exact InCalendar.pure
  have hremember : ∀ rules, InCalendar (remember s organization user rules) := by
    intro rules
    rw [remember]
    cases s.ttl? with
    | none => exact InCalendar.pure
    | some ttl => exact inCalendar_tell
  refine hremembered.bind fun kept => ?_
  cases kept with
  | some rules => exact InCalendar.pure
  | none => exact inCalendar_sources.bind fun _ => (hremember _).bind fun _ => InCalendar.pure

theorem inCalendar_record (now : Instant) (r : AuditRecord) : InCalendar (Audit.record now r) := by
  refine InCalendar.bind (inCalendar_ask_of_ok fun _ => ⟨_, rfl⟩) fun _ => ?_
  refine InCalendar.attempt.bind fun outcome => ?_
  cases outcome <;> exact InCalendar.pure

theorem inCalendar_require : InCalendar (require s actor action target) := by
  refine (inCalendar_memberRuleSet.bind fun _ => InCalendar.pure).bind fun e => ?_
  split
  · exact InCalendar.pure
  · refine InCalendar.bind ?_ fun _ => InCalendar.fail (by rintro ⟨⟩)
    rw [recordDecision]
    split
    · exact (inCalendar_record _ _).bind fun _ => InCalendar.pure
    · exact InCalendar.pure

theorem inCalendar_forgetUser : InCalendar (forgetUser s organization user) := by
  rw [forgetUser]
  cases s.cacheTtl with
  | none => exact InCalendar.pure
  | some _ => exact inCalendar_tell

end Authorization

namespace Administration

variable {s : Setting} {actor : Actor}

theorem inCalendar_membershipResource? (user : UserId) :
    InCalendar (membershipResource? actor user) := by
  refine InCalendar.bind (inCalendar_ask_of_ok fun _ => ⟨_, rfl⟩) fun m => ?_
  cases m with
  | none => exact InCalendar.pure
  | some m =>
      refine InCalendar.bind ?_ fun _ => InCalendar.pure
      refine InCalendar.bind ?_ fun _ => InCalendar.pure
      cases m.role with
      | legacy r => exact InCalendar.pure
      | dynamic id =>
          exact InCalendar.bind (inCalendar_ask_of_ok fun _ => ⟨_, rfl⟩) fun _ => InCalendar.pure

theorem inCalendar_overrideTarget (t : ResourceType) (resourceId : String) :
    InCalendar (overrideTarget actor t resourceId) := by
  rw [overrideTarget]
  split
  · refine (InCalendar.ofOutcome ?_).bind fun user => ?_
    · rw [Id.parse]
      split <;> rintro ⟨⟩
    · refine (inCalendar_membershipResource? user).bind fun resource => ?_
      refine (InCalendar.found ?_ resource).bind fun _ => InCalendar.pure
      rintro ⟨⟩
  · exact InCalendar.pure

theorem inCalendar_requireAll (target : Target) (actions : List Action) :
    InCalendar (requireAll s actor target actions) := by
  induction actions with
  | nil => exact InCalendar.pure
  | cons action rest ih => exact Authorization.inCalendar_require.bind fun _ => ih

theorem inCalendar_requireActiveMember (user : UserId) :
    InCalendar (requireActiveMember actor user) := by
  refine InCalendar.bind (inCalendar_ask_of_ok fun _ => ⟨_, rfl⟩) fun m => ?_
  split
  · exact InCalendar.pure
  · exact InCalendar.fail (by rintro ⟨⟩)

/-- An override whose end is in the calendar is granted or refused. -/
theorem inCalendar_grantOverride {request : OverrideRequest}
    (h : endOf s request.expiresAt ≠ .error .calendarOverflow) :
    InCalendar (grantOverride s actor request) := by
  have hself : (if request.user = actor.user then .error .selfOverride else .ok () : Outcome Unit) ≠
      .error .calendarOverflow := by
    split <;> rintro ⟨⟩
  have hcreate : ∀ id draft, Override.create id draft s.now ≠ .error .calendarOverflow := by
    intro id draft
    rw [Override.create]
    split
    · rintro ⟨⟩
    · dsimp only [bind, Except.bind, pure, Except.pure]
      split
      · rintro ⟨⟩
      · split <;> rintro ⟨⟩
  refine (InCalendar.ofOutcome hself).bind fun _ => ?_
  refine (inCalendar_overrideTarget _ _).bind fun target => ?_
  refine (inCalendar_requireAll target _).bind fun _ => ?_
  refine (inCalendar_requireActiveMember request.user).bind fun _ => ?_
  refine (InCalendar.ofOutcome h).bind fun expiresAt => ?_
  refine InCalendar.bind (inCalendar_ask_of_ok fun _ => ⟨_, rfl⟩) fun id => ?_
  refine (InCalendar.ofOutcome (hcreate id _)).bind fun o => ?_
  refine InCalendar.bind (inCalendar_ask fun b => ?_) fun _ => ?_
  · rw [Backend.serve, Store.createOverride]
    split <;> rintro ⟨⟩
  refine Authorization.inCalendar_forgetUser.bind fun _ => ?_
  refine InCalendar.bind ?_ fun _ => InCalendar.pure
  exact (Authorization.inCalendar_record _ _).bind fun _ => InCalendar.pure

/-! ## Whoever may grant an override comes to its end -/

variable {b c : Backend} {target : Target}

theorem finishes_requireAll (hworking : b.broken = []) (hc : Calm s b c) {actions : List Action}
    (h : ∀ action ∈ actions,
      (b.rules s actor.organization actor.user).permits action target = true) :
    Finishes c (requireAll s actor target actions) fun _ d => Calm s b d := by
  induction actions generalizing c with
  | nil => exact Finishes.pure hc
  | cons action rest ih =>
      obtain ⟨hfirst, hrest⟩ := List.forall_mem_cons.mp h
      exact (Authorization.finishes_require hworking hc hfirst).bind fun _ d hd => ih hd hrest

theorem finishes_requireActiveMember (hworking : b.broken = []) (hc : Calm s b c) {user : UserId}
    (h : Recipient b actor user) :
    Finishes c (requireActiveMember actor user) fun _ d => d = c := by
  obtain ⟨m, hmember, hactive⟩ := h
  have hask : c.run (ask (.findMember actor.organization user)) = (.ok (some m), c) := by
    rw [Authorization.run_ask_of_working (hc.broken.trans hworking), Backend.serve, hc.store,
      hmember]
  refine ⟨(), c, ?_, rfl⟩
  rw [requireActiveMember, run_bind_ok hask, Option.any_some, if_pos hactive]
  rfl

/-- What fails behind steps that succeed fails. -/
theorem error_of_finishes {α β : Type} {p : Service α} {f : α → Service β}
    {Q : α → Backend → Prop} {fault : Fault} (h : Finishes b p Q)
    (hf : ∀ a d, Q a d → (d.run (f a)).1 = .error fault) : (b.run (p >>= f)).1 = .error fault := by
  obtain ⟨a, d, hrun, hQ⟩ := h
  rw [run_bind_ok hrun]
  exact hf a d hQ

/-- Granting an override with an end that is not in the calendar ends beyond it, for those who may
grant the override. -/
theorem grantOverride_overflows {request : OverrideRequest} (hworking : b.broken = [])
    (hother : request.user ≠ actor.user)
    (hissued : IssuedOn b actor request.permission.resourceType (Text.trim request.resourceId)
      target)
    (hheld : ∀ action ∈ Action.manage :: request.permission.coveredActions,
      (b.rules s actor.organization actor.user).permits action target = true)
    (hrecipient : Recipient b actor request.user)
    (hend : endOf s request.expiresAt = .error .calendarOverflow) :
    (b.run (grantOverride s actor request)).1 = .error .calendarOverflow := by
  rw [grantOverride, if_neg hother]
  change (b.run (overrideTarget actor _ _ >>= _)).1 = _
  refine error_of_finishes (finishes_overrideTarget (s := s) hworking .refl hissued)
    fun found c hc => ?_
  obtain ⟨hc, rfl⟩ := hc
  refine error_of_finishes (finishes_requireAll hworking hc hheld) fun _ d hd => ?_
  refine error_of_finishes (finishes_requireActiveMember hworking hd hrecipient) fun _ e _ => ?_
  rw [hend]
  rfl

end Administration

/-! ## What is configured -/

/-- A fault comes from a first step that comes to it, or from behind the step. -/
theorem Outcome.bind_eq_error {α β : Type} {r : Outcome α} {f : α → Outcome β} {fault : Fault}
    (h : r ≠ .error fault) :
    (r >>= f) = .error fault ↔ ∃ a, r = .ok a ∧ f a = .error fault := by
  cases r with
  | ok a => exact ⟨fun hf => ⟨a, rfl, hf⟩, fun ⟨_, heq, hf⟩ => Except.ok.inj heq ▸ hf⟩
  | error other =>
      refine iff_of_false (fun heq => ?_) ?_
      · exact h (congrArg Except.error (Except.error.inj heq))
      · rintro ⟨_, ⟨⟩, -⟩

theorem Outcome.bind_eq_error_of_forall {α β : Type} {r : Outcome α} {f : α → Outcome β}
    {fault : Fault} (h : ∀ a, f a ≠ .error fault) :
    (r >>= f) = .error fault ↔ r = .error fault := by
  cases r with
  | ok a => exact iff_of_false (h a) ok_ne_error
  | error other => exact ⟨fun heq => congrArg Except.error (Except.error.inj heq),
      fun heq => congrArg Except.error (Except.error.inj heq)⟩

namespace Config

variable {env : Environment}

theorem databaseUrlOf_ne_overflow : databaseUrlOf env ≠ .error .calendarOverflow := by
  rw [databaseUrlOf]
  split <;> rintro ⟨⟩

theorem cacheBackendOf_ne_overflow : cacheBackendOf env ≠ .error .calendarOverflow := by
  rw [cacheBackendOf]
  split <;> rintro ⟨⟩

theorem cacheTtlOf_ne_overflow : cacheTtlOf env ≠ .error .calendarOverflow := by
  rw [cacheTtlOf]
  split
  · rintro ⟨⟩
  · split
    · rintro ⟨⟩
    · split <;> rintro ⟨⟩

/-- Behind the minutes nothing leads beyond the calendar. -/
theorem queueCapacityOf_bind_ne_overflow {α : Type} (f : Nat → α) :
    (queueCapacityOf env >>= fun n => pure (f n)) ≠ .error .calendarOverflow := by
  have hcapacity : queueCapacityOf env ≠ .error .calendarOverflow := by
    rw [queueCapacityOf]
    split
    · rintro ⟨⟩
    · split <;> rintro ⟨⟩
  rw [Ne, Outcome.bind_eq_error hcapacity]
  rintro ⟨_, -, ⟨⟩⟩

theorem defaultExpiryOf_eq_overflow :
    defaultExpiryOf env = .error .calendarOverflow ↔
      ∃ s minutes, value? env "RESOURCE_PERMISSION_DEFAULT_EXPIRY_MINUTES" = some s ∧
        Text.positive? s = some minutes ∧ Instant.maxMinutes < minutes := by
  rw [defaultExpiryOf]
  constructor
  · intro h
    split at h
    · cases h
    · rename_i s hs
      split at h
      · cases h
      · rename_i minutes hminutes
        split at h
        · exact ⟨s, minutes, hs, hminutes, by assumption⟩
        · cases h
  · rintro ⟨s, minutes, hs, hminutes, hlong⟩
    simp only [hs, hminutes, if_pos hlong]

/-- The minutes that are configured are positive. -/
theorem pos_of_defaultExpiryOf {minutes : Nat} (h : defaultExpiryOf env = .ok (some minutes)) :
    0 < minutes := by
  rw [defaultExpiryOf] at h
  split at h
  · cases h
  · split at h
    · cases h
    · rename_i hpositive
      split at h
      · cases h
      · obtain rfl := Option.some.inj (Except.ok.inj h)
        rw [Text.positive?] at hpositive
        split at hpositive
        · split at hpositive
          · obtain rfl := Option.some.inj hpositive
            assumption
          · cases hpositive
        · cases hpositive

/-- Loading ends beyond the calendar where the minutes are positive and too many to be a span, and
all that is looked at before makes sense. -/
theorem load_eq_overflow {migrateOnly : Bool} :
    load migrateOnly env = .error .calendarOverflow ↔
      ∃ url cache ttl, databaseUrlOf env = .ok url ∧ cacheBackendOf env = .ok cache ∧
        cacheTtlOf env = .ok ttl ∧
        ∃ s minutes, value? env "RESOURCE_PERMISSION_DEFAULT_EXPIRY_MINUTES" = some s ∧
          Text.positive? s = some minutes ∧ Instant.maxMinutes < minutes := by
  rw [← defaultExpiryOf_eq_overflow]
  constructor
  · intro h
    obtain ⟨url, hurl, h⟩ := (Outcome.bind_eq_error databaseUrlOf_ne_overflow).mp h
    obtain ⟨cache, hcache, h⟩ := (Outcome.bind_eq_error cacheBackendOf_ne_overflow).mp h
    obtain ⟨ttl, httl, h⟩ := (Outcome.bind_eq_error cacheTtlOf_ne_overflow).mp h
    refine ⟨url, cache, ttl, hurl, hcache, httl, ?_⟩
    exact (Outcome.bind_eq_error_of_forall fun _ => queueCapacityOf_bind_ne_overflow _).mp h
  · rintro ⟨url, cache, ttl, hurl, hcache, httl, hexpiry⟩
    refine (Outcome.bind_eq_error databaseUrlOf_ne_overflow).mpr ⟨url, hurl, ?_⟩
    refine (Outcome.bind_eq_error cacheBackendOf_ne_overflow).mpr ⟨cache, hcache, ?_⟩
    refine (Outcome.bind_eq_error cacheTtlOf_ne_overflow).mpr ⟨ttl, httl, ?_⟩
    exact (Outcome.bind_eq_error_of_forall fun _ => queueCapacityOf_bind_ne_overflow _).mpr hexpiry

theorem defaultExpiryOf_of_load {migrateOnly : Bool} {config : Config}
    (h : load migrateOnly env = .ok config) : defaultExpiryOf env = .ok config.defaultExpiry := by
  obtain ⟨_, -, h⟩ := Outcome.exists_of_bind h
  obtain ⟨_, -, h⟩ := Outcome.exists_of_bind h
  obtain ⟨_, -, h⟩ := Outcome.exists_of_bind h
  obtain ⟨_, hexpiry, h⟩ := Outcome.exists_of_bind h
  obtain ⟨_, -, h⟩ := Outcome.exists_of_bind h
  obtain rfl := Except.ok.inj h
  exact hexpiry

/-- An override that is granted without an end has none in the calendar exactly when the configured
minutes lead beyond it. -/
theorem endOf_none_eq_overflow {config : Config} {now : Instant} :
    endOf (config.setting now) none = .error .calendarOverflow ↔
      ∃ minutes : Nat, config.defaultExpiry = some minutes ∧ now.addMinutes? minutes = none := by
  have hdefault : (config.setting now).defaultExpiry = config.defaultExpiry.map Int.ofNat := rfl
  rw [endOf, defaultEnd, hdefault]
  cases config.defaultExpiry with
  | none => simp
  | some minutes =>
      have hnow : (config.setting now).now.addMinutes? (Int.ofNat minutes) =
          now.addMinutes? minutes := rfl
      rw [Option.map_some]
      simp only [hnow, Option.some.injEq, exists_eq_left']
      cases now.addMinutes? minutes <;> simp

end Config

/-! ## Whom it happens to -/

namespace Sample

/-- The owner lets the viewer see a task, and names no end. -/
def openAccess : OverrideRequest where
  user := viewer
  permission := ⟨.task, .read⟩
  resourceId := "7"
  granted := true
  expiresAt := none

/-- All that is stored about the owner is the membership. -/
def membershipOfOwner : GrantSources := { membership := some (memberAs owner (.legacy .owner)) }

/-- Nothing is remembered about the owner. -/
theorem rules_owner (s : Setting) : backend.rules s organization owner =
    resolve (some owner) organization membershipOfOwner s.now := by
  have hforgotten : backend.remembered? s organization owner = none := by
    rw [Backend.remembered?]
    split <;> rfl
  have hstore : backend.store = store := rfl
  have hsources : store.sources organization owner = membershipOfOwner := by decide +kernel
  rw [Backend.rules, hforgotten, Option.getD_none, hstore, Store.rules, hsources]

/-- The owner may do everything about the task, at any time and whatever is configured. -/
theorem owner_permitted_task (s : Setting) (action : Action) :
    (backend.rules s organization owner).permits action (.resource (task "7")) = true := by
  have hrole : membershipOfOwner.baseRole? owner organization = some (.ofLegacy .owner) := rfl
  rw [rules_owner, resolve_of_baseRole? s.now hrole]
  refine (Bearer.permits_iff_of_overridesAbout_eq_nil rfl rfl).mpr ?_
  exact Bearer.verdict?_of_owner (by decide) fun _ haccess => absurd haccess List.not_mem_nil

/-- Where the end of the access is not in the calendar, letting the viewer see the task ends beyond
it. -/
theorem openAccess_overflows {s : Setting} (h : endOf s none = .error .calendarOverflow) :
    (backend.run (grantOverride s (actor owner) openAccess)).1 = .error .calendarOverflow := by
  have hissued : IssuedOn backend (actor owner) .task (Text.trim openAccess.resourceId)
      (.resource (task "7")) := by
    have htrim : Text.trim openAccess.resourceId = "7" := by decide +kernel
    rw [htrim, IssuedOn, if_neg (by decide)]
    rfl
  have hrecipient : Recipient backend (actor owner) openAccess.user :=
    ⟨memberAs viewer (.legacy .viewer), rfl, rfl⟩
  exact grantOverride_overflows rfl (by decide) hissued
    (fun action _ => owner_permitted_task s action) hrecipient h

/-- A database and so many minutes are configured. -/
def minutesSet (minutes : String) : Config.Environment
  | "DATABASE_URL" => some "postgres://localhost/tasklane"
  | "RESOURCE_PERMISSION_DEFAULT_EXPIRY_MINUTES" => some minutes
  | _ => none

/-- What is configured besides is the default. -/
def minutesLoaded (minutes : Nat) : Config where
  migrateOnly := false
  databaseUrl := "postgres://localhost/tasklane"
  host := Config.defaultHost
  port := Config.defaultPort
  redisUrl := none
  cacheBackend := .inMemory
  cacheTtl := Setting.defaultCacheTtl
  defaultExpiry := some minutes
  queueCapacity := Config.defaultQueueCapacity

end Sample

open Sample

namespace Config

/-- Loading ends beyond the calendar for the minutes that are too many to be a span, and for no
other settings.  Requests without an end never lead beyond the calendar, up to the end of the year
9999, exactly when the loaded minutes are safe or there are none. -/
theorem stays_in_calendar_iff (migrateOnly : Bool) (env : Environment) :
    (load migrateOnly env = .error .calendarOverflow ↔
      ∃ url cache ttl, databaseUrlOf env = .ok url ∧ cacheBackendOf env = .ok cache ∧
        cacheTtlOf env = .ok ttl ∧
        ∃ s minutes, value? env "RESOURCE_PERMISSION_DEFAULT_EXPIRY_MINUTES" = some s ∧
          Text.positive? s = some minutes ∧ Instant.maxMinutes < minutes) ∧
    ∀ config, load migrateOnly env = .ok config →
      ((∀ now, Instant.epoch ≤ now → now < Instant.farEnd →
          ∀ (b : Backend) (actor : Actor) (request : OverrideRequest), request.expiresAt = none →
          (b.run (grantOverride (config.setting now) actor request)).1 ≠
            .error .calendarOverflow) ↔
        ∀ minutes, config.defaultExpiry = some minutes →
          (minutes : Int) ≤ Instant.safeMinutes) := by
  refine ⟨load_eq_overflow, fun config hload => ?_⟩
  have hexpiry := defaultExpiryOf_of_load hload
  constructor
  · intro h minutes hminutes
    have hpos := pos_of_defaultExpiryOf (hminutes ▸ hexpiry)
    refine (Instant.forall_addMinutes?_ne_none_iff (by exact_mod_cast hpos)).mp ?_
    intro now hepoch hbefore hnone
    exact h now hepoch hbefore backend (actor owner) openAccess rfl
      (openAccess_overflows (endOf_none_eq_overflow.mpr ⟨minutes, hminutes, hnone⟩))
  · intro h now hepoch hbefore b actor request hrequest
    refine inCalendar_grantOverride ?_ b
    rw [hrequest, Ne, endOf_none_eq_overflow]
    rintro ⟨minutes, hminutes, hnone⟩
    have hpos := pos_of_defaultExpiryOf (hminutes ▸ hexpiry)
    exact (Instant.forall_addMinutes?_ne_none_iff (by exact_mod_cast hpos)).mpr
      (h minutes hminutes) now hepoch hbefore hnone

end Config

/-- With the most minutes that are safe the owner's attempt never leads beyond the calendar. -/
theorem owner_shares_task_for_long :
    Config.load false (minutesSet "132614409600") = .ok (minutesLoaded 132614409600) ∧
      ∀ now, Instant.epoch ≤ now → now < Instant.farEnd →
        (backend.run (grantOverride ((minutesLoaded 132614409600).setting now) (actor owner)
          openAccess)).1 ≠ .error .calendarOverflow := by
  have hload : Config.load false (minutesSet "132614409600") =
      .ok (minutesLoaded 132614409600) := by decide +kernel
  refine ⟨hload, fun now hepoch hbefore => ?_⟩
  refine ((Config.stays_in_calendar_iff false _).2 _ hload).mpr ?_ now hepoch hbefore backend
    (actor owner) openAccess rfl
  intro minutes hminutes
  obtain rfl := Option.some.inj hminutes
  decide

/-- More minutes than make a span end loading beyond the calendar.  Fewer are loaded, and the
owner's attempt ends there, at the beginning of 1970 already. -/
theorem owner_overflows_with_task :
    Config.load false (minutesSet "153722867280913") = .error .calendarOverflow ∧
      Config.load false (minutesSet "153722867280912") = .ok (minutesLoaded 153722867280912) ∧
      (backend.run (grantOverride ((minutesLoaded 153722867280912).setting Instant.epoch)
        (actor owner) openAccess)).1 = .error .calendarOverflow := by
  refine ⟨by decide +kernel, by decide +kernel, openAccess_overflows ?_⟩
  exact Config.endOf_none_eq_overflow.mpr ⟨_, rfl, by decide +kernel⟩

end AccessControl
