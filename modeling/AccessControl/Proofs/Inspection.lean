import AccessControl.Administration.Basic
import AccessControl.Proofs.Execution

/-!
# What the services learn before they decide

Reading a user's sources, asking for the rule set, requiring a permission or a priority: each of
these programs only looks around, and what it learns is what `Proofs.Sources` reads off the store.
A rule set that is remembered on the way is the one that would be resolved again, so the state
stays calm.
-/

namespace AccessControl

namespace RuleCache

theorem get_set_of_ne {organization organization' : OrganizationId} {user user' : UserId}
    (h : (organization', user') ≠ (organization, user)) (c : RuleCache) (rules : RuleSet)
    (ttl : Nat) :
    (c.set organization user rules ttl).get organization' user' = c.get organization' user' := by
  rw [set]
  split
  · rfl
  · have hkey : (organization', user') ≠ CachedRules.key ⟨organization, user, rules⟩ := h
    exact congrArg (Option.map CachedRules.rules) (Table.find?_put_of_ne (t := c.kept) hkey)

end RuleCache

open Service Backend

variable {s : Setting} {b : Backend} {organization : OrganizationId} {user : UserId}

/-! ## The audit log -/

theorem Backend.keeps_appendEntry (b : Backend) (e : AuditEntry) :
    Keeps b (b.answer (.appendEntry e)).2 := by
  have hused : ∀ kind, kind ≠ .auditEntry → (b.useId .auditEntry).used kind = b.used kind := by
    intro kind hkind
    simp [useId, hkind]
  rw [answer]
  split
  · exact .refl
  · change Keeps b (b.appendEntry e).2
    rw [appendEntry]
    split
    · exact ⟨rfl, rfl, hused, rfl⟩
    · split
      · exact ⟨rfl, rfl, hused, rfl⟩
      · exact .refl

theorem Backend.cache_appendEntry (b : Backend) (e : AuditEntry) :
    (b.answer (.appendEntry e)).2.cache = b.cache := by
  rw [answer]
  split
  · rfl
  · change (b.appendEntry e).2.cache = b.cache
    rw [appendEntry]
    split
    · rfl
    · split <;> rfl

/-- An entry that is appended comes last, in the log or in the queue, or it is refused. -/
theorem Backend.entered_appendEntry (b : Backend) (e : AuditEntry) :
    (b.answer (.appendEntry e)).2.entered = b.entered ∨
      (b.answer (.appendEntry e)).2.entered = b.entered ++ [e] := by
  rw [answer]
  split
  · exact .inl rfl
  · change (b.appendEntry e).2.entered = b.entered ∨ (b.appendEntry e).2.entered = b.entered ++ [e]
    rw [appendEntry]
    cases hqueue : b.queue with
    | none =>
        refine .inr ?_
        simp [entered, useId, hqueue, AuditLog.append]
    | some queue =>
        simp only []
        rw [AuditQueue.push]
        split
        · rename_i hpushed
          split at hpushed
          · cases hpushed
          · split at hpushed <;> cases hpushed
            refine .inr ?_
            simp [entered, useId, hqueue]
        · exact .inl rfl

/-- Appending an entry about a denial disturbs nothing. -/
theorem Backend.calm_appendEntry (b : Backend) (s : Setting) {e : AuditEntry}
    (he : e.permitted = false) : Calm s b (b.answer (.appendEntry e)).2 where
  toKeeps := keeps_appendEntry b e
  rules := (keeps_appendEntry b e).rules_eq (cache_appendEntry b e)
  denials := by
    rcases entered_appendEntry b e with hsame | hlast
    · exact ⟨[], by rw [hsame, List.append_nil], by simp⟩
    · exact ⟨[e], hlast, by simpa using he⟩

/-- Entering a record into the log does not fail, and appends at most one entry. -/
theorem Audit.finishes_record (b : Backend) (now : Instant) (r : AuditRecord) :
    Finishes b (Audit.record now r) fun _ c => ∃ e : AuditEntry, e.toAuditRecord = r ∧
      c = (b.answer (.appendEntry e)).2 := by
  have hnew : b.run (ask (.newId .auditEntry)) = (.ok (b.nextId .auditEntry), b) := rfl
  rw [Finishes, Audit.record, run_bind_ok hnew]
  let e : AuditEntry := { r with id := b.nextId .auditEntry, createdAt := now }
  have happend : b.run (ask (.appendEntry e)).attempt =
      (.ok (b.answer (.appendEntry e)).1, (b.answer (.appendEntry e)).2) := rfl
  rw [run_bind_ok happend]
  cases (b.answer (.appendEntry e)).1 with
  | ok _ => exact ⟨some e, _, rfl, e, rfl, rfl⟩
  | error _ => exact ⟨none, _, rfl, e, rfl, rfl⟩

namespace Authorization

/-! ## Sources -/

theorem learns_findRole? (id : Option RoleId) :
    Learns s b (findRole? organization id) fun r =>
      r = id.bind (b.store.findRole organization) := by
  cases id with
  | none => exact Learns.pure rfl
  | some id =>
      exact (learns_ask_store (.findRole organization id)
        (·.findRole organization id) fun _ => rfl).mono fun _ h => h.1

theorem learns_withRoles (ds : List Delegation) :
    Learns s b (withRoles organization ds) fun accesses =>
      accesses = ds.map (b.store.access organization) := by
  induction ds with
  | nil => exact Learns.pure rfl
  | cons d ds ih =>
      refine (learns_findRole? d.role).bind fun role hrole => ?_
      refine ih.bind fun others hothers => ?_
      exact Learns.pure (by rw [hrole, hothers]; rfl)

theorem learns_sources :
    Learns s b (sources organization user) fun x => x = b.store.sources organization user := by
  refine Learns.bind (learns_ask_store (.findMember organization user)
        (·.findMember organization user) fun _ => rfl) fun m hm => ?_
  cases m with
  | none => exact Learns.pure (by rw [Store.sources, ← hm.1])
  | some m =>
      refine (learns_findRole? m.role.roleId?).bind fun role hrole => ?_
      refine Learns.bind (learns_ask_store (.listReceivedDelegations organization user)
        (·.receivedDelegations organization user) fun _ => rfl) fun ds hds => ?_
      refine (learns_withRoles ds).bind fun accesses haccesses => ?_
      refine Learns.bind (learns_ask_store (.listTeams organization user)
        (·.teams organization user) fun _ => rfl) fun teams hteams => ?_
      refine Learns.bind (learns_ask_store (.listReceivedOverrides organization user)
        (·.receivedOverrides organization user) fun _ => rfl) fun overrides hoverrides => ?_
      refine Learns.pure ?_
      rw [Store.sources, ← hm.1, hrole, haccesses, hds.1, hteams.1, hoverrides.1]

theorem learns_effectivePriority :
    Learns s b (effectivePriority organization user) fun p =>
      p = b.store.priority? organization user :=
  learns_sources.bind fun _ hx => Learns.pure (by rw [hx, Store.priority?])

/-! ## Rule sets -/

theorem run_remembered (c : Backend) :
    c.run (remembered s organization user) = (.ok (c.remembered? s organization user), c) := by
  rw [remembered, remembered?]
  cases s.ttl? with
  | none => rfl
  | some ttl =>
      have hask : c.run (ask (.cachedRules organization user)).attempt =
          (.ok (c.answer (.cachedRules organization user)).1,
            (c.answer (.cachedRules organization user)).2) := rfl
      simp only []
      rw [run_bind_ok hask, answer]
      cases c.outage? (.cachedRules organization user) <;> rfl

/-- The state in which a rule set has been remembered. -/
def keep (c : Backend) (organization : OrganizationId) (user : UserId) (rules : RuleSet)
    (ttl : Nat) : Backend :=
  { c with cache := c.cache.set organization user rules ttl }

theorem rules_keep_self (c : Backend) (ttl : Nat) :
    (keep c organization user (c.rules s organization user) ttl).rules s organization user =
      c.rules s organization user := by
  rcases Nat.eq_zero_or_pos ttl with rfl | hpos
  · rfl
  · have hout : (keep c organization user (c.rules s organization user) ttl).outage?
        (.cachedRules organization user) = c.outage? (.cachedRules organization user) := rfl
    have hget : (keep c organization user (c.rules s organization user) ttl).cache.get
        organization user = some (c.rules s organization user) := RuleCache.get_set_self hpos ..
    rw [Backend.rules, remembered?, hout, hget]
    cases httl : s.ttl? with
    | none => simp [keep, Backend.rules, remembered?, httl]
    | some n =>
        cases hcall : c.outage? (.cachedRules organization user) with
        | none => rfl
        | some fault => simp [keep, Backend.rules, remembered?, httl, hcall]

theorem rules_keep_of_ne {organization' : OrganizationId} {user' : UserId}
    (h : (organization', user') ≠ (organization, user)) (c : Backend) (rules : RuleSet)
    (ttl : Nat) :
    (keep c organization user rules ttl).rules s organization' user' =
      c.rules s organization' user' := by
  have hout : (keep c organization user rules ttl).outage? (.cachedRules organization' user') =
      c.outage? (.cachedRules organization' user') := rfl
  have hget : (keep c organization user rules ttl).cache.get organization' user' =
      c.cache.get organization' user' := RuleCache.get_set_of_ne h ..
  rw [Backend.rules, Backend.rules, remembered?, remembered?, hout, hget]
  rfl

/-- A rule set that is remembered as it would be resolved disturbs nothing. -/
theorem calm_keep (c : Backend) (ttl : Nat) :
    Calm s c (keep c organization user (c.rules s organization user) ttl) where
  store := rfl
  mint := rfl
  used _ _ := rfl
  broken := rfl
  rules organization' user' := by
    by_cases hkey : (organization', user') = (organization, user)
    · obtain ⟨rfl, rfl⟩ := Prod.mk.inj hkey
      exact rules_keep_self c ttl
    · exact rules_keep_of_ne hkey c _ ttl
  denials := ⟨[], (List.append_nil _).symm, by simp⟩

theorem finishes_tell (c : Backend) (call : Call) :
    Finishes c (tell call) fun _ d => d = (c.answer call).2 :=
  ⟨(), _, rfl, rfl⟩

theorem finishes_remember (c : Backend) :
    Finishes c (remember s organization user (c.rules s organization user))
      fun _ d => Calm s c d := by
  rw [remember]
  cases s.ttl? with
  | none => exact Finishes.pure .refl
  | some ttl =>
      refine (finishes_tell c _).mono fun _ d hd => ?_
      rw [hd, answer]
      cases c.outage? (.cacheRules organization user (c.rules s organization user) ttl) with
      | none => exact calm_keep c ttl
      | some fault => exact .refl

theorem learns_memberRuleSet :
    Learns s b (memberRuleSet s organization user) fun r => r = b.rules s organization user := by
  intro c hc
  rw [memberRuleSet, run_bind_ok (run_remembered c), ← hc.rules]
  cases hkept : c.remembered? s organization user with
  | some rules => exact ⟨hc, by simp [Backend.rules, hkept]⟩
  | none =>
      have hresolved : c.rules s organization user =
          resolve (some user) organization (c.store.sources organization user) s.now := by
        rw [Backend.rules, hkept]
        rfl
      have hlearns : Learns s c (sources organization user) _ := learns_sources
      have hsources := hlearns c .refl
      rcases hrun : c.run (sources organization user) with ⟨e | x, d⟩ <;>
        simp only [hrun] at hsources
      · rw [run_bind_error hrun]
        exact hc.trans hsources
      · obtain ⟨hd, rfl⟩ := hsources
        rw [run_bind_ok hrun, ← hresolved, ← hd.rules]
        obtain ⟨_, e, hremember, he⟩ :=
          (finishes_remember d : Finishes d (remember s organization user _) _)
        rw [run_bind_ok hremember]
        exact ⟨(hc.trans hd).trans he, rfl⟩

/-! ## Decisions -/

theorem learns_explain (action : Action) (target : Target) :
    Learns s b (explain s organization (some user) action target) fun e =>
      e = (b.rules s organization user).explain action target :=
  learns_memberRuleSet.bind fun _ hrules => Learns.pure (by rw [hrules])

/-- A denial may be entered into the log. -/
theorem learns_recordDecision {r : AuditRecord} (hr : r.permitted = false) :
    Learns s b (recordDecision s r) fun _ => True := by
  rw [recordDecision]
  split
  · refine Learns.bind (F := fun _ => True) ?_ fun _ _ => Learns.pure trivial
    refine Finishes.learns fun c _ => (Audit.finishes_record c s.now r).mono ?_
    rintro _ _ ⟨e, rfl, rfl⟩
    exact ⟨calm_appendEntry c s hr, trivial⟩
  · exact Learns.pure trivial

/-- A requirement that is met is a permitted check. -/
theorem learns_require (actor : Actor) (action : Action) (target : Target) :
    Learns s b (require s actor action target) fun _ =>
      (b.rules s actor.organization actor.user).permits action target = true := by
  refine (learns_explain action target).bind fun e he => ?_
  split
  · rename_i hpermitted
    exact Learns.pure (by rw [RuleSet.permits, ← he, hpermitted])
  · rename_i hdenied
    exact (learns_recordDecision (Bool.not_eq_true _ ▸ hdenied)).bind fun _ _ => Learns.fail

theorem finishes_forgetUser (b : Backend) :
    Finishes b (forgetUser s organization user) fun _ c => Keeps b c := by
  rw [forgetUser]
  cases s.cacheTtl with
  | none => exact Finishes.pure .refl
  | some _ =>
      refine (finishes_tell b _).mono fun _ c hc => ?_
      rw [hc, answer]
      split
      · exact .refl
      · exact ⟨rfl, rfl, fun _ _ => rfl, rfl⟩

theorem finishes_forgetOrganization (b : Backend) :
    Finishes b (forgetOrganization s organization) fun _ c => Keeps b c := by
  rw [forgetOrganization]
  cases s.cacheTtl with
  | none => exact Finishes.pure .refl
  | some _ =>
      refine (finishes_tell b _).mono fun _ c hc => ?_
      rw [hc, answer]
      split
      · exact .refl
      · exact ⟨rfl, rfl, fun _ _ => rfl, rfl⟩

end Authorization

/-! ## Administration -/

namespace Administration

variable (actor : Actor)

theorem learns_ownPriority :
    Learns s b (ownPriority actor) fun p =>
      b.store.priority? actor.organization actor.user = some p :=
  Authorization.learns_effectivePriority.bind fun _ hp => (Learns.found _ _).mono
    fun _ hfound => by rw [← hp, hfound]

theorem learns_requirePriority (priority : RolePriority) :
    Learns s b (requirePriority actor priority) fun _ =>
      b.store.Within actor.organization actor.user priority := by
  refine (learns_ownPriority actor).bind fun own hown => ?_
  refine (Learns.ofOutcome _).mono fun _ hceiling => ⟨own, hown, ?_⟩
  rw [checkCeiling] at hceiling
  split at hceiling
  · exact absurd hceiling (by simp)
  · rename_i hle
    exact Nat.not_lt.mp hle

/-- A role is found in the store, and it could be asked for. -/
theorem learns_findRole (id : RoleId) :
    Learns s b (findRole actor id) fun role =>
      b.store.findRole actor.organization id = some role ∧
        b.outage? (.findRole actor.organization id) = none := by
  refine Learns.bind (learns_ask_store (.findRole actor.organization id)
        (·.findRole actor.organization id) fun _ => rfl) fun role hrole => ?_
  exact (Learns.found _ _).mono fun _ hfound => ⟨by rw [← hrole.1, hfound], hrole.2⟩

theorem learns_memberRoleKey (role : MemberRole) :
    Learns s b (memberRoleKey actor role) fun key =>
      key = b.store.roleKey actor.organization role := by
  cases role with
  | legacy r => exact Learns.pure rfl
  | dynamic id =>
      refine Learns.bind (learns_ask_store (.findRole actor.organization id)
        (·.findRole actor.organization id) fun _ => rfl) fun role hrole => ?_
      exact Learns.pure (by rw [hrole.1, Store.roleKey])

theorem learns_memberResource (m : Member) (user : UserId) :
    Learns s b (memberResource actor m user) fun r =>
      r = b.store.memberResource m actor.organization user :=
  (learns_memberRoleKey actor m.role).bind fun _ hkey => Learns.pure (by
    rw [hkey, Store.memberResource])

theorem finishes_report (b : Backend) (s : Setting) (r : AuditRecord) :
    Finishes b (report s r) fun _ c => Keeps b c :=
  (Audit.finishes_record b s.now r).bind fun _ _ hc => by
    obtain ⟨e, -, rfl⟩ := hc
    exact Finishes.pure (keeps_appendEntry b e)

end Administration

end AccessControl
