import AccessControl.Bootstrap
import AccessControl.Proofs.Inquiry

/-!
# Apart from the audit log

Most of what the services do has nothing to do with the audit log.  A program that makes no call
about it is `Silent`.  Two states that differ in the log, in its queue or in the identifiers of
entries are the `Same` to such a program: it is answered alike in both (`Backend.Same.answer`), so
it comes to the same result and leaves them the same.
-/

namespace AccessControl

open Service Backend

/-- A call about the audit log. -/
def Call.AboutLog : Call → Prop
  | newId kind => kind = .auditEntry
  | appendEntry _ | listEntries _ | summarize .. | purgeEntries .. => True
  | _ => False

/-- The audit log is left alone.  Whatever other calls come to is to be reckoned with. -/
def silence : Discipline Call Call.Reply Unit where
  allows _ c := ¬c.AboutLog
  leads _ _ _ _ := True

/-- The program makes no call about the audit log. -/
def Silent {α : Type} (p : Service α) : Prop := Program.Meets silence () p fun _ _ => True

/-! ## The parts of a silent program -/

section Silent

variable {α β : Type} {p : Service α} {f : α → Service β} {c : Call}

theorem Silent.pure {a : α} : Silent (pure a : Service α) := trivial

theorem Silent.fail {fault : Fault} : Silent (Program.fail fault : Service α) := trivial

theorem Silent.ofOutcome (r : Outcome α) : Silent (Program.ofOutcome r : Service α) := trivial

theorem Silent.found (fault : Fault) (o : Option α) : Silent (found fault o) := by
  cases o with
  | none => exact Silent.fail
  | some a => exact Silent.pure

theorem Silent.bind (h : Silent p) (hf : ∀ a, Silent (f a)) : Silent (p >>= f) :=
  Program.Meets.bind h (fun a _ _ => hf a) fun _ _ _ => trivial

theorem Silent.attempt (h : Silent p) : Silent p.attempt := Program.Meets.attempt h

theorem silent_ask (hc : ¬c.AboutLog) : Silent (ask c) :=
  Program.Meets.perform hc fun _ _ _ => trivial

/-- The log has nothing to do with the identifiers of other things than entries. -/
theorem silent_newId (kind : Entity) (hkind : kind ≠ .auditEntry) : Silent (ask (.newId kind)) :=
  silent_ask hkind

theorem silent_tell (hc : ¬c.AboutLog) : Silent (tell c) :=
  (silent_ask hc).attempt.bind fun _ => Silent.pure

end Silent

/-! ## Authorization -/

namespace Authorization

variable {s : Setting} {organization : OrganizationId} {user : UserId}

theorem silent_findRole? (id : Option RoleId) : Silent (findRole? organization id) := by
  cases id with
  | none => exact Silent.pure
  | some id => exact silent_ask not_false

theorem silent_withRoles (ds : List Delegation) : Silent (withRoles organization ds) := by
  induction ds with
  | nil => exact Silent.pure
  | cons d ds ih =>
      exact (silent_findRole? d.role).bind fun _ => ih.bind fun _ => Silent.pure

theorem silent_sources : Silent (sources organization user) := by
  refine (silent_ask (c := .findMember organization user) not_false).bind fun m => ?_
  cases m with
  | none => exact Silent.pure
  | some m =>
      refine (silent_findRole? _).bind fun _ => ?_
      refine (silent_ask (c := .listReceivedDelegations organization user) not_false).bind
        fun ds => ?_
      refine (silent_withRoles ds).bind fun _ => ?_
      refine (silent_ask (c := .listTeams organization user) not_false).bind fun _ => ?_
      exact (silent_ask (c := .listReceivedOverrides organization user) not_false).bind
        fun _ => Silent.pure

theorem silent_remembered : Silent (remembered s organization user) := by
  rw [remembered]
  cases s.ttl? with
  | none => exact Silent.pure
  | some ttl =>
      refine (silent_ask (c := .cachedRules organization user) not_false).attempt.bind
        fun outcome => ?_
      cases outcome with
      | ok _ => exact Silent.pure
      | error _ => exact Silent.pure

theorem silent_remember (rules : RuleSet) : Silent (remember s organization user rules) := by
  rw [remember]
  cases s.ttl? with
  | none => exact Silent.pure
  | some ttl => exact silent_tell not_false

theorem silent_ruleSet (user : Option UserId) : Silent (ruleSet s organization user) := by
  cases user with
  | none => exact Silent.pure
  | some user =>
      refine silent_remembered.bind fun kept => ?_
      cases kept with
      | some rules => exact Silent.pure
      | none => exact silent_sources.bind fun _ => (silent_remember _).bind fun _ => Silent.pure

theorem silent_explain (user : Option UserId) (action : Action) (target : Target) :
    Silent (explain s organization user action target) :=
  (silent_ruleSet user).bind fun _ => Silent.pure

theorem silent_effectivePriority : Silent (effectivePriority organization user) :=
  silent_sources.bind fun _ => Silent.pure

theorem silent_forgetUser : Silent (forgetUser s organization user) := by
  rw [forgetUser]
  cases s.cacheTtl with
  | none => exact Silent.pure
  | some _ => exact silent_tell not_false

theorem silent_forgetOrganization : Silent (forgetOrganization s organization) := by
  rw [forgetOrganization]
  cases s.cacheTtl with
  | none => exact Silent.pure
  | some _ => exact silent_tell not_false

end Authorization

/-! ## Administration -/

namespace Administration

variable {s : Setting} {actor : Actor}

theorem silent_ownPriority : Silent (ownPriority actor) :=
  Authorization.silent_effectivePriority.bind fun _ => Silent.found _ _

theorem silent_requirePriority (priority : RolePriority) :
    Silent (requirePriority actor priority) :=
  silent_ownPriority.bind fun _ => Silent.ofOutcome _

theorem silent_findRole (id : RoleId) : Silent (findRole actor id) :=
  (silent_ask (c := .findRole actor.organization id) not_false).bind fun _ => Silent.found _ _

theorem silent_memberResource (m : Member) (user : UserId) :
    Silent (memberResource actor m user) := by
  refine Silent.bind ?_ fun _ => Silent.pure
  cases m.role with
  | legacy r => exact Silent.pure
  | dynamic id =>
      exact (silent_ask (c := .findRole actor.organization id) not_false).bind
        fun _ => Silent.pure

theorem silent_requireFreeKey (key : RoleKey) : Silent (requireFreeKey actor key) := by
  refine (silent_ask (c := .findRoleByKey actor.organization key) not_false).bind fun role => ?_
  cases role with
  | none => exact Silent.pure
  | some _ => exact Silent.fail

theorem silent_storeRole (key : RoleKey) (name : String) (priority : RolePriority)
    (grants : List RoleGrant) : Silent (storeRole actor key name priority grants) := by
  refine (silent_newId .role (by decide)).bind fun _ => ?_
  exact (silent_ask (c := .createRole _) not_false).bind fun _ => Silent.pure

theorem silent_changedPriority (role : Role) (change : Option Int) :
    Silent (changedPriority actor role change) := by
  cases change with
  | none => exact Silent.pure
  | some value =>
      refine (Silent.ofOutcome _).bind fun priority => ?_
      exact (silent_requirePriority priority).bind fun _ => Silent.pure

theorem silent_requireUnused (role : Role) (id : RoleId) :
    Silent (requireUnused actor role id) := by
  refine (silent_ask (c := .countMembers actor.organization id) not_false).bind fun _ => ?_
  refine (Silent.ofOutcome _).bind fun _ => ?_
  exact (silent_ask (c := .countDelegations actor.organization id) not_false).bind fun _ =>
    Silent.ofOutcome _

theorem silent_requireActiveMember (user : UserId) : Silent (requireActiveMember actor user) := by
  refine (silent_ask (c := .findMember actor.organization user) not_false).bind fun m => ?_
  split
  · exact Silent.pure
  · exact Silent.fail

theorem silent_shareOf (request : DelegationRequest) : Silent (shareOf s actor request) := by
  rw [shareOf]
  cases request.role with
  | some id =>
      dsimp only
      split
      · exact (silent_findRole id).bind fun _ => Silent.pure
      · exact Silent.fail
  | none =>
      refine (Authorization.silent_ruleSet _).bind fun _ => ?_
      exact (Silent.ofOutcome _).bind fun _ => Silent.pure

theorem silent_storeDelegation (d : Delegation) : Silent (storeDelegation s actor d) :=
  (silent_ask (c := .saveDelegation d) not_false).bind fun _ => Authorization.silent_forgetUser

theorem silent_membershipResource? (user : UserId) : Silent (membershipResource? actor user) := by
  refine (silent_ask (c := .findMember actor.organization user) not_false).bind fun m => ?_
  cases m with
  | none => exact Silent.pure
  | some m => exact (silent_memberResource m user).bind fun _ => Silent.pure

theorem silent_managedTarget (o : Override) : Silent (managedTarget actor o) := by
  rw [managedTarget]
  split
  · exact Silent.pure
  · split
    · exact Silent.pure
    · exact (silent_membershipResource? _).bind fun _ => Silent.pure
  · exact Silent.pure

theorem silent_storeOverride (o : Override) : Silent (storeOverride s actor o) :=
  (silent_ask (c := .saveOverride o) not_false).bind fun _ => Authorization.silent_forgetUser

end Administration

/-! ## The first roles -/

namespace Bootstrap

variable {organization : OrganizationId}

theorem silent_ensureRole (r : LegacyRole) : Silent (ensureRole organization r) := by
  refine (silent_ask (c := .findRoleByKey organization r.key) not_false).bind fun role => ?_
  cases role with
  | some _ => exact Silent.pure
  | none =>
      refine (silent_newId .role (by decide)).bind fun _ => ?_
      exact (silent_ask (c := .createRole _) not_false).bind fun _ => Silent.pure

theorem silent_ensureRoles (rs : List LegacyRole) : Silent (ensureRoles organization rs) := by
  induction rs with
  | nil => exact Silent.pure
  | cons r rs ih => exact (silent_ensureRole r).bind fun _ => ih.bind fun _ => Silent.pure

end Bootstrap

/-! ## States that are the same apart from the log -/

/-- The records, the cache, the calls in order and the identifiers to be given out are the same,
except those of audit entries. -/
structure Backend.Same (b c : Backend) : Prop extends Keeps b c where
  cache : c.cache = b.cache

namespace Backend.Same

variable {b c d : Backend} {call : Call}

@[refl] theorem refl : Same b b := ⟨.refl, rfl⟩

theorem symm (h : Same b c) : Same c b where
  store := h.store.symm
  mint := h.mint.symm
  used kind hkind := (h.used kind hkind).symm
  broken := h.broken.symm
  cache := h.cache.symm

theorem trans (h : Same b c) (h' : Same c d) : Same b d :=
  ⟨h.toKeeps.trans h'.toKeeps, h'.cache.trans h.cache⟩

/-- Writing into the log makes no difference. -/
theorem of_reports (hcall : call.Reports) (b : Backend) : Same b (b.answer call).2 :=
  ⟨(hcall.keeps b).1, (hcall.keeps b).2⟩

theorem update (h : Same b c) (f : Store → Outcome Store) :
    (c.update (f c.store)).1 = (b.update (f b.store)).1 ∧
      Same (b.update (f b.store)).2 (c.update (f c.store)).2 := by
  rw [h.store]
  cases f b.store with
  | error fault => exact ⟨rfl, h⟩
  | ok store => exact ⟨rfl, ⟨rfl, h.mint, h.used, h.broken⟩, h.cache⟩

theorem insert (h : Same b c) (kind : Entity) (f : Store → Outcome Store) :
    (c.insert kind (f c.store)).1 = (b.insert kind (f b.store)).1 ∧
      Same (b.insert kind (f b.store)).2 (c.insert kind (f c.store)).2 := by
  rw [h.store]
  cases f b.store with
  | error fault => exact ⟨rfl, h⟩
  | ok store =>
      refine ⟨rfl, ⟨rfl, h.mint, fun k hk => ?_, h.broken⟩, h.cache⟩
      simp only [Backend.insert, useId, h.used k hk]

theorem setMemberRole (h : Same b c) (organization : OrganizationId) (user : UserId)
    (role : MemberRole) :
    (c.setMemberRole organization user role).1 = (b.setMemberRole organization user role).1 ∧
      Same (b.setMemberRole organization user role).2
        (c.setMemberRole organization user role).2 := by
  rw [Backend.setMemberRole, Backend.setMemberRole, h.store]
  cases b.store.setMemberRole organization user role with
  | error fault => exact ⟨rfl, h⟩
  | ok changed => exact ⟨rfl, ⟨rfl, h.mint, h.used, h.broken⟩, h.cache⟩

theorem question (h : Same b c) {reply : Backend → call.Reply}
    (hserve : ∀ b : Backend, b.serve call = (.ok (reply b), b)) (hreply : reply c = reply b) :
    (c.serve call).1 = (b.serve call).1 ∧ Same (b.serve call).2 (c.serve call).2 := by
  rw [hserve, hserve, hreply]
  exact ⟨rfl, h⟩

/-- Calls that are not about the log are answered alike. -/
theorem answer (h : Same b c) (hcall : ¬call.AboutLog) :
    (c.answer call).1 = (b.answer call).1 ∧ Same (b.answer call).2 (c.answer call).2 := by
  rw [Backend.answer, Backend.answer, h.outage?]
  cases b.outage? call with
  | some fault => exact ⟨rfl, h⟩
  | none =>
      cases call with
      | newId kind => exact h.question (fun _ => rfl) (h.nextId hcall)
      | createRole role => exact h.insert .role (·.createRole role)
      | createDelegation d => exact h.insert .delegation (·.createDelegation d)
      | createOverride o => exact h.insert .override (·.createOverride o)
      | updateRole role => exact h.update (·.updateRole role)
      | deleteRole organization id => exact h.update (·.deleteRole organization id)
      | addGrant organization id grant => exact h.update (·.addGrant organization id grant)
      | removeGrant organization id permission =>
          exact h.update (·.removeGrant organization id permission)
      | saveDelegation d => exact h.update (·.saveDelegation d)
      | saveOverride o => exact h.update (·.saveOverride o)
      | setMemberRole organization user role => exact h.setMemberRole organization user role
      | cachedRules organization user =>
          exact h.question (fun _ => rfl) (congrArg (RuleCache.get · organization user) h.cache)
      | cacheRules organization user rules ttl =>
          exact ⟨rfl, ⟨h.store, h.mint, h.used, h.broken⟩,
            congrArg (RuleCache.set · organization user rules ttl) h.cache⟩
      | forgetUser organization user =>
          exact ⟨rfl, ⟨h.store, h.mint, h.used, h.broken⟩,
            congrArg (RuleCache.forgetUser · organization user) h.cache⟩
      | forgetOrganization organization =>
          exact ⟨rfl, ⟨h.store, h.mint, h.used, h.broken⟩,
            congrArg (RuleCache.forgetOrganization · organization) h.cache⟩
      | appendEntry e => exact absurd trivial hcall
      | listEntries q => exact absurd trivial hcall
      | summarize organization window => exact absurd trivial hcall
      | purgeEntries organization days => exact absurd trivial hcall
      -- The questions that are left are answered from the store.
      | findMember organization user =>
          exact h.question (fun _ => rfl) (congrArg (Store.findMember · organization user) h.store)
      | _ => exact h.question (fun _ => rfl) (by rw [h.store])

end Backend.Same

/-! ## Calls that leave the log alone -/

/-- The log, its queue and the time by which it is purged are as before. -/
structure Backend.KeepsLog (b c : Backend) : Prop where
  log : c.log = b.log
  queue : c.queue = b.queue
  wall : c.wall = b.wall

namespace Backend.KeepsLog

variable {b : Backend} {call : Call}

@[refl] theorem refl : KeepsLog b b := ⟨rfl, rfl, rfl⟩

theorem trans {c d : Backend} (h : KeepsLog b c) (h' : KeepsLog c d) : KeepsLog b d :=
  ⟨h'.log.trans h.log, h'.queue.trans h.queue, h'.wall.trans h.wall⟩

theorem of_update (b : Backend) (r : Outcome Store) : KeepsLog b (b.update r).2 := by
  cases r <;> exact ⟨rfl, rfl, rfl⟩

theorem of_insert (b : Backend) (kind : Entity) (r : Outcome Store) :
    KeepsLog b (b.insert kind r).2 := by
  cases r <;> exact ⟨rfl, rfl, rfl⟩

theorem of_answer (hcall : ¬call.AboutLog) (b : Backend) : KeepsLog b (b.answer call).2 := by
  rw [Backend.answer]
  cases b.outage? call with
  | some fault => exact .refl
  | none =>
      cases call with
      | createRole role => exact of_insert ..
      | createDelegation d => exact of_insert ..
      | createOverride o => exact of_insert ..
      | updateRole role => exact of_update ..
      | deleteRole organization id => exact of_update ..
      | addGrant organization id grant => exact of_update ..
      | removeGrant organization id permission => exact of_update ..
      | saveDelegation d => exact of_update ..
      | saveOverride o => exact of_update ..
      | setMemberRole organization user role =>
          dsimp only [serve, Backend.setMemberRole]
          cases b.store.setMemberRole organization user role <;> exact ⟨rfl, rfl, rfl⟩
      | appendEntry e => exact absurd trivial hcall
      | purgeEntries organization days => exact absurd trivial hcall
      | _ => exact ⟨rfl, rfl, rfl⟩

end Backend.KeepsLog

/-- What makes no call about the log leaves it alone. -/
theorem Silent.keepsLog {α : Type} {p : Service α} (h : Silent p) (b : Backend) :
    KeepsLog b (b.run p).2 := by
  obtain ⟨-, -, hkept⟩ := h.run answer (I := fun _ c => KeepsLog b c)
    (fun _ c _ hc hallowed => ⟨(), trivial, hc.trans (.of_answer hallowed c)⟩) .refl
  exact hkept

end AccessControl
