import AccessControl.Proofs.Administration.Checks

/-!
# The audit trail

What operations and decisions leave in the audit log.  An operation that fails changes nothing that
is stored, and takes nothing out of the log (`Administration.Operation.leaves_no_trace`).  Where the
log takes every entry, it tells of everything that was done and of everything that was refused, once
and in the right words, and of nothing else (`Backend.audit_trail_complete`).
-/

namespace AccessControl

open Service Backend Administration

/-! ## Failed operations -/

namespace Backend

/-- No call puts a queue in front of the log. -/
theorem queue_answer {b : Backend} (h : b.queue = none) (c : Call) :
    (b.answer c).2.queue = none := by
  by_cases hcall : c.AboutLog
  · rw [answer]
    cases b.outage? c with
    | some fault => exact h
    | none =>
        cases c with
        | appendEntry e => simp only [serve, appendEntry, h, useId]
        | _ => first | exact h | exact hcall.elim
  · exact (KeepsLog.of_answer hcall b).queue.trans h

theorem queue_run {α : Type} {b : Backend} (h : b.queue = none) (p : Service α) :
    (b.run p).2.queue = none := by
  rw [run]
  induction p generalizing b with
  | done r => exact h
  | call c next ih => exact ih _ (queue_answer h c)

theorem entered_of_unqueued {b : Backend} (h : b.queue = none) : b.entered = b.log.entries := by
  rw [entered, h]
  exact List.append_nil _

end Backend

namespace Administration

variable {b c : Backend} {s : Setting} {actor : Actor} {op : Operation} {fault : Fault}

theorem Operation.calm_of_run_error (h : b.run (op.perform s actor) = (.error fault, c)) :
    Calm s b c := by
  have hcalm : Calm s b (b.run (op.perform s actor)).2 := calm_of_perform_error (by rw [h])
  rwa [h] at hcalm

/-- An operation that fails leaves the members, the roles with their grants, the teams, the
delegations and the overrides as they were, and all entries that were in the log or on their way
there. -/
theorem Operation.leaves_no_trace (h : b.run (op.perform s actor) = (.error fault, c)) :
    c.store = b.store ∧ b.entered <+: c.entered ∧
      (b.queue = none → b.log.entries <+: c.log.entries) := by
  have hcalm := calm_of_run_error h
  obtain ⟨denials, hentered, -⟩ := hcalm.denials
  refine ⟨hcalm.store, ⟨denials, hentered.symm⟩, fun hqueue => ⟨denials, ?_⟩⟩
  have hqueue' : c.queue = none := by
    rw [← queue_run hqueue (op.perform s actor), h]
  rw [← entered_of_unqueued hqueue, ← entered_of_unqueued hqueue', hentered]

end Administration

namespace Sample

/-- Somebody wants a role of the highest priority. -/
def ambition : Administration.Operation :=
  .createRole { key := "chief", name := "Chief", priority := 100, grants := [] }

def ambitious (user : UserId) (b : Backend) : Outcome Role × Backend :=
  b.run (ambition.perform { now := ⟨0⟩ } (actor user))

/-- The viewer was refused once. -/
def refused : AuditEntry where
  toAuditRecord := Authorization.decisionRecord organization (some viewer) {} .create
    (.ofType .role) .byDefault
  id := ⟨⟨1⟩⟩
  createdAt := ⟨0⟩

/-- The viewer is refused again, and the first refusal stays in the log. -/
theorem viewer_leaves_no_trace :
    ∃ fault c, ambitious viewer { backend with log := ⟨[refused]⟩ } = (.error fault, c) ∧
      c.store = store ∧ [refused] <+: c.log.entries := by
  have hrun : ambitious viewer { backend with log := ⟨[refused]⟩ } =
      (.error (.notPermitted viewer "create" "role" organization), _) :=
    Prod.ext (by decide +kernel) rfl
  obtain ⟨hstore, -, hlog⟩ := Operation.leaves_no_trace hrun
  exact ⟨_, _, hrun, hstore, hlog rfl⟩

end Sample

/-! ## What entries tell -/

/-- The entry tells of a check and how it was decided. -/
structure AuditEntry.TellsOfCheck (e : AuditEntry) (organization : OrganizationId)
    (user : Option UserId) (context : RequestContext) (check : Check) (x : Explanation) : Prop where
  organization : e.organization = organization
  user : e.actor = user
  action : e.action = check.action.name
  resourceType : e.resourceType = some check.target.resourceType.name
  resourceId : e.resourceId = check.target.resource?.map (·.id)
  permitted : e.permitted = x.permitted
  source : e.context =
    [("matching_rule_source", .ofOption (fun source => .string source.name) x.source)]
  ipAddress : e.ipAddress = context.ipAddress
  userAgent : e.userAgent = context.userAgent

/-- The entry tells of something that the actor has done. -/
structure AuditEntry.TellsOfDeed (e : AuditEntry) (actor : Actor) (deed : Deed) : Prop where
  organization : e.organization = actor.organization
  user : e.actor = some actor.user
  action : e.action = deed.action.name
  resourceType : e.resourceType = some deed.resourceType
  resourceId : e.resourceId = some deed.resourceId
  permitted : e.permitted = true
  ipAddress : e.ipAddress = actor.context.ipAddress
  userAgent : e.userAgent = actor.context.userAgent

namespace Administration

/-- What is left of the log of entries from before the operation.  Only purging takes some away. -/
def Operation.remaining (b : Backend) (actor : Actor) : Operation → List AuditEntry
  | purgeEntries days => (b.log.purge actor.organization (b.wall.subDays days)).2.entries
  | _ => b.log.entries

/-- How an operation ends, and what it has entered into the log by then. -/
inductive Operation.Audited (b : Backend) (s : Setting) (actor : Actor) (op : Operation) :
    Outcome op.Result × Backend → Prop
  /-- The first check that is not passed ends the operation and is entered. -/
  | refused {check : Check} {e : AuditEntry} {c : Backend}
      (hdenied : firstDenied b s actor (op.checks b actor) = some check)
      (hlog : c.log.entries = b.log.entries ++ [e])
      (hentry : e.TellsOfCheck actor.organization (some actor.user) actor.context check
        ((b.rules s actor.organization actor.user).explain check.action check.target))
      (hpermitted : e.permitted = false) :
      Audited b s actor op (.error (refusal actor check), c)
  /-- All checks are passed, and the operation fails without an entry. -/
  | failed {fault : Fault} {c : Backend}
      (hpassed : firstDenied b s actor (op.checks b actor) = none) (hlog : c.log = b.log) :
      Audited b s actor op (.error fault, c)
  /-- The operation has read something and entered nothing. -/
  | read {r : op.Result} {c : Backend}
      (hpassed : firstDenied b s actor (op.checks b actor) = none) (hlog : c.log = b.log)
      (hread : op.deed? actor r = none) : Audited b s actor op (.ok r, c)
  /-- The operation has done something and entered it. -/
  | done {r : op.Result} {deed : Deed} {e : AuditEntry} {c : Backend}
      (hpassed : firstDenied b s actor (op.checks b actor) = none)
      (hdeed : op.deed? actor r = some deed)
      (hlog : c.log.entries = op.remaining b actor ++ [e]) (hentry : e.TellsOfDeed actor deed) :
      Audited b s actor op (.ok r, c)

section Audited

variable {b c : Backend} {s : Setting} {actor : Actor} {op : Operation}

theorem firstDenied_denies {checks : List Check} {check : Check}
    (h : firstDenied b s actor checks = some check) :
    (b.rules s actor.organization actor.user).permits check.action check.target = false := by
  simpa using List.find?_some h

theorem Operation.Audited.of_refused {check : Check} {e : AuditEntry}
    (hdenied : firstDenied b s actor (op.checks b actor) = some check)
    (hlog : c.log.entries = b.log.entries ++ [e])
    (he : e.toAuditRecord = verdictRecord b s actor check) :
    op.Audited b s actor (.error (refusal actor check), c) := by
  obtain ⟨r, id, createdAt⟩ := e
  obtain rfl : r = verdictRecord b s actor check := he
  exact .refused hdenied hlog ⟨rfl, rfl, rfl, rfl, rfl, rfl, rfl, rfl, rfl⟩
    (firstDenied_denies hdenied)

theorem tellsOfDeed_of_eq {deed : Deed} {e : AuditEntry} {detail : String}
    (he : e.toAuditRecord =
      operationRecord actor deed.action deed.resourceType deed.resourceId detail) :
    e.TellsOfDeed actor deed := by
  obtain ⟨r, id, createdAt⟩ := e
  obtain rfl : r = operationRecord actor deed.action deed.resourceType deed.resourceId detail := he
  exact ⟨rfl, rfl, rfl, rfl, rfl, rfl, rfl, rfl⟩

theorem Operation.remaining_of_not_isOnLog (hop : ¬op.IsOnLog) :
    op.remaining b actor = b.log.entries := by
  cases op <;> first | rfl | exact absurd trivial hop

/-- The records of the account tell of deeds, and a failure leaves entries of denials only. -/
theorem Operation.Audited.of_failed {x : Account} {fault : Fault}
    (hpassed : firstDenied b s actor (op.checks b actor) = none) (hqueue : b.queue = none)
    (hrun : b.run (op.perform s actor) = (.error fault, c)) (hbooked : x.Booked b c)
    (hdeeds : ∀ r ∈ x.told, r.permitted = true) : op.Audited b s actor (.error fault, c) := by
  obtain ⟨denials, hentered, hdenials⟩ := (calm_of_run_error hrun).denials
  rw [entered_of_unqueued hbooked.unqueued, entered_of_unqueued hqueue] at hentered
  obtain ⟨es, hentries, hes⟩ := hbooked.entries
  obtain rfl : es = denials := List.append_cancel_left (hentries.symm.trans hentered)
  have hnone : es = [] := by
    refine List.eq_nil_iff_forall_not_mem.mpr fun e he => ?_
    have hpermitted := hdeeds _ (hes ▸ List.mem_map_of_mem he)
    rw [hdenials e he] at hpermitted
    cases hpermitted
  rw [hnone] at hes
  exact .failed hpassed (hbooked.log hes.symm)

/-- An operation that fails has entered what its checks say. -/
theorem Operation.Audited.of_checked {α : Type} {R : α → List AuditRecord → Prop} {x : Account}
    {fault : Fault} (haudits : s.auditsChecks = true) (hworking : b.broken = [])
    (hqueue : b.queue = none) (hrun : b.run (op.perform s actor) = (.error fault, c))
    (hbooked : x.Booked b c)
    (hchecked : Checked b s actor (op.checks b actor) R (.error fault) x.told) :
    op.Audited b s actor (.error fault, c) := by
  generalize htold : x.told = rs at hchecked
  cases hchecked with
  | refused hdenied =>
      rw [Setting.recorded, if_pos haudits] at htold
      obtain ⟨e, hlog, he⟩ := hbooked.exists_entry htold
      exact .of_refused hdenied hlog he
  | failed hpassed hdeeds =>
      exact .of_failed (hpassed hworking) hqueue hrun hbooked (htold ▸ hdeeds)

/-- Operations that are not about the log itself. -/
theorem Operation.audited_of_not_isOnLog (hop : ¬op.IsOnLog) (haudits : s.auditsChecks = true)
    (hworking : b.broken = []) (hqueue : b.queue = none) :
    op.Audited b s actor (b.run (op.perform s actor)) := by
  have hchecks : Checks s b actor (op.checks b actor) (op.perform s actor) fun r =>
    Entered actor (op.deed? actor r) := checks_perform hop
  obtain ⟨y, ⟨rs, htold, hchecked⟩, hbooked⟩ :=
    (hchecks ⟨b, []⟩ .refl).booked (.self hworking hqueue)
  obtain rfl : y.told = rs := htold
  rcases hrun : b.run (op.perform s actor) with ⟨fault | r, c⟩ <;> rw [hrun] at hchecked hbooked
  · exact .of_checked haudits hworking hqueue hrun hbooked hchecked
  · obtain ⟨hpassed, hentered⟩ := hchecked.of_ok
    cases hdeed : op.deed? actor r with
    | none =>
        rw [hdeed] at hentered
        exact .read hpassed (hbooked.log hentered) hdeed
    | some deed =>
        rw [hdeed] at hentered
        obtain ⟨detail, htold⟩ := hentered
        obtain ⟨e, hlog, he⟩ := hbooked.exists_entry htold
        have hremaining : op.remaining b actor = b.log.entries :=
          Operation.remaining_of_not_isOnLog hop
        exact .done hpassed hdeed (hremaining ▸ hlog) (tellsOfDeed_of_eq he)

/-! ### The log itself -/

/-- Operations on the log check for one permission.  What they do behind that begins with the same
log. -/
theorem Operation.audited_of_requireOnLog {action : Action} {f : Unit → Service op.Result}
    (hchecks : op.checks b actor = [⟨action, .ofType .auditLog⟩])
    (hperform : op.perform s actor = requireOnLog s actor action >>= f)
    (haudits : s.auditsChecks = true) (hworking : b.broken = []) (hqueue : b.queue = none)
    (hf : ∀ c : Backend, firstDenied b s actor (op.checks b actor) = none →
      Account.Booked b ⟨c, []⟩ c → op.Audited b s actor (c.run (f ()))) :
    op.Audited b s actor (b.run (op.perform s actor)) := by
  have hrequire : Checks s b actor (op.checks b actor) (requireOnLog s actor action)
      fun _ rs => rs = [] := hchecks ▸ checks_require action (.ofType .auditLog)
  obtain ⟨y, ⟨rs, htold, hchecked⟩, hbooked⟩ :=
    (hrequire ⟨b, []⟩ .refl).booked (.self hworking hqueue)
  obtain rfl : y.told = rs := htold
  rcases hrun : b.run (requireOnLog s actor action) with ⟨fault | a, c⟩ <;>
    rw [hrun] at hchecked hbooked
  · have hfails := hperform ▸ run_bind_error hrun
    rw [hfails]
    exact .of_checked haudits hworking hqueue hfails hbooked hchecked
  · obtain ⟨hpassed, hnone⟩ := hchecked.of_ok
    obtain ⟨es, hentries, hes⟩ := hbooked.entries
    rw [hperform, run_bind_ok hrun]
    exact hf c hpassed ⟨.refl, hbooked.working, hbooked.unqueued, hbooked.wall, es, hentries,
      hes.trans hnone⟩

/-- Reading leaves the log as it is. -/
theorem Operation.Audited.of_read {r : Outcome op.Result}
    (hpassed : firstDenied b s actor (op.checks b actor) = none) (hlog : c.log = b.log)
    (hread : ∀ r, op.deed? actor r = none) : op.Audited b s actor (r, c) := by
  cases r with
  | ok r => exact .read hpassed hlog (hread r)
  | error fault => exact .failed hpassed hlog

theorem run_report_of_working (hworking : c.broken = []) (hqueue : c.queue = none)
    (r : AuditRecord) :
    ∃ (e : AuditEntry) (d : Backend), c.run (report s r) = (.ok (), d) ∧
      d.log.entries = c.log.entries ++ [e] ∧ e.toAuditRecord = r := by
  obtain ⟨y, ⟨hok, rfl⟩, hbooked⟩ :=
    (Audit.comes_record ⟨c, []⟩ s.now r).booked (.self hworking hqueue)
  obtain ⟨e, hlog, he⟩ := hbooked.exists_entry rfl
  exact ⟨e, _, Prod.ext hok rfl, hlog, he⟩

/-- A purge does what it is for, or nothing. -/
theorem run_purge_cases (hworking : c.broken = []) (organization : OrganizationId) (days : Nat) :
    (∃ fault, c.run (Audit.purge organization days) = (.error fault, c)) ∨
      ∃ n d, c.run (Audit.purge organization days) = (.ok n, d) ∧
        d.log = (c.log.purge organization (c.wall.subDays days)).2 ∧ d.broken = [] ∧
        d.queue = c.queue := by
  rw [Audit.purge]
  cases Audit.checkRetention days with
  | error fault => exact .inl ⟨fault, rfl⟩
  | ok _ =>
      have hpurge := Authorization.run_ask_of_working hworking (.purgeEntries organization days)
      exact .inr ⟨_, _, hpurge, rfl, hworking, rfl⟩

/-- What was entered after a purge comes behind what is left. -/
theorem Operation.audited_purgeEntries (days : Nat) (haudits : s.auditsChecks = true)
    (hworking : b.broken = []) (hqueue : b.queue = none) :
    (purgeEntries days).Audited b s actor (b.run ((purgeEntries days).perform s actor)) := by
  refine audited_of_requireOnLog rfl rfl haudits hworking hqueue fun c hpassed hc => ?_
  rcases run_purge_cases hc.working actor.organization days with
    ⟨fault, hpurge⟩ | ⟨n, d, hpurge, hleft, hd, hunqueued⟩
  · rw [run_bind_error hpurge]
    exact .failed hpassed (hc.log rfl)
  · rw [run_bind_ok hpurge]
    generalize hr : operationRecord actor .entriesPurged _ _ _ = r
    obtain ⟨e, d', hreport, hlog, he⟩ :=
      run_report_of_working (s := s) hd (hunqueued.trans hc.unqueued) r
    rw [run_bind_ok hreport]
    rw [hleft, hc.log rfl, hc.wall] at hlog
    exact .done hpassed rfl hlog (tellsOfDeed_of_eq (he.trans hr.symm))

/-- Whatever the operation is, and however it ends, the log tells of it. -/
theorem Operation.audited (op : Operation) (haudits : s.auditsChecks = true)
    (hworking : b.broken = []) (hqueue : b.queue = none) :
    op.Audited b s actor (b.run (op.perform s actor)) := by
  cases op with
  | listEntries q =>
      refine audited_of_requireOnLog rfl rfl haudits hworking hqueue fun c hpassed hc => ?_
      rw [Audit.list, Authorization.run_ask_of_working hc.working]
      exact .of_read hpassed (hc.log rfl) fun _ => rfl
  | exportEntries window =>
      refine audited_of_requireOnLog rfl rfl haudits hworking hqueue fun c hpassed hc => ?_
      rw [Audit.list, Authorization.run_ask_of_working hc.working]
      exact .of_read hpassed (hc.log rfl) fun _ => rfl
  | auditSummary window =>
      refine audited_of_requireOnLog rfl rfl haudits hworking hqueue fun c hpassed hc => ?_
      rw [Audit.summary]
      cases Audit.checkWindow window with
      | error fault => exact .failed hpassed (hc.log rfl)
      | ok _ =>
          rw [run_bind_ok (a := ()) rfl, Authorization.run_ask_of_working hc.working]
          exact .of_read hpassed (hc.log rfl) fun _ => rfl
  | purgeEntries days => exact audited_purgeEntries days haudits hworking hqueue
  | _ => exact audited_of_not_isOnLog not_false haudits hworking hqueue

/-- Whoever does not pass a check is refused, and the log tells of it. -/
theorem Operation.Audited.exists_refusal {ending : Outcome op.Result × Backend} {check : Check}
    (h : op.Audited b s actor ending)
    (hdenied : firstDenied b s actor (op.checks b actor) = some check) :
    ∃ e c, ending = (.error (refusal actor check), c) ∧ c.log.entries = b.log.entries ++ [e] ∧
      e.TellsOfCheck actor.organization (some actor.user) actor.context check
        ((b.rules s actor.organization actor.user).explain check.action check.target) ∧
      e.permitted = false := by
  cases h with
  | refused h hlog hentry hpermitted =>
      cases h.symm.trans hdenied
      exact ⟨_, _, rfl, hlog, hentry, hpermitted⟩
  | failed hpassed => cases hpassed.symm.trans hdenied
  | read hpassed => cases hpassed.symm.trans hdenied
  | done hpassed => cases hpassed.symm.trans hdenied

/-- The log tells of what was done. -/
theorem Operation.Audited.exists_deed {r : op.Result} {deed : Deed}
    (h : op.Audited b s actor (.ok r, c)) (hdeed : op.deed? actor r = some deed) :
    ∃ e, c.log.entries = op.remaining b actor ++ [e] ∧ e.TellsOfDeed actor deed := by
  cases h with
  | read _ _ hread => cases hread.symm.trans hdeed
  | done _ h hlog hentry =>
      cases h.symm.trans hdeed
      exact ⟨_, hlog, hentry⟩

end Audited

end Administration

/-! ## Decisions -/

/-- A decision is filed as it is returned, and it is made while all calls are in order. -/
theorem Authorization.comes_decide (x : Account) (s : Setting) (organization : OrganizationId)
    (user : Option UserId) (context : RequestContext) (action : Action) (target : Target) :
    Comes x (decide s organization user context action target) fun r y =>
      (∃ e, r = .ok e ∧ y.told = x.told ++
        s.recorded (decisionRecord organization user context action target e)) ∨
      x.state.broken ≠ [] := by
  refine Comes.bind ((silent_explain user action target).comes x) ?_ ?_
  · rintro e y ⟨-, htold⟩
    refine Comes.bind (comes_recordDecision y s _) ?_ ?_
    · rintro _ _ ⟨-, rfl⟩
      exact Comes.pure (.inl ⟨e, rfl, by rw [htold]⟩)
    · rintro fault _ ⟨⟨⟩, -⟩
  · rintro fault y ⟨hrun, -⟩
    refine .inr fun hworking => ?_
    obtain ⟨e, he⟩ := sure_explain user action target x.state hworking
    rw [← hrun] at he
    cases he

/-- A decision is returned and entered, once. -/
theorem Backend.decision_entered {b : Backend} {s : Setting} (haudits : s.auditsChecks = true)
    (hworking : b.broken = []) (hqueue : b.queue = none) (organization : OrganizationId)
    (user : Option UserId) (context : RequestContext) (action : Action) (target : Target) :
    ∃ x e c, b.run (Authorization.decide s organization user context action target) = (.ok x, c) ∧
      c.log.entries = b.log.entries ++ [e] ∧
      e.TellsOfCheck organization user context ⟨action, target⟩ x := by
  obtain ⟨y, hdecided | hbroken, hbooked⟩ := (Authorization.comes_decide ⟨b, []⟩ s organization user
    context action target).booked (.self hworking hqueue)
  · obtain ⟨x, hx, htold⟩ := hdecided
    rw [Setting.recorded, if_pos haudits] at htold
    obtain ⟨⟨r, id, createdAt⟩, hlog, rfl⟩ := hbooked.exists_entry htold
    exact ⟨x, _, _, Prod.ext hx rfl, hlog, ⟨rfl, rfl, rfl, rfl, rfl, rfl, rfl, rfl, rfl⟩⟩
  · exact absurd hworking hbroken

/-! ## Everything is entered -/

/-- While all calls are in order and the log takes every entry: the log tells of every deed and of
every refusal of an operation, once, and of nothing else; and of every decision as it was
returned. -/
theorem Backend.audit_trail_complete {b : Backend} {s : Setting} (haudits : s.auditsChecks = true)
    (hworking : b.broken = []) (hqueue : b.queue = none) :
    (∀ (actor : Actor) (op : Administration.Operation),
      op.Audited b s actor (b.run (op.perform s actor))) ∧
    ∀ (organization : OrganizationId) (user : Option UserId) (context : RequestContext)
        (action : Action) (target : Target),
      ∃ x e c, b.run (Authorization.decide s organization user context action target) = (.ok x, c) ∧
        c.log.entries = b.log.entries ++ [e] ∧
        e.TellsOfCheck organization user context ⟨action, target⟩ x :=
  ⟨fun _ op => op.audited haudits hworking hqueue, decision_entered haudits hworking hqueue⟩

namespace Sample

/-- The viewer's attempt is entered as a denial, the owner's as a deed, and a decision as it was
returned. -/
theorem ambition_is_entered :
    (∃ e c, ambitious viewer backend =
        (.error (.notPermitted viewer "create" "role" organization), c) ∧
        c.log.entries = [e] ∧ e.action = "create" ∧ e.permitted = false) ∧
      (∃ role e c, ambitious owner backend = (.ok role, c) ∧ c.log.entries = [e] ∧
        e.action = "security.role.created" ∧ e.resourceId = some role.id.toString) ∧
      ∃ x e c, backend.run (Authorization.decide { now := ⟨0⟩ } organization none {} .read
          (.ofType .task)) = (.ok x, c) ∧ c.log.entries = [e] ∧ e.permitted = x.permitted := by
  obtain ⟨hoperations, hdecisions⟩ :=
    Backend.audit_trail_complete (b := backend) (s := { now := ⟨0⟩ }) rfl rfl rfl
  refine ⟨?_, ?_, ?_⟩
  · have hdenied : firstDenied backend { now := ⟨0⟩ } (actor viewer)
        (ambition.checks backend (actor viewer)) = some ⟨.create, .ofType .role⟩ := by
      decide +kernel
    obtain ⟨e, c, hrun, hlog, hentry, hpermitted⟩ :=
      (hoperations (actor viewer) ambition).exists_refusal hdenied
    exact ⟨e, c, hrun, hlog, hentry.action, hpermitted⟩
  · have hsucceeds : (ambitious owner backend).1.toBool = true := by decide +kernel
    rcases hrun : ambitious owner backend with ⟨fault | role, c⟩ <;> rw [hrun] at hsucceeds
    · cases hsucceeds
    · have haudited : ambition.Audited backend { now := ⟨0⟩ } (actor owner) (.ok role, c) :=
        hrun ▸ hoperations (actor owner) ambition
      obtain ⟨e, hlog, hentry⟩ := haudited.exists_deed rfl
      exact ⟨role, e, c, rfl, hlog, hentry.action, hentry.resourceId⟩
  · obtain ⟨x, e, c, hrun, hlog, hentry⟩ :=
      hdecisions organization none {} .read (.ofType .task)
    exact ⟨x, e, c, hrun, hlog, hentry.permitted⟩

end Sample

end AccessControl
