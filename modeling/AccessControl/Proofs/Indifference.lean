import AccessControl.Proofs.AuditTrail
import AccessControl.Proofs.Histories

/-!
# Decisions do not depend on the audit log

Calls may be answered by anything that answers as a backend does, apart from the log: what becomes
of an entry there is up to it (`Faithful`).  The backends are of that kind, with or without a queue
of whatever capacity, and so are backends with an `AuditRepository` that takes or rejects entries as
it likes.

Over any two of them that begin with the same records and the same cache, the services come to the
same results one after the other, and have the same records and the same cache behind every job
(`Backend.observe_eq_of_same`).
-/

namespace AccessControl

open Service Backend Administration

/-! ## Answering calls with another log -/

/-- A place for audit entries that takes or rejects each of them as it likes. -/
structure AuditRepository (ρ : Type) where
  append : AuditEntry → ρ → Outcome Unit × ρ

/-- Entries go to the repository, and everything else is answered by the backend. -/
def AuditRepository.answer {ρ : Type} (repository : AuditRepository ρ) :
    (c : Call) → Backend × ρ → Outcome c.Reply × Backend × ρ
  | .appendEntry e, (b, t) => ((repository.append e t).1, b, (repository.append e t).2)
  | c, (b, t) => ((b.answer c).1, (b.answer c).2, t)

/-- Calls are answered as the backend in view does, and of the log nothing is to be expected. -/
def Faithful {σ : Type} (answer : (c : Call) → σ → Outcome c.Reply × σ) (view : σ → Backend) :
    Prop :=
  ∀ (x : Account) (a : σ) (c : Call), x.state.Same (view a) → reporting.allows x c →
    ∃ y, reporting.leads x c (answer c a).1 y ∧ y.state.Same (view (answer c a).2)

theorem Backend.faithful_answer : Faithful answer id :=
  fun _ _ _ => Account.exists_leads_answer

theorem AuditRepository.faithful_answer {ρ : Type} (repository : AuditRepository ρ) :
    Faithful repository.answer Prod.fst := by
  rintro x ⟨b, t⟩ c hsame hallowed
  cases c with
  | appendEntry e =>
      exact ⟨x.hear (.appendEntry e), ⟨fun _ => ⟨rfl, nofun⟩, fun h => absurd trivial h⟩, hsame⟩
  | _ => exact Account.exists_leads_answer hsame hallowed

/-! ## All tasks -/

theorem Authorization.Operation.comes_perform (op : Authorization.Operation) (s : Setting)
    (organization : OrganizationId) (x : Account) :
    Comes x (op.perform s organization) fun _ _ => True := by
  have hsilent : ∀ {α : Type} {p : Service α}, Silent p → Comes x p fun _ _ => True :=
    fun h => (h.comes x).mono fun _ _ _ => trivial
  cases op with
  | ruleSet user => exact hsilent (silent_ruleSet user)
  | authorize user action target =>
      exact hsilent ((silent_ruleSet user).bind fun _ => Silent.pure)
  | explain user action target => exact hsilent (silent_explain user action target)
  | decide user context action target =>
      exact (comes_decide x s organization user context action target).mono fun _ _ _ => trivial
  | require user context action target =>
      have hchecks : Checks s x.state ⟨user, organization, context⟩ [⟨action, target⟩]
          (Authorization.require s ⟨user, organization, context⟩ action target)
          fun _ rs => rs = [] := checks_require action target
      exact (hchecks x .refl).mono fun _ _ _ => trivial
  | capabilities user => exact hsilent ((silent_ruleSet user).bind fun _ => Silent.pure)
  | effectivePriority user => exact hsilent silent_effectivePriority
  | forgetUser user => exact hsilent silent_forgetUser
  | forgetOrganization => exact hsilent silent_forgetOrganization

namespace Task

/-- The task is about the audit log itself. -/
def IsOnLog : Task → Prop
  | administration _ op => op.IsOnLog
  | _ => False

/-- Every other task comes to one result, whatever the log does with what it is told. -/
theorem comes_perform {task : Task} (htask : ¬task.IsOnLog) (s : Setting) (x : Account) :
    Comes x (task.perform s) fun _ _ => True := by
  cases task with
  | authorization organization op => exact op.comes_perform s organization x
  | administration actor op =>
      have hchecks : Checks s x.state actor (op.checks x.state actor) (op.perform s actor) fun r =>
        Entered actor (op.deed? actor r) := Operation.checks_perform htask
      exact (hchecks x .refl).mono fun _ _ _ => trivial
  | bootstrap organization =>
      exact ((Bootstrap.silent_ensureRoles LegacyRole.all).comes x).mono fun _ _ _ => trivial

end Task

/-! ## Two runs -/

/-- What is seen of a job when it is over. -/
structure Observation where
  job : Job
  result : Outcome job.task.Result
  store : Store
  cache : RuleCache

/-- What is seen of jobs that are carried out one after the other. -/
def observe {σ : Type} (answer : (c : Call) → σ → Outcome c.Reply × σ) (view : σ → Backend) :
    List Job → σ → List Observation
  | [], _ => []
  | job :: jobs, a =>
    let (result, a) := (job.task.perform job.setting).run answer a
    ⟨job, result, (view a).store, (view a).cache⟩ :: observe answer view jobs a

section Faithful

variable {σ τ : Type} {answer : (c : Call) → σ → Outcome c.Reply × σ} {view : σ → Backend}
  {answer' : (c : Call) → τ → Outcome c.Reply × τ} {view' : τ → Backend}

theorem Faithful.run {α : Type} (h : Faithful answer view) {x y : Account} {a : σ} {r : Outcome α}
    {p : Service α} (hmeets : Program.Meets reporting x p fun r' y' => r' = r ∧ y' = y)
    (ha : x.state.Same (view a)) :
    (p.run answer a).1 = r ∧ y.state.Same (view (p.run answer a).2) := by
  obtain ⟨_, ⟨hr, rfl⟩, hend⟩ := hmeets.run answer
    (I := fun (x : Account) (a : σ) => x.state.Same (view a)) h ha
  exact ⟨hr, hend⟩

/-- One job comes to the same in two runs that are the same when it begins. -/
theorem Faithful.run_pair (h : Faithful answer view) (h' : Faithful answer' view') {task : Task}
    (htask : ¬task.IsOnLog) (s : Setting) {a : σ} {a' : τ} (ha : (view a).Same (view' a')) :
    ((task.perform s).run answer a).1 = ((task.perform s).run answer' a').1 ∧
      (view ((task.perform s).run answer a).2).Same
        (view' ((task.perform s).run answer' a').2) := by
  obtain ⟨r, y, hmeets, -⟩ := task.comes_perform htask s ⟨view a, []⟩
  obtain ⟨hr, hend⟩ := h.run hmeets .refl
  obtain ⟨hr', hend'⟩ := h'.run hmeets ha
  exact ⟨hr.trans hr'.symm, hend.symm.trans hend'⟩

/-- So do jobs that are carried out one after the other, and the same is seen of them. -/
theorem Faithful.observe_eq (h : Faithful answer view) (h' : Faithful answer' view')
    {jobs : List Job} (hjobs : ∀ job ∈ jobs, ¬job.task.IsOnLog) {a : σ} {a' : τ}
    (ha : (view a).Same (view' a')) :
    observe answer view jobs a = observe answer' view' jobs a' := by
  induction jobs generalizing a a' with
  | nil => rfl
  | cons job jobs ih =>
      obtain ⟨hjob, hrest⟩ := List.forall_mem_cons.mp hjobs
      obtain ⟨hresult, hend⟩ := h.run_pair h' hjob job.setting ha
      simp only [observe]
      rw [hresult, hend.store, hend.cache, ih hrest hend]

end Faithful

/-- What is seen of jobs that do not ask about the log does not depend on it: not on whether the log
takes every entry or is behind a queue, on the capacity of the queue and what waits there, or on
which entries a repository rejects. -/
theorem Backend.observe_eq_of_same {b c : Backend} {jobs : List Job}
    (hjobs : ∀ job ∈ jobs, ¬job.task.IsOnLog) (hsame : b.Same c) {ρ : Type}
    (repository : AuditRepository ρ) (t : ρ) :
    observe answer id jobs c = observe answer id jobs b ∧
      observe repository.answer Prod.fst jobs (c, t) = observe answer id jobs b := by
  have hsame' : (id b).Same (c, t).1 := hsame
  exact ⟨(faithful_answer.observe_eq faithful_answer hjobs hsame).symm,
    (faithful_answer.observe_eq repository.faithful_answer hjobs hsame').symm⟩

namespace Sample

/-- The viewer and the owner want the same role, and it is decided whether guests may read tasks. -/
def contest : List Job :=
  [⟨{ now := ⟨0⟩ }, .administration (actor viewer) ambition⟩,
    ⟨{ now := ⟨0⟩ }, .administration (actor owner) ambition⟩,
    ⟨{ now := ⟨0⟩ }, .authorization organization (.decide none {} .read (.ofType .task))⟩]

/-- The small organization with a full queue in front of its log. -/
def congested : Backend :=
  { backend with queue := some { capacity := 1, waiting := [refused] } }

/-- A repository that rejects every entry, and counts them. -/
def deaf : AuditRepository Nat := ⟨fun _ n => (.error .auditQueueFull, n + 1)⟩

/-- The contest goes the same way when nothing of it can be entered. -/
theorem contest_goes_unheard :
    observe answer id contest congested = observe answer id contest backend ∧
      observe deaf.answer Prod.fst contest (congested, 0) = observe answer id contest backend ∧
      (contest.foldl (fun b job => job.after b) backend).log.entries.length = 3 ∧
      (contest.foldl (fun b job => job.after b) congested).queue.map (·.waiting.length) =
        some 1 := by
  have hjobs : ∀ job ∈ contest, ¬job.task.IsOnLog := by
    simp only [contest, List.forall_mem_cons]
    exact ⟨not_false, not_false, not_false, List.forall_mem_nil _⟩
  have hsame : backend.Same congested := ⟨⟨rfl, rfl, fun _ _ => rfl, rfl⟩, rfl⟩
  obtain ⟨hqueue, hdeaf⟩ := observe_eq_of_same hjobs hsame deaf 0
  exact ⟨hqueue, hdeaf, by decide +kernel, by decide +kernel⟩

end Sample

end AccessControl
