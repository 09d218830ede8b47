import AccessControl.Proofs.Records
import AccessControl.Proofs.Runs
import AccessControl.Proofs.Services

/-!
# Histories of all services

A history is a sequence of tasks of authorization, of administration and of making the first roles,
each carried out under some setting.  Between two of them everything but the store may become
different, as in a run of operations.

A task changes the store in one of three ways (`Job.Change`).  Authorization does not change it,
administration changes it as an act does, and the making of an organization's first roles puts in
roles of the templates, one after the other, where no role has their key (`Founding`).  It may stop
on the way, and what has been put in then stays.
-/

namespace AccessControl

open Service Backend

/-! ## Authorization -/

/-- Whoever looks around leaves the records as they are. -/
theorem Looks.keeps {α : Type} {organization : OrganizationId} {s : Setting} {b : Backend}
    {p : Service α} {F : α → Prop} (h : Looks organization s b.situation p F) :
    Keeps b (b.run p).2 := by
  have hrun := Program.Meets.run answer (I := fun x c => c.situation = x ∧ Keeps b c) ?_ h
    ⟨rfl, .refl⟩
  · obtain ⟨-, -, -, hkeeps⟩ := hrun
    exact hkeeps
  · rintro x c call ⟨rfl, hkeeps⟩ hlooks
    have hstep := hlooks.keeps c
    exact ⟨c.situation, ⟨rfl, c, rfl, rfl⟩, hstep.situation, hkeeps.trans hstep⟩

/-- No operation of authorization changes the records. -/
theorem Authorization.Operation.keeps_perform {organization : OrganizationId} (s : Setting)
    (b : Backend) (op : Operation) : Keeps b (b.run (op.perform s organization)).2 := by
  cases op with
  | ruleSet user => exact (looks_ruleSet user).keeps
  | authorize user action target => exact (looks_authorize user action target).keeps
  | explain user action target => exact (looks_explain user action target).keeps
  | decide user context action target => exact (looks_decide user context action target).keeps
  | require user context action target =>
      exact (looks_require ⟨user, organization, context⟩ action target).keeps
  | capabilities user => exact (looks_capabilities user).keeps
  | effectivePriority user => exact (looks_effectivePriority (s := s)).keeps
  | forgetUser user =>
      have hforgets : Finishes b (Authorization.forgetUser s organization user) fun _ c =>
        Keeps b c := finishes_forgetUser b
      obtain ⟨_, c, hrun, hkeeps⟩ := hforgets
      rw [perform, hrun]
      exact hkeeps
  | forgetOrganization =>
      have hforgets : Finishes b (Authorization.forgetOrganization s organization) fun _ c =>
        Keeps b c := finishes_forgetOrganization b
      obtain ⟨_, c, hrun, hkeeps⟩ := hforgets
      rw [perform, hrun]
      exact hkeeps

/-! ## The first roles -/

/-- The state in which the role of a template has been put in. -/
def Backend.addTemplate (b : Backend) (organization : OrganizationId) (r : LegacyRole) : Backend :=
  { b.useId .role with store := b.store.putRole (r.toRole (b.nextId .role) organization) }

namespace Bootstrap

variable {organization : OrganizationId} {b c : Backend}

/-- Roles of these templates are put in, in their order, each where no role has its key.  Any of
them may be left out. -/
inductive Founding (organization : OrganizationId) : List LegacyRole → Backend → Backend → Prop
  | nil (b : Backend) : Founding organization [] b b
  | skip {r : LegacyRole} {rs : List LegacyRole} {b c : Backend}
      (h : Founding organization rs b c) : Founding organization (r :: rs) b c
  | role {r : LegacyRole} {rs : List LegacyRole} {b c : Backend}
      (hfree : b.store.findRoleByKey organization r.key = none)
      (h : Founding organization rs (b.addTemplate organization r) c) :
      Founding organization (r :: rs) b c

theorem Founding.refl (rs : List LegacyRole) (b : Backend) : Founding organization rs b b := by
  induction rs with
  | nil => exact .nil b
  | cons r rs ih => exact .skip ih

/-- The role of a template is stored where its key is free, or that fails and changes nothing. -/
theorem run_createRole_cases (b : Backend) (organization : OrganizationId) (r : LegacyRole) :
    (∃ fault, b.run (ask (.createRole (r.toRole (b.nextId .role) organization))) =
        (.error fault, b)) ∨
      b.store.findRoleByKey organization r.key = none ∧
        b.run (ask (.createRole (r.toRole (b.nextId .role) organization))) =
          (.ok (), b.addTemplate organization r) := by
  change (∃ fault, b.answer (.createRole (r.toRole (b.nextId .role) organization)) =
      (.error fault, b)) ∨
    _ ∧ b.answer (.createRole (r.toRole (b.nextId .role) organization)) = _
  rw [answer]
  cases b.outage? (.createRole (r.toRole (b.nextId .role) organization)) with
  | some fault => exact .inl ⟨fault, rfl⟩
  | none =>
      rcases insert_cases .role (b.store.createRole (r.toRole (b.nextId .role) organization)) with
        hfails | ⟨store, hstore, hrun⟩
      · exact .inl hfails
      · obtain ⟨hfree, rfl⟩ := Store.createRole_eq_ok.mp hstore
        exact .inr ⟨hfree, hrun⟩

/-- A role of a template is put in, or everything stays as it is. -/
theorem run_ensureRole (b : Backend) (organization : OrganizationId) (r : LegacyRole) :
    (b.run (ensureRole organization r)).2 = b ∨
      b.store.findRoleByKey organization r.key = none ∧
        (b.run (ensureRole organization r)).2 = b.addTemplate organization r := by
  rw [ensureRole]
  rcases run_ask_cases b (.findRoleByKey organization r.key) rfl with ⟨fault, hask⟩ | hask
  · exact .inl (by rw [run_bind_error hask])
  rw [run_bind_ok hask]
  cases hfound : b.store.findRoleByKey organization r.key with
  | some role => exact .inl rfl
  | none =>
      dsimp only
      rcases run_ask_cases b (.newId .role) rfl with ⟨fault, hid⟩ | hid
      · exact .inl (by rw [run_bind_error hid])
      rw [run_bind_ok hid]
      rcases run_createRole_cases b organization r with ⟨fault, hcreated⟩ | ⟨-, hcreated⟩
      · exact .inl (by rw [run_bind_error hcreated])
      · rw [run_bind_ok hcreated]
        exact .inr ⟨rfl, rfl⟩

/-- The making of the roles is a founding, however far it gets. -/
theorem founding_ensureRoles (rs : List LegacyRole) :
    Founding organization rs b (b.run (ensureRoles organization rs)).2 := by
  induction rs generalizing b with
  | nil => exact .nil b
  | cons r rs ih =>
      have hrest : Founding organization rs (b.run (ensureRole organization r)).2
          (b.run (ensureRoles organization (r :: rs))).2 := by
        rw [ensureRoles]
        rcases hrun : b.run (ensureRole organization r) with ⟨fault | created, c⟩
        · -- The first failure ends the making, so the templates behind it are left out.
          rw [run_bind_error hrun]
          exact .refl rs c
        · rw [run_bind_ok hrun, run_bind_pure]
          exact ih
      rcases run_ensureRole b organization r with hsame | ⟨hfree, hadded⟩
      · rw [hsame] at hrest
        exact .skip hrest
      · rw [hadded] at hrest
        exact .role hfree hrest

/-- With fresh identifiers for all of them, the new roles take the place of none. -/
theorem Founding.mem_of_freshAhead {rs : List LegacyRole} (h : Founding organization rs b c)
    (hfresh : b.FreshAhead rs.length) {role : Role} (hrole : role ∈ b.store.roles.rows) :
    role ∈ c.store.roles.rows := by
  induction h with
  | nil => exact hrole
  | skip _ ih => exact ih (hfresh.mono (Nat.le_succ _)) hrole
  | @role r rs b c hfree _ ih =>
      have hadded : RecordChange organization b ∅ 1 (b.addTemplate organization r) :=
        .newRole rfl rfl hfree
      have hmany : 1 ≤ (r :: rs).length := Nat.le_add_left 1 _
      apply ih (hadded.freshAhead hfresh hmany)
      exact Table.mem_put.mpr (.inr ⟨hrole, hfresh.id_ne_nextId hmany hrole⟩)

end Bootstrap

/-! ## Jobs -/

/-- One task as it is carried out. -/
structure Job where
  setting : Setting
  task : Task

/-- The state after a job, whether the task succeeded or not. -/
def Job.after (job : Job) (b : Backend) : Backend := (b.run (job.task.perform job.setting)).2

/-- An act is a job of administration. -/
def Act.job (act : Act) : Job := ⟨act.setting, .administration act.actor act.operation⟩

/-- The ways in which a job changes what is stored in the state `b`. -/
inductive Job.Change (b : Backend) : Job → Store → Prop
  | nothing {job : Job} : Change b job b.store
  | act (act : Act) : Change b act.job (act.after b).store
  | founded {s : Setting} {organization : OrganizationId} {c : Backend}
      (h : Bootstrap.Founding organization LegacyRole.all b c) :
      Change b ⟨s, .bootstrap organization⟩ c.store

/-- A job changes the store in one of these ways. -/
theorem Job.change (job : Job) (b : Backend) : Change b job (job.after b).store := by
  obtain ⟨s, task⟩ := job
  cases task with
  | authorization organization op =>
      have hstore : (Job.after ⟨s, .authorization organization op⟩ b).store = b.store :=
        (op.keeps_perform s b).store
      rw [hstore]
      exact .nothing
  | administration actor op => exact .act ⟨s, actor, op⟩
  | bootstrap organization => exact .founded (Bootstrap.founding_ensureRoles LegacyRole.all)

/-- The states that are reached by jobs that are allowed in the states in which they begin. -/
inductive History (allowed : Backend → Job → Prop) : Backend → Backend → Prop
  | refl (b : Backend) : History allowed b b
  | job {b c : Backend} (job : Job) (h : History allowed b c) (hallowed : allowed c job) :
      History allowed b (job.after c)
  | drift {b c d : Backend} (h : History allowed b c) (hstore : d.store = c.store) :
      History allowed b d

/-- What holds of the store in the beginning and is preserved by every change that an allowed job
can make holds at the end. -/
theorem History.preserves {allowed : Backend → Job → Prop} {I : Store → Prop} {b c : Backend}
    (h : History allowed b c) (hbegin : I b.store)
    (hchange : ∀ (d : Backend) (job : Job) (store : Store), I d.store → allowed d job →
      Job.Change d job store → I store) : I c.store := by
  induction h with
  | refl => exact hbegin
  | job job _ hallowed ih => exact hchange _ job _ ih hallowed (job.change _)
  | drift _ hstore ih => exact hstore ▸ ih

end AccessControl
