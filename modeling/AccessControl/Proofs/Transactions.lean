import AccessControl.Proofs.RowForms

/-!
# Roles that are written in one transaction

A role and its grants are written by a list of writes, which are sent one after the other up to the
first that fails.  What was sent, and how each of the writes was answered, is a log; what comes of
the session and what stays in the database are read off it.

The writes begin and end a transaction around the insertions, so of a role all rows stay or none
(`create_leaves_all_or_nothing`).  The rows are those of the role and of its grants
(`insertions_carry`).
-/

namespace AccessControl.Database

/-! ## Lists of writes -/

/-- A statement to be sent, with the fault that its failure is explained by. -/
structure Write where
  statement : Statement
  explain : DatabaseFault → Fault

/-- The writes in their order, up to the first that fails. -/
def Session.writeAll : List Write → Session Unit
  | [] => pure ()
  | w :: rest => do
    Session.write w.explain w.statement
    writeAll rest

/-- A write that was sent, with the reply to it. -/
structure Attempt extends Write where
  reply : Except DatabaseFault Answer

namespace Attempt

def Succeeds (a : Attempt) : Prop := ∃ answer, a.reply = .ok answer

def FailsWith (a : Attempt) (cause : DatabaseFault) : Prop := a.reply = .error cause

theorem FailsWith.not_succeeds {a : Attempt} {cause : DatabaseFault} (h : a.FailsWith cause) :
    ¬ a.Succeeds := by
  rintro ⟨answer, hanswer⟩
  cases h.symm.trans hanswer

theorem succeeds_or_failsWith (a : Attempt) : a.Succeeds ∨ ∃ cause, a.FailsWith cause := by
  cases hreply : a.reply with
  | ok answer => exact .inl ⟨answer, hreply⟩
  | error cause => exact .inr ⟨cause, hreply⟩

end Attempt

namespace Script

/-- The writes of a list that are sent, with the replies to them. -/
def attempts : List Write → Script → List Attempt
  | [], _ => []
  | w :: rest, script =>
    match answer w.statement script with
    | (.ok reply, after) => ⟨w, .ok reply⟩ :: attempts rest after
    | (.error cause, _) => [⟨w, .error cause⟩]

/-- The log begins with a write that succeeds and goes on, or it is one failure. -/
theorem attempts_cons_cases (w : Write) (rest : List Write) (script : Script) :
    (∃ reply after, answer w.statement script = (.ok reply, after) ∧
      script.attempts (w :: rest) = ⟨w, .ok reply⟩ :: after.attempts rest) ∨
    (∃ cause after, answer w.statement script = (.error cause, after) ∧
      script.attempts (w :: rest) = [⟨w, .error cause⟩]) := by
  rcases hanswer : answer w.statement script with ⟨cause | reply, after⟩
  · exact .inr ⟨cause, after, rfl, by rw [attempts, hanswer]⟩
  · exact .inl ⟨reply, after, rfl, by rw [attempts, hanswer]⟩

variable {writes : List Write} {script : Script}

theorem sent_writeAll (writes : List Write) (script : Script) :
    (script.run (Session.writeAll writes)).2.sent =
      script.sent ++ (script.attempts writes).map (·.statement) := by
  induction writes generalizing script with
  | nil => exact (List.append_nil _).symm
  | cons w rest ih =>
      have hsent := sent_answer w.statement script
      rcases attempts_cons_cases w rest script with
        ⟨reply, after, hanswer, hlog⟩ | ⟨cause, after, hanswer, hlog⟩
      all_goals rw [hanswer] at hsent
      · rw [Session.writeAll, run_bind_ok (run_write_ok hanswer), ih, hsent, hlog]
        simp
      · rw [Session.writeAll, run_bind_error (run_write_error hanswer), hsent, hlog]
        rfl

/-- What the writes come to: the first failure as it is explained, or else a success. -/
theorem run_writeAll_cases (writes : List Write) (script : Script) :
    ((script.run (Session.writeAll writes)).1 = .ok () ∧
      ∀ a ∈ script.attempts writes, a.Succeeds) ∨
    ∃ a ∈ script.attempts writes, ∃ cause, a.FailsWith cause ∧
      (script.run (Session.writeAll writes)).1 = .error (a.explain cause) := by
  induction writes generalizing script with
  | nil => exact .inl ⟨rfl, by simp [attempts]⟩
  | cons w rest ih =>
      rcases attempts_cons_cases w rest script with
        ⟨reply, after, hanswer, hlog⟩ | ⟨cause, after, hanswer, hlog⟩
      · rw [Session.writeAll, run_bind_ok (run_write_ok hanswer), hlog]
        rcases ih after with ⟨hrun, hall⟩ | ⟨a, ha, cause, hfails, hrun⟩
        · exact .inl ⟨hrun, List.forall_mem_cons.mpr ⟨⟨reply, rfl⟩, hall⟩⟩
        · exact .inr ⟨a, .tail _ ha, cause, hfails, hrun⟩
      · rw [Session.writeAll, run_bind_error (run_write_error hanswer), hlog]
        exact .inr ⟨_, .head _, cause, rfl, rfl⟩

theorem run_writeAll_of_failsWith {a : Attempt} {cause : DatabaseFault}
    (ha : a ∈ script.attempts writes) (h : a.FailsWith cause) :
    (script.run (Session.writeAll writes)).1 = .error (a.explain cause) := by
  induction writes generalizing script with
  | nil => cases ha
  | cons w rest ih =>
      rcases attempts_cons_cases w rest script with
        ⟨reply, after, hanswer, hlog⟩ | ⟨other, after, hanswer, hlog⟩
      all_goals rw [hlog] at ha
      · rw [Session.writeAll, run_bind_ok (run_write_ok hanswer)]
        cases ha with
        | head => exact absurd ⟨reply, rfl⟩ h.not_succeeds
        | tail _ ha => exact ih ha
      · obtain rfl := List.mem_singleton.mp ha
        obtain rfl : other = cause := Except.error.inj h
        rw [Session.writeAll, run_bind_error (run_write_error hanswer)]

theorem run_writeAll_eq_ok_iff :
    (script.run (Session.writeAll writes)).1 = .ok () ↔
      ∀ a ∈ script.attempts writes, a.Succeeds := by
  constructor
  · intro hrun a ha
    rcases a.succeeds_or_failsWith with h | ⟨cause, h⟩
    · exact h
    · cases hrun.symm.trans (run_writeAll_of_failsWith ha h)
  · intro hall
    rcases run_writeAll_cases writes script with ⟨hrun, -⟩ | ⟨a, ha, cause, hfails, -⟩
    · exact hrun
    · exact absurd (hall a ha) hfails.not_succeeds

theorem run_writeAll_eq_error_iff {fault : Fault} :
    (script.run (Session.writeAll writes)).1 = .error fault ↔
      ∃ a ∈ script.attempts writes, ∃ cause, a.FailsWith cause ∧ fault = a.explain cause := by
  constructor
  · intro hrun
    rcases run_writeAll_cases writes script with ⟨hok, -⟩ | ⟨a, ha, cause, hfails, herror⟩
    · cases hrun.symm.trans hok
    · exact ⟨a, ha, cause, hfails, Except.error.inj (hrun.symm.trans herror)⟩
  · rintro ⟨a, ha, cause, hfails, rfl⟩
    exact run_writeAll_of_failsWith ha hfails

theorem attempts_prefix (writes : List Write) (script : Script) :
    (script.attempts writes).map (·.toWrite) <+: writes := by
  induction writes generalizing script with
  | nil => exact List.prefix_rfl
  | cons w rest ih =>
      rcases attempts_cons_cases w rest script with
        ⟨reply, after, -, hlog⟩ | ⟨cause, after, -, hlog⟩
      all_goals rw [hlog, List.map_cons, List.prefix_cons_inj]
      · exact ih after
      · exact List.nil_prefix

theorem succeeds_of_mem_dropLast {a : Attempt} (ha : a ∈ (script.attempts writes).dropLast) :
    a.Succeeds := by
  induction writes generalizing script with
  | nil => cases ha
  | cons w rest ih =>
      rcases attempts_cons_cases w rest script with
        ⟨reply, after, -, hlog⟩ | ⟨cause, after, -, hlog⟩
      all_goals rw [hlog] at ha
      · cases hrest : after.attempts rest with
        | nil =>
            rw [hrest] at ha
            cases ha
        | cons b tail =>
            rw [hrest, List.dropLast_cons_cons, ← hrest] at ha
            cases ha with
            | head => exact ⟨reply, rfl⟩
            | tail _ h => exact ih h
      · cases ha

/-- Where nothing fails, everything is sent. -/
theorem attempts_eq_of_succeeds (h : ∀ a ∈ script.attempts writes, a.Succeeds) :
    (script.attempts writes).map (·.toWrite) = writes := by
  induction writes generalizing script with
  | nil => rfl
  | cons w rest ih =>
      rcases attempts_cons_cases w rest script with
        ⟨reply, after, -, hlog⟩ | ⟨cause, after, -, hlog⟩
      all_goals rw [hlog] at h ⊢
      · rw [List.map_cons, ih (List.forall_mem_cons.mp h).2]
      · exact absurd (h _ (.head _)) (Attempt.FailsWith.not_succeeds rfl)

end Script

/-! ## Transactions -/

namespace Write

def start : Write := ⟨.start, .database "begin transaction"⟩

def commit : Write := ⟨.commit, .database "commit transaction"⟩

def IsInsertion (w : Write) : Prop := ∃ table row, w.statement = .insert table row

theorem IsInsertion.ne_commit {w : Write} (h : w.IsInsertion) : w.statement ≠ .commit := by
  obtain ⟨table, row, hw⟩ := h
  simp [hw]

end Write

/-- The writes within one transaction. -/
def transaction (body : List Write) : List Write := .start :: body ++ [.commit]

/-- What stays in the database of a log, where `pending` has been written since the transaction
began.  It stays from the commit on.  A failure undoes it, and so does an end without a commit. -/
def lasting (pending : List Statement) : List Attempt → List Statement
  | [] => []
  | a :: rest =>
    match a.reply, a.statement with
    | .error _, _ => []
    | .ok _, .start => lasting [] rest
    | .ok _, .commit => pending ++ lasting [] rest
    | .ok _, statement => lasting (pending ++ [statement]) rest

theorem lasting_insertion {w : Write} (hw : w.IsInsertion) (reply : Answer)
    (pending : List Statement) (rest : List Attempt) :
    lasting pending (⟨w, .ok reply⟩ :: rest) = lasting (pending ++ [w.statement]) rest := by
  obtain ⟨table, row, hinsert⟩ := hw
  rw [lasting]
  simp only [hinsert]

section Transactions

variable {body : List Write} {script : Script}

/-- The end of a transaction that began before and in which `pending` was written. -/
theorem lasting_attempts_append_commit (script : Script)
    (hbody : ∀ w ∈ body, w.IsInsertion) (pending : List Statement) :
    ((∀ a ∈ script.attempts (body ++ [.commit]), a.Succeeds) ∧
      lasting pending (script.attempts (body ++ [.commit])) =
        pending ++ body.map (·.statement)) ∨
    ((∃ a ∈ script.attempts (body ++ [.commit]), ¬ a.Succeeds) ∧
      lasting pending (script.attempts (body ++ [.commit])) = []) := by
  -- The induction is on what is still to be inserted: each row moves over to `pending`.
  induction body generalizing script pending with
  | nil =>
      rcases Script.attempts_cons_cases .commit [] script with
        ⟨reply, after, -, hlog⟩ | ⟨cause, after, -, hlog⟩
      all_goals rw [List.nil_append, hlog]
      · exact .inl ⟨List.forall_mem_singleton.mpr ⟨reply, rfl⟩, rfl⟩
      · exact .inr ⟨⟨_, .head _, Attempt.FailsWith.not_succeeds rfl⟩, rfl⟩
  | cons w rest ih =>
      obtain ⟨hw, hrest⟩ := List.forall_mem_cons.mp hbody
      rcases Script.attempts_cons_cases w (rest ++ [.commit]) script with
        ⟨reply, after, -, hlog⟩ | ⟨cause, after, -, hlog⟩
      all_goals rw [List.cons_append, hlog]
      · rw [lasting_insertion hw]
        rcases ih after hrest (pending ++ [w.statement]) with
          ⟨hall, hlasting⟩ | ⟨⟨a, ha, hfails⟩, hlasting⟩
        · refine .inl ⟨List.forall_mem_cons.mpr ⟨⟨reply, rfl⟩, hall⟩, ?_⟩
          rw [hlasting, List.append_assoc, List.map_cons, List.singleton_append]
        · exact .inr ⟨⟨a, .tail _ ha, hfails⟩, hlasting⟩
      · exact .inr ⟨⟨_, .head _, Attempt.FailsWith.not_succeeds rfl⟩, rfl⟩

/-- Of a transaction everything stays or nothing. -/
theorem lasting_attempts_transaction (hbody : ∀ w ∈ body, w.IsInsertion) :
    ((∀ a ∈ script.attempts (transaction body), a.Succeeds) ∧
      lasting [] (script.attempts (transaction body)) = body.map (·.statement)) ∨
    ((∃ a ∈ script.attempts (transaction body), ¬ a.Succeeds) ∧
      lasting [] (script.attempts (transaction body)) = []) := by
  rcases Script.attempts_cons_cases .start (body ++ [.commit]) script with
    ⟨reply, after, -, hlog⟩ | ⟨cause, after, -, hlog⟩
  all_goals rw [transaction, List.cons_append, hlog]
  · rcases lasting_attempts_append_commit after hbody [] with
      ⟨hall, hlasting⟩ | ⟨⟨a, ha, hfails⟩, hlasting⟩
    · exact .inl ⟨List.forall_mem_cons.mpr ⟨⟨reply, rfl⟩, hall⟩, hlasting⟩
    · exact .inr ⟨⟨a, .tail _ ha, hfails⟩, hlasting⟩
  · exact .inr ⟨⟨_, .head _, Attempt.FailsWith.not_succeeds rfl⟩, rfl⟩

/-- The commit is sent last, after everything else. -/
theorem attempts_of_commit_mem (hbody : ∀ w ∈ body, w.IsInsertion)
    (h : .commit ∈ (script.attempts (transaction body)).map (·.statement)) :
    ∃ before last, script.attempts (transaction body) = before ++ [last] ∧
      before.map (·.toWrite) = .start :: body ∧ last.toWrite = .commit := by
  rcases List.prefix_concat_iff.mp (script.attempts_prefix (transaction body)) with heq | hshort
  · obtain ⟨before, lasts, hlog, hbefore, hlasts⟩ := List.map_eq_append_iff.mp heq
    obtain ⟨last, rfl, hlast⟩ := List.map_eq_singleton_iff.mp hlasts
    exact ⟨before, last, hlog, hbefore, hlast⟩
  · -- A log that is cut short consists of the beginning and of insertions.
    obtain ⟨a, ha, hcommit⟩ := List.mem_map.mp h
    rcases List.mem_cons.mp (hshort.subset (List.mem_map_of_mem ha)) with hstart | hmem
    · cases (congrArg Write.statement hstart).symm.trans hcommit
    · exact absurd hcommit (hbody _ hmem).ne_commit

theorem attempts_commit_iff (hbody : ∀ w ∈ body, w.IsInsertion) :
    (∃ a ∈ script.attempts (transaction body), a.statement = .commit ∧ a.Succeeds) ↔
      ∀ a ∈ script.attempts (transaction body), a.Succeeds := by
  constructor
  · rintro ⟨c, hc, hcommit, hsucceeds⟩
    obtain ⟨before, last, hlog, hbefore, hlast⟩ :=
      attempts_of_commit_mem hbody (List.mem_map.mpr ⟨c, hc, hcommit⟩)
    have hdone : ∀ a ∈ before, a.Succeeds := fun a ha =>
      Script.succeeds_of_mem_dropLast (by rwa [hlog, List.dropLast_concat])
    have hc' : c = last := by
      rw [hlog] at hc
      rcases List.mem_append.mp hc with hmem | hmem
      · have hwrite := List.mem_map_of_mem (f := (·.toWrite)) hmem
        rw [hbefore] at hwrite
        rcases List.mem_cons.mp hwrite with hstart | hrow
        · cases (congrArg Write.statement hstart).symm.trans hcommit
        · exact absurd hcommit (hbody _ hrow).ne_commit
      · exact List.mem_singleton.mp hmem
    intro a ha
    rw [hlog] at ha
    rcases List.mem_append.mp ha with hmem | hmem
    · exact hdone a hmem
    · rwa [List.mem_singleton.mp hmem, ← hc']
  · intro hall
    have hcommit : Write.commit ∈ (script.attempts (transaction body)).map (·.toWrite) := by
      rw [Script.attempts_eq_of_succeeds hall]
      simp [transaction]
    obtain ⟨c, hc, hwrite⟩ := List.mem_map.mp hcommit
    exact ⟨c, hc, congrArg Write.statement hwrite, hall c hc⟩

end Transactions

/-! ## The rows of a role -/

namespace Roles

/-- The role and its grants, which have a row each. -/
def insertions (role : Role) : List Statement :=
  insertRole role :: role.grants.map (insertGrant role.id)

def roleWrite (role : Role) : Write :=
  ⟨insertRole role, faultOn uniqueViolation (.roleKeyTaken role.key.text) "create role"⟩

def grantWrite (role : Role) (g : RoleGrant) : Write where
  statement := insertGrant role.id g
  explain := faultOn uniqueViolation
    (.grantListedTwice role.key.text g.permission.resourceType g.permission.action)
    "persist role grants"

def rowWrites (role : Role) : List Write := roleWrite role :: role.grants.map (grantWrite role)

def creation (role : Role) : List Write := transaction (rowWrites role)

theorem isInsertion_of_mem_rowWrites {role : Role} {w : Write} (hw : w ∈ rowWrites role) :
    w.IsInsertion := by
  rcases List.mem_cons.mp hw with rfl | hw
  · exact ⟨_, _, rfl⟩
  · obtain ⟨g, -, rfl⟩ := List.mem_map.mp hw
    exact ⟨_, _, rfl⟩

theorem map_statement_rowWrites (role : Role) :
    (rowWrites role).map (·.statement) = insertions role := by
  simp [rowWrites, insertions, roleWrite, grantWrite, Function.comp_def]

theorem writeGrants_append_commit (role : Role) (grants : List RoleGrant) :
    (do writeGrants role grants; Session.write Write.commit.explain Write.commit.statement) =
      Session.writeAll (grants.map (grantWrite role) ++ [.commit]) := by
  induction grants with
  | nil => exact (Program.bind_pure _).symm
  | cons g rest ih =>
      rw [writeGrants, List.map_cons, List.cons_append, Session.writeAll, ← ih]
      exact Program.bind_assoc _ _ _

theorem create_eq_writeAll (role : Role) : create role = Session.writeAll (creation role) := by
  rw [creation, transaction, rowWrites, List.cons_append, List.cons_append, Session.writeAll,
    Session.writeAll, ← writeGrants_append_commit]
  rfl

/-- A row that is taken is a conflict; all else is no fault of the request. -/
theorem kind_faultOn {fault : Fault} (hfault : fault.kind = .conflict) (task : String)
    (cause : DatabaseFault) :
    ((∃ message, cause = .server uniqueViolation message) ∧
      (faultOn uniqueViolation fault task cause).kind = .conflict) ∨
    ((¬ ∃ message, cause = .server uniqueViolation message) ∧
      (faultOn uniqueViolation fault task cause).kind = .internal) := by
  cases cause with
  | unusable => exact .inr ⟨by simp, rfl⟩
  | server code message =>
      by_cases hcode : code = uniqueViolation
      · subst hcode
        exact .inl ⟨⟨message, rfl⟩, by simp [faultOn, hfault]⟩
      · exact .inr ⟨by simp [hcode], by simp [faultOn, hcode, Fault.kind]⟩

/-- The first insertion carries the role, and each of the others a grant under the identifier of the
role. -/
theorem insertions_carry (role : Role) :
    ∃ (row : Row) (grantRows : List Row), insertions role =
        .insert "roles" row :: grantRows.map (.insert "role_permissions") ∧
      StoredRole.ofRow? row = some role.stored ∧
      grantRows.mapM StoredGrant.ofRow? = some (role.grants.map (⟨role.id, ·⟩)) := by
  refine ⟨roleRow role, role.grants.map (ownedGrantRow role.id), ?_, rfl, ?_⟩
  · rw [List.map_map]
    rfl
  · rw [List.mapM_map]
    exact mapM_eq_some_map fun g _ => ofRow?_ownedGrantRow role.id g

theorem isInsertion_of_mem_insertions {role : Role} {statement : Statement}
    (h : statement ∈ insertions role) : ∃ table row, statement = .insert table row := by
  obtain ⟨row, grantRows, heq, -⟩ := insertions_carry role
  rw [heq] at h
  rcases List.mem_cons.mp h with rfl | h
  · exact ⟨_, _, rfl⟩
  · obtain ⟨grantRow, -, rfl⟩ := List.mem_map.mp h
    exact ⟨_, _, rfl⟩

theorem statement_mem_insertions {role : Role} {w : Write} (hw : w ∈ rowWrites role) :
    w.statement ∈ insertions role := by
  rw [← map_statement_rowWrites]
  exact List.mem_map_of_mem hw

/-- The writes of a role are explained as conflicts where a row of it is taken, and only there. -/
theorem kind_explain {role : Role} {w : Write} (hw : w ∈ creation role) (cause : DatabaseFault) :
    ((w.statement ∈ insertions role ∧ ∃ message, cause = .server uniqueViolation message) ∧
      (w.explain cause).kind = .conflict) ∨
    (¬ (w.statement ∈ insertions role ∧ ∃ message, cause = .server uniqueViolation message) ∧
      (w.explain cause).kind = .internal) := by
  have hcontrol {statement : Statement} (h : ¬ ∃ table row, statement = .insert table row) :
      ¬ (statement ∈ insertions role ∧ ∃ message, cause = .server uniqueViolation message) :=
    fun hmem => h (isInsertion_of_mem_insertions hmem.1)
  have hrow (hrow : w ∈ rowWrites role) : ∃ fault task,
      w.explain = faultOn uniqueViolation fault task ∧ fault.kind = .conflict := by
    rcases List.mem_cons.mp hrow with rfl | hgrant
    · exact ⟨_, _, rfl, rfl⟩
    · obtain ⟨g, -, rfl⟩ := List.mem_map.mp hgrant
      exact ⟨_, _, rfl, rfl⟩
  simp only [creation, transaction, List.mem_append, List.mem_cons, List.not_mem_nil,
    or_false] at hw
  rcases hw with (rfl | hw) | rfl
  · exact .inr ⟨hcontrol (by simp [Write.start]), rfl⟩
  · obtain ⟨fault, task, hexplain, hfault⟩ := hrow hw
    have hmem := statement_mem_insertions hw
    rw [hexplain]
    rcases kind_faultOn hfault task cause with ⟨htaken, hkind⟩ | ⟨hother, hkind⟩
    · exact .inl ⟨⟨hmem, htaken⟩, hkind⟩
    · exact .inr ⟨fun h => hother h.2, hkind⟩
  · exact .inr ⟨hcontrol (by simp [Write.commit]), rfl⟩

/-! ## What the creation of a role comes to -/

section Creation

variable {role : Role} {script : Script}

theorem run_create_eq_ok_iff :
    (script.run (create role)).1 = .ok () ↔ ∀ a ∈ script.attempts (creation role), a.Succeeds := by
  rw [create_eq_writeAll, Script.run_writeAll_eq_ok_iff]

theorem run_create_eq_error_iff {fault : Fault} :
    (script.run (create role)).1 = .error fault ↔
      ∃ a ∈ script.attempts (creation role), ∃ cause, a.FailsWith cause ∧
        fault = a.explain cause := by
  rw [create_eq_writeAll, Script.run_writeAll_eq_error_iff]

/-- Only writes of the role are sent. -/
theorem toWrite_mem_creation {a : Attempt} (ha : a ∈ script.attempts (creation role)) :
    a.toWrite ∈ creation role :=
  (script.attempts_prefix (creation role)).subset (List.mem_map_of_mem ha)

theorem create_conflict_iff :
    (∃ fault, (script.run (create role)).1 = .error fault ∧ fault.kind = .conflict) ↔
      ∃ a ∈ script.attempts (creation role), a.statement ∈ insertions role ∧
        ∃ message, a.FailsWith (.server uniqueViolation message) := by
  constructor
  · rintro ⟨fault, hfault, hkind⟩
    obtain ⟨a, ha, cause, hfails, rfl⟩ := run_create_eq_error_iff.mp hfault
    rcases kind_explain (toWrite_mem_creation ha) cause with
      ⟨⟨hrow, message, rfl⟩, -⟩ | ⟨-, hinternal⟩
    · exact ⟨a, ha, hrow, message, hfails⟩
    · cases hkind.symm.trans hinternal
  · rintro ⟨a, ha, hrow, message, hfails⟩
    rcases kind_explain (toWrite_mem_creation ha) (.server uniqueViolation message) with
      ⟨-, hkind⟩ | ⟨hnot, -⟩
    · exact ⟨_, run_create_eq_error_iff.mpr ⟨a, ha, _, hfails, rfl⟩, hkind⟩
    · exact absurd ⟨hrow, message, rfl⟩ hnot

theorem kind_of_create {fault : Fault} (h : (script.run (create role)).1 = .error fault) :
    fault.kind = .conflict ∨ fault.kind = .internal := by
  obtain ⟨a, ha, cause, hfails, rfl⟩ := run_create_eq_error_iff.mp h
  exact (kind_explain (toWrite_mem_creation ha) cause).imp And.right And.right

/-- The rows of a role stay if its creation succeeds, and otherwise none of them. -/
theorem lasting_creation (role : Role) (script : Script) :
    ((script.run (create role)).1 = .ok () ∧
      lasting [] (script.attempts (creation role)) = insertions role) ∨
    ((script.run (create role)).1 ≠ .ok () ∧
      lasting [] (script.attempts (creation role)) = []) := by
  have hrows : ∀ w ∈ rowWrites role, w.IsInsertion := fun w => isInsertion_of_mem_rowWrites
  rw [Ne, run_create_eq_ok_iff]
  rcases lasting_attempts_transaction hrows with
    ⟨hall, hlasting⟩ | ⟨⟨a, ha, hfails⟩, hlasting⟩
  · exact .inl ⟨hall, hlasting.trans (map_statement_rowWrites role)⟩
  · exact .inr ⟨fun hall => hfails (hall a ha), hlasting⟩

end Creation

/-- The statements of a role are sent within a transaction and in their order, up to the first that
fails.  The commit is sent if all rows have been inserted, and with its success the creation
succeeds and all rows stay.  Otherwise none of them stays, and the fault is a conflict if a row was
taken and an internal one if anything else failed. -/
theorem create_leaves_all_or_nothing (role : Role) (script : Script) :
    let log := script.attempts (creation role)
    let result := script.run (create role)
    result.2.sent = script.sent ++ log.map (·.statement) ∧
    log.map (·.statement) <+: .start :: insertions role ++ [.commit] ∧
    (∀ a ∈ log.dropLast, a.Succeeds) ∧
    ((∀ a ∈ log, a.Succeeds) →
      log.map (·.statement) = .start :: insertions role ++ [.commit]) ∧
    (.commit ∈ log.map (·.statement) →
      log.dropLast.map (·.statement) = .start :: insertions role) ∧
    (result.1 = .ok () ↔ ∃ a ∈ log, a.statement = .commit ∧ a.Succeeds) ∧
    ((∃ fault, result.1 = .error fault ∧ fault.kind = .conflict) ↔
      ∃ a ∈ log, a.statement ∈ insertions role ∧
        ∃ message, a.FailsWith (.server uniqueViolation message)) ∧
    (∀ fault, result.1 = .error fault → fault.kind = .conflict ∨ fault.kind = .internal) ∧
    (result.1 = .ok () → lasting [] log = insertions role) ∧
    (result.1 ≠ .ok () → lasting [] log = []) := by
  intro log result
  have hrows : ∀ w ∈ rowWrites role, w.IsInsertion := fun w => isInsertion_of_mem_rowWrites
  have hwrites : (creation role).map (·.statement) = .start :: insertions role ++ [.commit] := by
    simp [creation, transaction, map_statement_rowWrites, Write.start, Write.commit]
  have hstatements : log.map (·.statement) = (log.map (·.toWrite)).map (·.statement) := by
    simp [Function.comp_def]
  refine ⟨?sent, ?inOrder, fun a => Script.succeeds_of_mem_dropLast, ?all, ?commit,
    run_create_eq_ok_iff.trans (attempts_commit_iff hrows).symm, create_conflict_iff,
    fun fault => kind_of_create, ?stays, ?undone⟩
  case sent => rw [← Script.sent_writeAll, ← create_eq_writeAll]
  case inOrder =>
      rw [hstatements, ← hwrites]
      exact (script.attempts_prefix (creation role)).map _
  case all =>
      intro hall
      rw [hstatements, Script.attempts_eq_of_succeeds hall, hwrites]
  case commit =>
      intro hcommit
      obtain ⟨before, last, hlog, hbefore, -⟩ := attempts_of_commit_mem hrows hcommit
      have hbegun := congrArg (List.map Write.statement) hbefore
      rw [List.map_map, List.map_cons, map_statement_rowWrites] at hbegun
      rw [show log = before ++ [last] from hlog, List.dropLast_concat]
      exact hbegun
  case stays =>
      intro hok
      rcases lasting_creation role script with ⟨-, hlasting⟩ | ⟨hfails, -⟩
      · exact hlasting
      · exact absurd hok hfails
  case undone =>
      intro hfails
      rcases lasting_creation role script with ⟨hok, -⟩ | ⟨-, hlasting⟩
      · exact absurd hok hfails
      · exact hlasting

end Roles

end AccessControl.Database

namespace AccessControl

namespace Sample

open Database

/-- A database that takes the row of a role and of one grant, and has the next grant already. -/
def grantTaken : Script where
  replies := [.ok { affected := 1 }, .ok { affected := 1 },
    .error (.server uniqueViolation "duplicate key")]

end Sample

open Database Sample

/-- Of the porter nothing stays where the second grant is refused, and no commit is sent. -/
theorem porter_is_not_half_created :
    (grantTaken.run (Roles.create porter)).2.sent = .start :: Roles.insertions porter ∧
      (∃ fault, (grantTaken.run (Roles.create porter)).1 = .error fault ∧
        fault.kind = .conflict) ∧
      lasting [] (grantTaken.attempts (Roles.creation porter)) = [] := by
  obtain ⟨hsent, -, -, -, -, -, hconflict, -, -, hundone⟩ :=
    Roles.create_leaves_all_or_nothing porter grantTaken
  let refused : Database.Attempt :=
    ⟨Roles.grantWrite porter { permission := ⟨"task", "update"⟩ },
      .error (.server uniqueViolation "duplicate key")⟩
  have hrefused : refused ∈ grantTaken.attempts (Roles.creation porter) :=
    .tail _ (.tail _ (.tail _ (.head _)))
  have hrow : refused.statement ∈ Roles.insertions porter := .tail _ (.tail _ (.head _))
  have hfails := hconflict.mpr ⟨refused, hrefused, hrow, "duplicate key", rfl⟩
  refine ⟨hsent, hfails, hundone fun hok => ?_⟩
  obtain ⟨fault, herror, -⟩ := hfails
  cases hok.symm.trans herror

end AccessControl
