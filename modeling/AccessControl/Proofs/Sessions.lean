import AccessControl.Database.Script

/-!
# What sessions come to

A scripted database answers the statements of a session in their order.  For each way of sending a
statement there is one lemma: what the session comes to, and the script that is left behind.
-/

namespace AccessControl.Database.Script

variable {α β : Type} {script after : Script} {reply : Answer} {cause : DatabaseFault}

theorem sent_answer (statement : Statement) (script : Script) :
    (answer statement script).2.sent = script.sent ++ [statement] := by
  cases statement <;> rfl

/-- The next reply is used up by a statement that neither begins nor ends a transaction. -/
theorem answer_select (selection : Selection) (script : Script) :
    answer (.select selection) script =
      (script.replies.head?.getD (.error unscripted),
        { script with
          replies := script.replies.tail, sent := script.sent ++ [.select selection] }) := rfl

/-- The answer is what the session comes to, with its fault explained. -/
theorem run_send (script : Script) (explain : DatabaseFault → Fault) (statement : Statement) :
    script.run (Session.send explain statement) =
      ((answer statement script).1.mapError explain, (answer statement script).2) := by
  rw [run, Session.send, Program.run_bind, Program.run_perform]
  cases (answer statement script).1 <;> rfl

theorem run_bind_ok {p : Session α} {f : α → Session β} {a : α}
    (h : script.run p = (.ok a, after)) : script.run (p >>= f) = after.run (f a) :=
  Program.run_bind_ok h

theorem run_bind_error {p : Session α} {f : α → Session β} {fault : Fault}
    (h : script.run p = (.error fault, after)) : script.run (p >>= f) = (.error fault, after) :=
  Program.run_bind_error h

theorem run_write_ok {explain : DatabaseFault → Fault} {statement : Statement}
    (h : answer statement script = (.ok reply, after)) :
    script.run (Session.write explain statement) = (.ok (), after) := by
  have hsend := script.run_send explain statement
  rw [h] at hsend
  exact run_bind_ok hsend

theorem run_write_error {explain : DatabaseFault → Fault} {statement : Statement}
    (h : answer statement script = (.error cause, after)) :
    script.run (Session.write explain statement) = (.error (explain cause), after) := by
  have hsend := script.run_send explain statement
  rw [h] at hsend
  exact run_bind_error hsend

/-- A write that must touch a row sends the one statement that it is. -/
theorem sent_change (script : Script) (explain : DatabaseFault → Fault) (missing : Fault)
    (statement : Statement) :
    (script.run (Session.change explain missing statement)).2.sent =
      script.sent ++ [statement] := by
  have hsend := script.run_send explain statement
  rw [Session.change]
  cases hanswer : (answer statement script).1 with
  | error cause =>
      rw [hanswer] at hsend
      rw [run_bind_error hsend, sent_answer]
  | ok reply =>
      rw [hanswer] at hsend
      rw [run_bind_ok hsend]
      split <;> exact sent_answer statement script

/-- A write that must touch a row fails where it touches none. -/
theorem run_change {explain : DatabaseFault → Fault} {statement : Statement} (missing : Fault)
    (h : answer statement script = (.ok reply, after)) :
    script.run (Session.change explain missing statement) =
      (if reply.affected = 0 then .error missing else .ok (), after) := by
  have hsend := script.run_send explain statement
  rw [h] at hsend
  rw [Session.change, run_bind_ok hsend]
  split <;> rfl

theorem run_usable (task : String) (a : Option α) :
    script.run (Session.usable task a) =
      (a.elim (.error (.database task .unusable)) .ok, script) := by
  cases a <;> rfl

/-- The rows of an answer, when each of them can be read. -/
theorem run_all (task : String) {read : Row → Option α} (selection : Selection) {as : List α}
    (hreply : script.replies.head? = some (.ok reply)) (hread : reply.rows.mapM read = some as) :
    script.run (Session.all task read selection) =
      (.ok as, (answer (.select selection) script).2) := by
  have hsend := script.run_send (.database task) (.select selection)
  rw [answer_select, hreply, Option.getD_some] at hsend
  rw [Session.all, run_bind_ok hsend, run_usable, hread, answer_select]
  rfl

/-- All that can go wrong with a question for rows is a fault of its task. -/
theorem run_all_cases (script : Script) (task : String) (read : Row → Option α)
    (selection : Selection) :
    (∃ as, script.run (Session.all task read selection) =
      (.ok as, (answer (.select selection) script).2)) ∨
    (∃ cause, script.run (Session.all task read selection) =
      (.error (.database task cause), (answer (.select selection) script).2)) := by
  have hsend := script.run_send (.database task) (.select selection)
  cases hreply : (answer (.select selection) script).1 with
  | error cause =>
      rw [hreply] at hsend
      exact .inr ⟨cause, run_bind_error hsend⟩
  | ok reply =>
      rw [hreply] at hsend
      rw [Session.all, run_bind_ok hsend, run_usable]
      cases reply.rows.mapM read with
      | none => exact .inr ⟨.unusable, rfl⟩
      | some as => exact .inl ⟨as, rfl⟩

end AccessControl.Database.Script
