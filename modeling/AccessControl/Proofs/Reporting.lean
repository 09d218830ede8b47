import AccessControl.Proofs.Silence

/-!
# Reporting to the audit log

The services tell the audit log what happened and expect nothing of it.  An `Account` is a state
with the records that were handed to the log on the way there.  In the discipline `reporting` the
log may do with a record what it likes, and everything else is answered by the state.

`Comes x p Q` says of a program started in the account `x` that it comes to one result and one
account, which fulfil `Q`, whatever the log answers.  Where the log takes every entry, the records
of the account are those of the new entries (`Comes.booked`).  `Files p R` is for programs that
report what they have done.
-/

namespace AccessControl

open Service Backend

/-- A state, and the records that were handed to the audit log on the way there. -/
structure Account where
  state : Backend
  told : List AuditRecord := []

/-- The account after a call about the log. -/
def Account.hear (x : Account) : Call → Account
  | .appendEntry e => { x with told := x.told ++ [e.toAuditRecord] }
  | _ => x

/-- Records are handed to the log, which does not have to take them.  Everything else is answered
by the state. -/
def reporting : Discipline Call Call.Reply Account where
  allows _ c := ¬c.AboutLog ∨ c.Reports
  leads x c r y :=
    (c.AboutLog → y = x.hear c ∧ (c.name? = none → ∃ a, r = .ok a)) ∧
      (¬c.AboutLog → (r, y.state) = x.state.answer c ∧ y.told = x.told)

/-- Whatever the log answers, the program comes to the same result in the same account, and they
fulfil `Q`. -/
def Comes {α : Type} (x : Account) (p : Service α) (Q : Outcome α → Account → Prop) : Prop :=
  ∃ r y, Program.Meets reporting x p (fun r' y' => r' = r ∧ y' = y) ∧ Q r y

/-! ## The parts of a program -/

section Comes

variable {α β : Type} {x : Account} {p : Service α} {f : α → Service β}
  {Q Q' : Outcome α → Account → Prop} {R : Outcome β → Account → Prop}

theorem Comes.mono (h : Comes x p Q) (hQ : ∀ r y, Q r y → Q' r y) : Comes x p Q' := by
  obtain ⟨r, y, hmeets, hry⟩ := h
  exact ⟨r, y, hmeets, hQ r y hry⟩

theorem Comes.pure {a : α} (h : Q (.ok a) x) : Comes x (pure a) Q := ⟨.ok a, x, ⟨rfl, rfl⟩, h⟩

theorem Comes.fail {fault : Fault} (h : Q (.error fault) x) : Comes x (Program.fail fault) Q :=
  ⟨.error fault, x, ⟨rfl, rfl⟩, h⟩

theorem Comes.bind (h : Comes x p Q) (hok : ∀ a y, Q (.ok a) y → Comes y (f a) R)
    (herror : ∀ e y, Q (.error e) y → R (.error e) y) : Comes x (p >>= f) R := by
  obtain ⟨r, y, hmeets, hry⟩ := h
  cases r with
  | error e =>
      refine ⟨.error e, y, Program.Meets.bind hmeets ?_ fun _ _ h => ?_, herror e y hry⟩
      · rintro a _ ⟨⟨⟩, -⟩
      · exact ⟨congrArg Except.error (Except.error.inj h.1), h.2⟩
  | ok a =>
      obtain ⟨r, z, hrest, hrz⟩ := hok a y hry
      refine ⟨r, z, Program.Meets.bind hmeets ?_ ?_, hrz⟩
      · rintro a' y' ⟨ha, rfl⟩
        exact Except.ok.inj ha ▸ hrest
      · rintro e _ ⟨⟨⟩, -⟩

/-- A silent program runs as it would in the state, and tells nothing. -/
theorem Silent.comes (h : Silent p) (x : Account) :
    Comes x p fun r y => (r, y.state) = x.state.run p ∧ y.told = x.told := by
  induction p generalizing x with
  | done r => exact ⟨r, x, ⟨rfl, rfl⟩, rfl, rfl⟩
  | call c next ih =>
      obtain ⟨r, z, hmeets, hrun, htold⟩ :=
        ih (x.state.answer c).1 (h.2 _ () trivial) ⟨(x.state.answer c).2, x.told⟩
      refine ⟨r, z, ⟨.inl h.1, ?_⟩, hrun, htold⟩
      rintro r' y ⟨-, hleads⟩
      obtain ⟨hanswer, hsame⟩ := hleads h.1
      obtain rfl : y = ⟨(x.state.answer c).2, x.told⟩ := by
        rw [← hsame, ← hanswer]
      obtain rfl : r' = (x.state.answer c).1 := congrArg Prod.fst hanswer
      exact hmeets

end Comes

/-! ## Records -/

/-- A record is handed to the log, and what becomes of it there is not known. -/
theorem Audit.meets_record (x : Account) (now : Instant) (r : AuditRecord) :
    Program.Meets reporting x (record now r) fun o y =>
      (∃ e, o = .ok e) ∧ y = ⟨x.state, x.told ++ [r]⟩ := by
  refine Program.Meets.bind (Q := fun o y => (∃ id, o = .ok id) ∧ y = x)
    (Program.Meets.perform (.inr trivial) ?_) ?_ ?_
  · rintro o y ⟨hleads, -⟩
    obtain ⟨hy, hok⟩ := hleads rfl
    exact ⟨hok rfl, hy⟩
  · rintro id y ⟨-, rfl⟩
    refine Program.Meets.bind (Q := fun o z => (∃ a, o = .ok a) ∧ z = ⟨y.state, y.told ++ [r]⟩)
      (Program.Meets.attempt (Program.Meets.perform (.inr trivial) ?_)) ?_ ?_
    · rintro o z ⟨hleads, -⟩
      exact ⟨⟨o, rfl⟩, (hleads trivial).1⟩
    · rintro o z ⟨-, hz⟩
      cases o with
      | ok _ => exact ⟨⟨_, rfl⟩, hz⟩
      | error _ => exact ⟨⟨_, rfl⟩, hz⟩
    · rintro e z ⟨⟨_, ⟨⟩⟩, -⟩
  · rintro e y ⟨⟨_, ⟨⟩⟩, -⟩

/-- Whatever becomes of a record, the program goes on. -/
theorem Audit.comes_record (x : Account) (now : Instant) (r : AuditRecord) :
    Comes x (record now r >>= fun _ => pure ()) fun o y =>
      o = .ok () ∧ y = ⟨x.state, x.told ++ [r]⟩ := by
  refine ⟨.ok (), ⟨x.state, x.told ++ [r]⟩, ?_, rfl, rfl⟩
  refine Program.Meets.bind (Audit.meets_record x now r) ?_ ?_
  · rintro _ y ⟨-, rfl⟩
    exact Program.Meets.pure ⟨rfl, rfl⟩
  · rintro e y ⟨⟨_, ⟨⟩⟩, -⟩

/-- The records of a decision, where checks leave entries. -/
def Setting.recorded (s : Setting) (r : AuditRecord) : List AuditRecord :=
  if s.auditsChecks then [r] else []

theorem Authorization.comes_recordDecision (x : Account) (s : Setting) (r : AuditRecord) :
    Comes x (recordDecision s r) fun o y =>
      o = .ok () ∧ y = ⟨x.state, x.told ++ s.recorded r⟩ := by
  rw [recordDecision, Setting.recorded]
  split
  · exact Audit.comes_record x s.now r
  · exact Comes.pure ⟨rfl, by rw [List.append_nil]⟩

/-! ## Runs -/

section Run

variable {α : Type} {x : Account} {b c : Backend} {call : Call} {p : Service α}
  {Q : Outcome α → Account → Prop}

theorem Account.state_hear (x : Account) (call : Call) : (x.hear call).state = x.state := by
  cases call <;> rfl

/-- A call about the log that is allowed is answered in any way. -/
theorem leads_hear (hcall : call.AboutLog) (hallowed : reporting.allows x call) (b : Backend) :
    call.Reports ∧ reporting.leads x call (b.answer call).1 (x.hear call) := by
  have hreports : call.Reports := hallowed.resolve_left (not_not_intro hcall)
  refine ⟨hreports, fun _ => ⟨rfl, fun hname => ?_⟩, fun hother => absurd hcall hother⟩
  cases call with
  | newId kind => exact ⟨_, rfl⟩
  | appendEntry e => cases hname
  | _ => exact hreports.elim

/-- Calls are answered as the discipline says, by all backends that are the same as the state. -/
theorem Account.exists_leads_answer (hsame : x.state.Same b) (hallowed : reporting.allows x call) :
    ∃ y, reporting.leads x call (b.answer call).1 y ∧ y.state.Same (b.answer call).2 := by
  by_cases hcall : call.AboutLog
  · obtain ⟨hreports, hleads⟩ := leads_hear hcall hallowed b
    exact ⟨_, hleads, x.state_hear call ▸ hsame.trans (.of_reports hreports b)⟩
  · obtain ⟨hanswer, hend⟩ := hsame.answer hcall
    refine ⟨⟨(x.state.answer call).2, x.told⟩, ⟨fun habout => absurd habout hcall, fun _ => ?_⟩,
      hend⟩
    exact ⟨by rw [hanswer], rfl⟩

/-- The state is that of the account, the log takes every entry, and behind the entries that it had
in the beginning it has those of the account. -/
structure Account.Booked (b : Backend) (x : Account) (c : Backend) : Prop where
  same : x.state.Same c
  working : c.broken = []
  unqueued : c.queue = none
  wall : c.wall = b.wall
  entries : ∃ es, c.log.entries = b.log.entries ++ es ∧ es.map (·.toAuditRecord) = x.told

theorem Account.Booked.self (hworking : b.broken = []) (hqueue : b.queue = none) :
    Booked b ⟨b, []⟩ b :=
  ⟨.refl, hworking, hqueue, rfl, [], (List.append_nil _).symm, rfl⟩

/-- Where nothing was told, nothing was entered. -/
theorem Account.Booked.log (h : Booked b x c) (htold : x.told = []) : c.log = b.log := by
  obtain ⟨es, hentries, hes⟩ := h.entries
  rw [htold, List.map_eq_nil_iff] at hes
  rw [hes, List.append_nil] at hentries
  exact congrArg AuditLog.mk hentries

/-- Where one record was told, one entry of it was appended. -/
theorem Account.Booked.exists_entry (h : Booked b x c) {r : AuditRecord} (htold : x.told = [r]) :
    ∃ e : AuditEntry, c.log.entries = b.log.entries ++ [e] ∧ e.toAuditRecord = r := by
  obtain ⟨es, hentries, hes⟩ := h.entries
  obtain ⟨e, rfl, he⟩ := List.map_eq_singleton_iff.mp (hes.trans htold)
  exact ⟨e, hentries, he⟩

theorem Account.Booked.append (h : Booked b x c) (e : AuditEntry) :
    Booked b (x.hear (.appendEntry e)) (c.answer (.appendEntry e)).2 := by
  have hanswer : (c.answer (.appendEntry e)).2 =
      { c.useId .auditEntry with log := c.log.append e } := by
    have hout : c.outage? (.appendEntry e) = none := by simp [Backend.outage?, h.working]
    rw [Backend.answer, hout]
    dsimp only [serve, appendEntry]
    rw [h.unqueued]
  have hreports : (Call.appendEntry e).Reports := trivial
  have hsame := h.same.trans (.of_reports hreports c)
  rw [hanswer] at hsame ⊢
  obtain ⟨es, hentries, hes⟩ := h.entries
  refine ⟨hsame, h.working, h.unqueued, h.wall, es ++ [e], ?_, ?_⟩
  · rw [AuditLog.append, hentries, List.append_assoc]
  · rw [List.map_append, hes]
    rfl

theorem Account.Booked.exists_leads_answer (h : Booked b x c) (hallowed : reporting.allows x call) :
    ∃ y, reporting.leads x call (c.answer call).1 y ∧ Booked b y (c.answer call).2 := by
  by_cases hcall : call.AboutLog
  · obtain ⟨hreports, hleads⟩ := leads_hear hcall hallowed c
    refine ⟨_, hleads, ?_⟩
    cases call with
    | newId kind => exact h
    | appendEntry e => exact h.append e
    | _ => exact hreports.elim
  · obtain ⟨y, hleads, hsame⟩ := Account.exists_leads_answer h.same hallowed
    have hkept := KeepsLog.of_answer hcall c
    obtain ⟨-, htold⟩ := hleads.2 hcall
    refine ⟨y, hleads, hsame, (broken_answer c call).trans h.working,
      hkept.queue.trans h.unqueued, hkept.wall.trans h.wall, ?_⟩
    rw [hkept.log, htold]
    exact h.entries

/-- Where the log takes every entry, the program leaves the entries of its account. -/
theorem Comes.booked (h : Comes x p Q) (hc : x.Booked b c) :
    ∃ y, Q (c.run p).1 y ∧ y.Booked b (c.run p).2 := by
  obtain ⟨r, z, hmeets, hrz⟩ := h
  obtain ⟨y, ⟨hr, rfl⟩, hend⟩ := hmeets.run answer (I := fun (x : Account) c => x.Booked b c)
    (fun _ _ _ => Account.Booked.exists_leads_answer) hc
  exact ⟨y, by rwa [Backend.run, hr], hend⟩

end Run

/-! ## Programs that file records -/

/-- The records that a program has handed to the log when it comes to a result are as `R` says.
Where it fails, those on the way are not of denials. -/
inductive Filed {α : Type} (R : α → List AuditRecord → Prop) :
    Outcome α → List AuditRecord → Prop
  | done {a : α} {rs : List AuditRecord} (h : R a rs) : Filed R (.ok a) rs
  | failed {fault : Fault} {rs : List AuditRecord} (h : ∀ r ∈ rs, r.permitted = true) :
      Filed R (.error fault) rs

/-- From any account, the program files records with the log as `R` says. -/
def Files {α : Type} (p : Service α) (R : α → List AuditRecord → Prop) : Prop :=
  ∀ x, Comes x p fun r y => ∃ rs, y.told = x.told ++ rs ∧ Filed R r rs

section Files

variable {α β : Type} {p : Service α} {f : α → Service β} {R : β → List AuditRecord → Prop}

theorem Files.pure {a : β} (h : R a []) : Files (pure a) R :=
  fun _ => Comes.pure ⟨[], (List.append_nil _).symm, .done h⟩

/-- A silent program hands over nothing. -/
theorem Silent.files {p : Service β} (h : Silent p) (hR : ∀ a, R a []) : Files p R := by
  refine fun x => (h.comes x).mono fun r y hy => ⟨[], hy.2.trans (List.append_nil _).symm, ?_⟩
  cases r with
  | ok a => exact .done (hR a)
  | error fault => exact .failed (by simp)

/-- Do something silently first. -/
theorem Silent.before (h : Silent p) (hf : ∀ a, Files (f a) R) : Files (p >>= f) R := by
  refine fun x => Comes.bind (h.comes x) (fun a y hy => ?_) fun e y hy => ?_
  · exact (hf a y).mono fun r z hz => by rwa [hy.2] at hz
  · exact ⟨[], hy.2.trans (List.append_nil _).symm, .failed (by simp)⟩

/-- Report something that was done, and go on. -/
theorem Files.report {s : Setting} {r : AuditRecord} {f : Unit → Service β}
    (hr : r.permitted = true) (hf : Files (f ()) fun a rs => R a (r :: rs)) :
    Files (Administration.report s r >>= f) R := by
  refine fun x => Comes.bind (Audit.comes_record x s.now r) ?_ ?_
  · rintro _ _ ⟨-, rfl⟩
    refine (hf _).mono fun o z hz => ?_
    obtain ⟨rs, htold, hfiled⟩ := hz
    refine ⟨r :: rs, by rw [htold, List.append_assoc, List.singleton_append], ?_⟩
    cases hfiled with
    | done h => exact .done h
    | failed h => exact .failed (List.forall_mem_cons.mpr ⟨hr, h⟩)
  · rintro e _ ⟨⟨⟩, -⟩

theorem files_report {s : Setting} {r : AuditRecord} {R : Unit → List AuditRecord → Prop}
    (hR : R () [r]) : Files (Administration.report s r) R := by
  refine fun x => (Audit.comes_record x s.now r).mono ?_
  rintro _ _ ⟨rfl, rfl⟩
  exact ⟨[r], rfl, .done hR⟩

end Files

end AccessControl
