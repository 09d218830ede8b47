import AccessControl.Proofs.Indifference
import AccessControl.Server

/-!
# What becomes of entries that wait

A queue stands in front of a repository of audit entries.  Entries are put in at any time, and a
writer takes out the oldest one, hands it to the repository, and begins again.  Every way in which
the two can follow each other is given by a list of events, and every moment is the end of one.

What an event adds to the entries handed on, the one at hand and those that wait is what it has put
in (`Delivery.inOrder_step`).  So at each moment they are the entries that were put in, in that
order (`Delivery.lossless`).  How the repository answers makes no difference to this: without it the
same is put in, waits and is handed on (`Delivery.aside_after`).

The queues of backends and of servers are of this kind (`Backend.Shows.after`, `Server.enqueue_eq`,
`Server.run_writeNext`).  Behind them are the log and the table of a database.
-/

namespace AccessControl

variable {σ : Type}

namespace AuditRepository

variable (repository : AuditRepository σ)

/-- The state after some entries. -/
def after (r : σ) (entries : List AuditEntry) : σ :=
  entries.foldl (fun r e => (repository.append e r).2) r

/-- Those of some entries that the repository does not fail to take. -/
def taken : σ → List AuditEntry → List AuditEntry
  | _, [] => []
  | r, e :: rest =>
    (if (repository.append e r).1.isOk then [e] else []) ++ taken (repository.append e r).2 rest

/-- The entries that the repository has are those that it has taken, in order, and an entry at which
it fails is not among them. -/
def Lists (listed : σ → List AuditEntry) : Prop :=
  ∀ e r, listed (repository.append e r).2 =
    listed r ++ if (repository.append e r).1.isOk then [e] else []

variable {repository}

theorem Lists.after {listed : σ → List AuditEntry} (h : repository.Lists listed) (r : σ)
    (entries : List AuditEntry) :
    listed (repository.after r entries) = listed r ++ repository.taken r entries := by
  induction entries generalizing r with
  | nil => exact (List.append_nil _).symm
  | cons e rest ih =>
      change listed (repository.after (repository.append e r).2 rest) = _
      rw [ih, h, taken, List.append_assoc]

theorem after_concat (r : σ) (entries : List AuditEntry) (e : AuditEntry) :
    repository.after r (entries ++ [e]) = (repository.append e (repository.after r entries)).2 := by
  rw [after, after, List.foldl_append]
  rfl

/-- It takes every entry and keeps none. -/
def sink : AuditRepository Unit := ⟨fun _ _ => (.ok (), ())⟩

end AuditRepository

/-- A queue with its writer and the repository behind it. -/
structure Delivery (σ : Type) where
  queue : AuditQueue
  /-- What the writer has taken out and not handed on yet. -/
  atHand : Option AuditEntry := none
  /-- What the writer has handed to the repository, in order. -/
  handed : List AuditEntry := []
  repository : σ

namespace Delivery

inductive Event where
  | append (e : AuditEntry)
  /-- The writer takes out the oldest entry, or hands on the one that it has. -/
  | proceed

/-- The event with a writer that takes an entry out and hands it on at once. -/
def Event.whole : Event → List Event
  | .append e => [.append e]
  | .proceed => [.proceed, .proceed]

def append (d : Delivery σ) (e : AuditEntry) : Outcome Unit × Delivery σ :=
  match d.queue.push e with
  | .ok queue => (.ok (), { d with queue })
  | .error fault => (.error fault, d)

def proceed (repository : AuditRepository σ) (d : Delivery σ) : Delivery σ :=
  match d.atHand with
  | some e =>
    { d with atHand := none, handed := d.handed ++ [e],
             repository := (repository.append e d.repository).2 }
  | none =>
    match d.queue.next? with
    | none => d
    | some (e, queue) => { d with queue, atHand := some e }

def step (repository : AuditRepository σ) (d : Delivery σ) : Event → Delivery σ
  | .append e => (d.append e).2
  | .proceed => d.proceed repository

def after (repository : AuditRepository σ) (d : Delivery σ) (events : List Event) : Delivery σ :=
  events.foldl (step repository) d

/-- What an event puts in: the entry of an append that is answered without a fault. -/
def putIn (d : Delivery σ) : Event → List AuditEntry
  | .append e => if (d.append e).1.isOk then [e] else []
  | .proceed => []

/-- The entries of all appends that are answered without a fault, in order. -/
def accepted (repository : AuditRepository σ) : Delivery σ → List Event → List AuditEntry
  | _, [] => []
  | d, event :: rest => d.putIn event ++ accepted repository (d.step repository event) rest

/-- What was handed on, what is at hand and what waits. -/
def inOrder (d : Delivery σ) : List AuditEntry := d.handed ++ d.atHand.toList ++ d.queue.waiting

/-- In the beginning the writer has nothing to do. -/
def start (queue : AuditQueue) (r : σ) : Delivery σ := { queue, repository := r }

/-! ## One event -/

section Step

variable {repository : AuditRepository σ} {d : Delivery σ} {e : AuditEntry}

/-- The writer hands on what it has, has nothing to do, or takes out the oldest entry. -/
theorem proceed_cases (repository : AuditRepository σ) (d : Delivery σ) :
    (∃ e, d.atHand = some e ∧ d.proceed repository =
      { d with atHand := none, handed := d.handed ++ [e],
               repository := (repository.append e d.repository).2 }) ∨
    (d.atHand = none ∧ d.queue.waiting = [] ∧ d.proceed repository = d) ∨
    ∃ e rest, d.atHand = none ∧ d.queue.waiting = e :: rest ∧ d.proceed repository =
      { d with queue := { d.queue with waiting := rest }, atHand := some e } := by
  rw [proceed]
  cases d.atHand with
  | some e => exact .inl ⟨e, rfl, rfl⟩
  | none =>
      rw [AuditQueue.next?]
      cases d.queue.waiting with
      | nil => exact .inr (.inl ⟨rfl, rfl, rfl⟩)
      | cons e rest => exact .inr (.inr ⟨e, rest, rfl, rfl, rfl⟩)

/-- What an append leaves: an entry more that waits, or everything as it was. -/
theorem append_cases (d : Delivery σ) (e : AuditEntry) :
    d.append e =
        (.ok (), { d with queue := { d.queue with waiting := d.queue.waiting ++ [e] } }) ∨
      ∃ fault, d.append e = (.error fault, d) := by
  rw [append, AuditQueue.push]
  by_cases hstopped : d.queue.stopped = true
  · exact .inr ⟨.auditQueueStopped, by rw [if_pos hstopped]⟩
  · rw [if_neg hstopped]
    by_cases hroom : d.queue.waiting.length < d.queue.capacity
    · exact .inl (by rw [if_pos hroom])
    · exact .inr ⟨.auditQueueFull, by rw [if_neg hroom]⟩

/-- An event adds at the end what it puts in, and takes nothing away. -/
theorem inOrder_step (repository : AuditRepository σ) (d : Delivery σ) (event : Event) :
    (d.step repository event).inOrder = d.inOrder ++ d.putIn event := by
  cases event with
  | append e =>
      rw [step, putIn]
      rcases d.append_cases e with happend | ⟨fault, happend⟩
      · rw [happend]
        simp [inOrder, Except.isOk, Except.toBool]
      · rw [happend]
        exact (List.append_nil _).symm
  | proceed =>
      rw [step, putIn]
      rcases d.proceed_cases repository with
        ⟨e, hhand, hproceed⟩ | ⟨-, -, hproceed⟩ | ⟨e, rest, hhand, hwaiting, hproceed⟩
      · rw [hproceed]
        simp [inOrder, hhand]
      · rw [hproceed, List.append_nil]
      · rw [hproceed]
        simp [inOrder, hhand, hwaiting]

/-- While the queue has a writer, an entry is put in just where there is room. -/
theorem append_eq_ok_iff (hwriter : d.queue.stopped = false) :
    (d.append e).1 = .ok () ↔ d.queue.waiting.length < d.queue.capacity := by
  rw [append, AuditQueue.push, hwriter, if_neg Bool.false_ne_true]
  by_cases hroom : d.queue.waiting.length < d.queue.capacity
  · rw [if_pos hroom]
    exact iff_of_true rfl hroom
  · rw [if_neg hroom]
    exact iff_of_false (fun h => by cases h) hroom

/-- While the queue has a writer, the only fault is that it is full, and then nothing changes. -/
theorem append_error (hwriter : d.queue.stopped = false) {fault : Fault}
    (h : (d.append e).1 = .error fault) : fault = .auditQueueFull ∧ (d.append e).2 = d := by
  rw [append, AuditQueue.push, hwriter, if_neg Bool.false_ne_true] at h ⊢
  by_cases hroom : d.queue.waiting.length < d.queue.capacity
  · rw [if_pos hroom] at h
    cases h
  · rw [if_neg hroom] at h ⊢
    injection h with hfault
    exact ⟨hfault.symm, rfl⟩

/-- Apart from what waits in it, a queue stays what it is. -/
theorem queue_step (repository : AuditRepository σ) (d : Delivery σ) (event : Event) :
    (d.step repository event).queue =
      { d.queue with waiting := (d.step repository event).queue.waiting } := by
  cases event with
  | append e =>
      rw [step]
      rcases d.append_cases e with happend | ⟨fault, happend⟩ <;> rw [happend]
  | proceed =>
      rw [step]
      rcases d.proceed_cases repository with
        ⟨e, -, hproceed⟩ | ⟨-, -, hproceed⟩ | ⟨e, rest, -, -, hproceed⟩ <;> rw [hproceed]

/-- The repository has been given what is said to have been handed on, and nothing else. -/
theorem repository_step {r : σ} (h : d.repository = repository.after r d.handed) (event : Event) :
    (d.step repository event).repository =
      repository.after r (d.step repository event).handed := by
  cases event with
  | append e =>
      rw [step]
      rcases d.append_cases e with happend | ⟨fault, happend⟩
      · rw [happend]
        exact h
      · rw [happend]
        exact h
  | proceed =>
      rw [step]
      rcases d.proceed_cases repository with
        ⟨e, -, hproceed⟩ | ⟨-, -, hproceed⟩ | ⟨e, rest, -, -, hproceed⟩
      · rw [hproceed]
        exact (congrArg (fun s => (repository.append e s).2) h).trans
          (AuditRepository.after_concat r d.handed e).symm
      · rw [hproceed]
        exact h
      · rw [hproceed]
        exact h

end Step

/-! ## What does not depend on the repository -/

/-- Everything but the repository. -/
def aside (d : Delivery σ) : Delivery Unit := { d with repository := () }

theorem append_aside (d : Delivery σ) (e : AuditEntry) :
    d.aside.append e = ((d.append e).1, (d.append e).2.aside) := by
  rw [append, append]
  change (match d.queue.push e with | .ok _ => _ | .error _ => _) = _
  cases d.queue.push e <;> rfl

theorem aside_step (repository : AuditRepository σ) (d : Delivery σ) (event : Event) :
    (d.step repository event).aside = d.aside.step .sink event := by
  cases event with
  | append e => rw [step, step, append_aside]
  | proceed =>
      rw [step, step, proceed, proceed]
      change _ = match d.atHand with
        | some e => _
        | none => match d.queue.next? with | none => _ | some (e, queue) => _
      cases d.atHand with
      | some e => rfl
      | none => cases d.queue.next? <;> rfl

theorem putIn_aside (d : Delivery σ) (event : Event) : d.aside.putIn event = d.putIn event := by
  cases event with
  | append e => rw [putIn, putIn, append_aside]
  | proceed => rfl

/-! ## Any number of events -/

section Run

variable (repository : AuditRepository σ) (d : Delivery σ) (events : List Event)

theorem inOrder_after :
    (d.after repository events).inOrder = d.inOrder ++ accepted repository d events := by
  induction events generalizing d with
  | nil => exact (List.append_nil _).symm
  | cons event rest ih =>
      change ((d.step repository event).after repository rest).inOrder = _
      rw [ih, inOrder_step, accepted, List.append_assoc]

theorem queue_after :
    (d.after repository events).queue =
      { d.queue with waiting := (d.after repository events).queue.waiting } := by
  induction events generalizing d with
  | nil => rfl
  | cons event rest ih =>
      have hstep := d.queue_step repository event
      have hrest := ih (d.step repository event)
      rw [hstep] at hrest
      exact hrest

theorem repository_after {r : σ} (h : d.repository = repository.after r d.handed) :
    (d.after repository events).repository =
      repository.after r (d.after repository events).handed := by
  induction events generalizing d with
  | nil => exact h
  | cons event rest ih => exact ih (d.step repository event) (repository_step h event)

theorem aside_after :
    (d.after repository events).aside = d.aside.after .sink events := by
  induction events generalizing d with
  | nil => rfl
  | cons event rest ih =>
      change ((d.step repository event).after repository rest).aside = _
      rw [ih, aside_step]
      rfl

theorem accepted_aside : accepted .sink d.aside events = accepted repository d events := by
  induction events generalizing d with
  | nil => rfl
  | cons event rest ih => rw [accepted, accepted, putIn_aside, ← aside_step repository, ih]

end Run

/-- Put a queue of any length in front of any repository, and let appends and the steps of the
writer come in any order.  Then what was handed on, what is at hand and what waits are the entries
that were put in, in order.  An entry is put in just where fewer than `max c 1` wait, and otherwise
the queue says that it is full, and nothing changes.  The repository is without those of its entries
at which it failed and no others, and how it answers makes no difference to the queue. -/
theorem lossless {c : Nat} {queue : AuditQueue} (hqueue : AuditQueue.create c = .ok queue)
    (repository : AuditRepository σ) (r : σ) (events : List Event) :
    let d := (start queue r).after repository events
    d.handed ++ d.atHand.toList ++ d.queue.waiting =
        accepted repository (start queue r) events ∧
      (∀ e, (d.append e).1 = .ok () ↔ d.queue.waiting.length < max c 1) ∧
      (∀ e fault, (d.append e).1 = .error fault →
        fault = .auditQueueFull ∧ fault.kind = .internal ∧ (d.append e).2 = d) ∧
      d.repository = repository.after r d.handed ∧
      (∀ listed, repository.Lists listed →
        listed d.repository = listed r ++ repository.taken r d.handed) ∧
      ∀ (τ : Type) (repository' : AuditRepository τ) (r' : τ),
        ((start queue r').after repository' events).aside = d.aside ∧
          accepted repository' (start queue r') events =
            accepted repository (start queue r) events := by
  intro d
  have hcreated : queue = .ofCapacity c := by
    rw [AuditQueue.create] at hqueue
    split at hqueue
    · cases hqueue
    · exact (Except.ok.inj hqueue).symm
  have hkept : d.queue = { AuditQueue.ofCapacity c with waiting := d.queue.waiting } := by
    rw [← hcreated]
    exact queue_after repository (start queue r) events
  have hwriter : d.queue.stopped = false := by rw [hkept]; rfl
  have hcapacity : d.queue.capacity = max c 1 := by rw [hkept]; rfl
  have hgiven : d.repository = repository.after r d.handed :=
    repository_after repository (start queue r) events rfl
  have hempty : (start queue r).inOrder = [] := by rw [hcreated]; rfl
  have horder : d.inOrder = accepted repository (start queue r) events := by
    rw [inOrder_after, hempty, List.nil_append]
  refine ⟨horder, fun e => ?_, fun e fault h => ?_, hgiven,
    fun listed hlisted => ?_, fun τ repository' r' => ⟨?_, ?_⟩⟩
  · rw [append_eq_ok_iff hwriter, hcapacity]
  · obtain ⟨rfl, hsame⟩ := append_error hwriter h
    exact ⟨rfl, rfl, hsame⟩
  · rw [hgiven, hlisted.after]
  -- Without their repositories the two begin as one.
  · rw [aside_after, aside_after]
    rfl
  · rw [← accepted_aside, ← accepted_aside repository]
    rfl

end Delivery

namespace Sample

/-- The viewer gets in the second time, and the third. -/
def admitted (n : Nat) : AuditEntry := { refused with id := ⟨⟨n⟩⟩, permitted := true }

/-- A log that takes no denials. -/
def complacent : AuditRepository AuditLog where
  append e log :=
    if e.permitted then (.ok (), log.append e) else (.error (.unavailable "append_entry"), log)

/-- One entry can wait.  Two appends come while one does, and the denial is taken out in between. -/
def visits : List Delivery.Event :=
  [.append refused, .append (admitted 2), .proceed, .append (admitted 2), .append (admitted 3),
    .proceed, .proceed, .append (admitted 3), .proceed]

/-- The log has missed the denial and nothing else. -/
theorem complacent_misses_denial :
    let d := (Delivery.start (.ofCapacity 0) {}).after complacent visits
    d.handed = [refused, admitted 2] ∧ d.queue.waiting = [admitted 3] ∧
      Delivery.accepted complacent (Delivery.start (.ofCapacity 0) {}) visits =
        [refused, admitted 2, admitted 3] ∧
      d.repository.entries = [admitted 2] ∧
      (d.append refused).1 = .error .auditQueueFull ∧ ¬d.queue.waiting.length < max 0 1 := by
  intro d
  obtain ⟨horder, hroom, -, -, hlisted, -⟩ :=
    Delivery.lossless (c := 0) rfl complacent ({} : AuditLog) visits
  have hlists : complacent.Lists AuditLog.entries := by
    intro e log
    cases hpermitted : e.permitted <;> simp [complacent, hpermitted, AuditLog.append] <;> rfl
  have hfull : (d.append refused).1 = .error .auditQueueFull := rfl
  refine ⟨rfl, rfl, horder.symm, hlisted _ hlists, hfull, fun h => ?_⟩
  rw [← hroom refused, hfull] at h
  cases h

end Sample

/-! ## The queue of a backend -/

namespace Backend

/-- The log of a backend, as its writer finds it. -/
def logRepository (b : Backend) : AuditRepository AuditLog where
  append e log :=
    if b.broken.contains logWriter then (.error (.unavailable logWriter), log)
    else (.ok (), log.append e)

/-- Which queue stands in front of which log, and whether the log takes entries. -/
def Shows (b : Backend) (repository : AuditRepository AuditLog) (d : Delivery AuditLog) : Prop :=
  b.queue = some d.queue ∧ b.log = d.repository ∧ b.logRepository = repository

variable {b : Backend} {repository : AuditRepository AuditLog} {d : Delivery AuditLog}

theorem Shows.append (h : b.Shows repository d) (e : AuditEntry) :
    (b.appendEntry e).1 = (d.append e).1 ∧
      (b.appendEntry e).2.Shows repository (d.append e).2 := by
  obtain ⟨hqueue, hlog, hrepository⟩ := h
  rw [appendEntry, hqueue, Delivery.append]
  dsimp only
  cases d.queue.push e with
  | ok queue => exact ⟨rfl, rfl, hlog, hrepository⟩
  | error fault => exact ⟨rfl, hqueue, hlog, hrepository⟩

/-- The writer of a backend takes an entry out and hands it on at once. -/
theorem Shows.writeNext (h : b.Shows repository d) (hhand : d.atHand = none) :
    b.writeNext.Shows repository ((d.proceed repository).proceed repository) ∧
      ((d.proceed repository).proceed repository).atHand = none := by
  obtain ⟨hqueue, hlog, rfl⟩ := h
  rw [Backend.writeNext, hqueue, Option.bind_some, AuditQueue.next?]
  rcases d.proceed_cases b.logRepository with
    ⟨e, hsome, -⟩ | ⟨-, hwaiting, hproceed⟩ | ⟨e, rest, -, hwaiting, hproceed⟩
  · rw [hhand] at hsome
    cases hsome
  · rw [hproceed, hproceed, hwaiting]
    exact ⟨⟨hqueue, hlog, rfl⟩, hhand⟩
  · rw [hproceed, hwaiting, ← hlog]
    refine ⟨⟨rfl, ?_, rfl⟩, rfl⟩
    dsimp only [Delivery.proceed, logRepository]
    by_cases hbroken : b.broken.contains logWriter = true
    · rw [if_pos hbroken, if_pos hbroken]
    · rw [if_neg hbroken, if_neg hbroken]

/-- An append, or a write from taking the entry out to handing it on. -/
def next (b : Backend) : Delivery.Event → Backend
  | .append e => (b.appendEntry e).2
  | .proceed => b.writeNext

/-- Whatever is appended and written at a backend, its queue and its log are those of a delivery. -/
theorem Shows.after (h : b.Shows repository d) (hhand : d.atHand = none)
    (events : List Delivery.Event) :
    (events.foldl next b).Shows repository
      (d.after repository (events.flatMap Delivery.Event.whole)) := by
  induction events generalizing b d with
  | nil => exact h
  | cons event rest ih =>
      cases event with
      | append e =>
          have hnone : (d.append e).2.atHand = none := by
            rcases d.append_cases e with happend | ⟨fault, happend⟩ <;> rwa [happend]
          exact ih (h.append e).2 hnone
      | proceed =>
          obtain ⟨hshows, hnone⟩ := h.writeNext hhand
          exact ih hshows hnone

end Backend

/-! ## The queue of a server -/

namespace Server

variable (answer : (c : Call) → σ → Outcome c.Reply × σ)

/-- The table of audit entries, in a database that answers in any way. -/
def tableRepository : AuditRepository σ where
  append e := (inDatabase (Database.AuditEntries.append e)).run answer

theorem enqueue_eq (state : State) (e : AuditEntry) {d : Delivery σ} (h : state.queue = d.queue) :
    enqueue state e = ((d.append e).1, { state with queue := (d.append e).2.queue }) := by
  rw [enqueue, Delivery.append, h]
  cases d.queue.push e with
  | ok queue => rfl
  | error fault => rw [← h]

/-- The writer of a server takes an entry out and hands it on, before it begins again. -/
theorem run_writeNext (state : State) {d : Delivery σ} (h : state.queue = d.queue)
    (hhand : d.atHand = none) :
    (writeNext state).run answer d.repository =
      let d' := (d.proceed (tableRepository answer)).proceed (tableRepository answer)
      (.ok { state with queue := d'.queue }, d'.repository) := by
  rw [writeNext, h, AuditQueue.next?]
  rcases d.proceed_cases (tableRepository answer) with
    ⟨e, hsome, -⟩ | ⟨-, hwaiting, hproceed⟩ | ⟨e, rest, -, hwaiting, hproceed⟩
  · rw [hhand] at hsome
    cases hsome
  · rw [hproceed, hproceed, hwaiting]
    dsimp only
    rw [← h]
    rfl
  · rw [hproceed, hwaiting]
    dsimp only
    rw [Program.run_bind, Program.run_attempt]
    rfl

end Server

end AccessControl
