import AccessControl.Proofs.Sources

/-!
# Programs that leave no trace unless they succeed

An operation looks around, decides, makes its one change and reports.  Until the change it may
fail at any call; what it has left behind then is at most an audit entry about a denial and a
remembered rule set.  `Calm` says that nothing else is different, and in particular that the
services would decide as before.

`Ends s b p Q` says of a program started in a state that is calm after `b`: it fails and leaves
the state calm, or it succeeds with a result and a state that fulfil `Q`.  `Learns` is the case of
a program that only looks around, and `Learns.bind` composes such programs with what comes next.
All that they learn is stated about `b`, which does not change along the way.

`Finishes` is for the part behind the change, which does not fail.
-/

namespace AccessControl

/-- The records, the identifiers still to be given out and the calls in order are as before. -/
structure Backend.Keeps (b c : Backend) : Prop where
  store : c.store = b.store
  mint : c.mint = b.mint
  used : ∀ kind, kind ≠ .auditEntry → c.used kind = b.used kind
  broken : c.broken = b.broken

/-- The audit entries of the log and, behind them, those that wait in the queue. -/
def Backend.entered (b : Backend) : List AuditEntry :=
  b.log.entries ++ (b.queue.map (·.waiting)).getD []

/-- Nothing is different but entries about denials and the cache, and the services decide as
before. -/
structure Backend.Calm (s : Setting) (b c : Backend) : Prop extends Keeps b c where
  rules : ∀ organization user, c.rules s organization user = b.rules s organization user
  denials : ∃ denials, c.entered = b.entered ++ denials ∧ ∀ e ∈ denials, e.permitted = false

namespace Backend

variable {s : Setting} {b c d : Backend}

@[refl] theorem Keeps.refl : Keeps b b := ⟨rfl, rfl, fun _ _ => rfl, rfl⟩

theorem Keeps.trans (h : Keeps b c) (h' : Keeps c d) : Keeps b d where
  store := h'.store.trans h.store
  mint := h'.mint.trans h.mint
  used kind hkind := (h'.used kind hkind).trans (h.used kind hkind)
  broken := h'.broken.trans h.broken

theorem Keeps.outage? (h : Keeps b c) (call : Call) : c.outage? call = b.outage? call := by
  simp [Backend.outage?, h.broken]

theorem Keeps.nextId (h : Keeps b c) {kind : Entity} (hkind : kind ≠ .auditEntry) :
    c.nextId kind = b.nextId kind := by
  simp [Backend.nextId, h.mint, h.used kind hkind]

@[refl] theorem Calm.refl : Calm s b b := ⟨.refl, fun _ _ => rfl, [], by simp, by simp⟩

theorem Calm.trans (h : Calm s b c) (h' : Calm s c d) : Calm s b d where
  toKeeps := h.toKeeps.trans h'.toKeeps
  rules organization user := (h'.rules organization user).trans (h.rules organization user)
  denials := by
    obtain ⟨es, hes, hdenied⟩ := h.denials
    obtain ⟨es', hes', hdenied'⟩ := h'.denials
    refine ⟨es ++ es', by rw [hes', hes, List.append_assoc], ?_⟩
    intro e he
    rcases List.mem_append.mp he with he | he
    · exact hdenied e he
    · exact hdenied' e he

/-- The services do not decide by the log. -/
theorem Keeps.rules_eq (h : Keeps b c) (hcache : c.cache = b.cache) (organization : OrganizationId)
    (user : UserId) : c.rules s organization user = b.rules s organization user := by
  simp only [Backend.rules, remembered?, Backend.outage?, h.store, h.broken, hcache]

/-! ## Calls that are out of order -/

theorem broken_update (b : Backend) (r : Outcome Store) : (b.update r).2.broken = b.broken := by
  cases r <;> rfl

theorem broken_insert (b : Backend) (kind : Entity) (r : Outcome Store) :
    (b.insert kind r).2.broken = b.broken := by
  cases r <;> rfl

/-- No call puts a call in order or out of it. -/
theorem broken_answer (b : Backend) (c : Call) : (b.answer c).2.broken = b.broken := by
  rw [answer]
  split
  · rfl
  · cases c with
    | createRole role => exact broken_insert ..
    | createDelegation d => exact broken_insert ..
    | createOverride o => exact broken_insert ..
    | updateRole role => exact broken_update ..
    | deleteRole organization id => exact broken_update ..
    | addGrant organization id grant => exact broken_update ..
    | removeGrant organization id permission => exact broken_update ..
    | saveDelegation d => exact broken_update ..
    | saveOverride o => exact broken_update ..
    | setMemberRole organization user role =>
        rw [serve, Backend.setMemberRole]
        split <;> rfl
    | appendEntry e =>
        rw [serve, Backend.appendEntry]
        split
        · rfl
        · split <;> rfl
    | _ => rfl

theorem broken_run {α : Type} (b : Backend) (p : Service α) : (b.run p).2.broken = b.broken := by
  rw [run]
  induction p generalizing b with
  | done r => rfl
  | call c next ih => exact (ih _ _).trans (broken_answer b c)

end Backend

namespace Service

open Backend

variable {α β : Type} {s : Setting} {b : Backend}

/-- From any state calm after `b` the program fails and leaves the state calm, or it comes to a
result and a state that fulfil `Q`. -/
def Ends (s : Setting) (b : Backend) (p : Service α) (Q : α → Backend → Prop) : Prop :=
  ∀ c, Calm s b c → match c.run p with
    | (.ok a, d) => Q a d
    | (.error _, d) => Calm s b d

/-- The program only looks around, and `F` holds of what it finds. -/
def Learns (s : Setting) (b : Backend) (p : Service α) (F : α → Prop) : Prop :=
  Ends s b p fun a d => Calm s b d ∧ F a

/-- The program succeeds, with a result and a state that fulfil `Q`. -/
def Finishes (b : Backend) (p : Service α) (Q : α → Backend → Prop) : Prop :=
  ∃ a c, b.run p = (.ok a, c) ∧ Q a c

theorem run_bind_ok {p : Service α} {f : α → Service β} {a : α} {c : Backend}
    (h : b.run p = (.ok a, c)) : b.run (p >>= f) = c.run (f a) :=
  Program.run_bind_ok h

theorem run_bind_error {p : Service α} {f : α → Service β} {e : Fault} {c : Backend}
    (h : b.run p = (.error e, c)) : b.run (p >>= f) = (.error e, c) :=
  Program.run_bind_error h

/-- What succeeds has succeeded up to each of its steps. -/
theorem exists_of_run_bind {p : Service α} {f : α → Service β} {y : β} {c : Backend}
    (h : b.run (p >>= f) = (.ok y, c)) :
    ∃ a d, b.run p = (.ok a, d) ∧ d.run (f a) = (.ok y, c) := by
  rcases hrun : b.run p with ⟨e | a, d⟩
  · cases (run_bind_error hrun).symm.trans h
  · exact ⟨a, d, rfl, (run_bind_ok hrun).symm.trans h⟩

/-- What becomes of a result leaves the state as it is. -/
theorem run_bind_pure (p : Service α) (f : α → β) :
    (b.run (p >>= fun a => pure (f a))).2 = (b.run p).2 := by
  rcases hrun : b.run p with ⟨fault | a, c⟩
  · rw [run_bind_error hrun]
  · rw [run_bind_ok hrun]
    rfl

/-- A question is answered from the state, which stays as it is, or it fails. -/
theorem run_ask_cases (b : Backend) (call : Call) {reply : call.Reply}
    (h : b.serve call = (.ok reply, b)) :
    (∃ fault, b.run (ask call) = (.error fault, b)) ∨ b.run (ask call) = (.ok reply, b) := by
  change (∃ fault, b.answer call = (.error fault, b)) ∨ b.answer call = (.ok reply, b)
  rw [answer]
  cases b.outage? call with
  | some fault => exact .inl ⟨fault, rfl⟩
  | none => exact .inr h

/-! ## Looking around -/

section Learns

variable {F G : α → Prop} {p : Service α} {Q : β → Backend → Prop}

theorem Ends.mono {Q R : α → Backend → Prop} (h : Ends s b p Q) (hQ : ∀ a d, Q a d → R a d) :
    Ends s b p R := by
  intro c hc
  have := h c hc
  rcases hrun : c.run p with ⟨_ | a, d⟩ <;> simp only [hrun] at this ⊢
  · exact this
  · exact hQ a d this

/-- What the program comes to is as it has to be. -/
theorem Ends.of_run {Q : α → Backend → Prop} (h : Ends s b p Q) {a : α} {d : Backend}
    (hrun : b.run p = (.ok a, d)) : Q a d := by
  have hends := h b .refl
  rw [hrun] at hends
  exact hends

theorem Learns.mono (h : Learns s b p F) (hF : ∀ a, F a → G a) : Learns s b p G :=
  Ends.mono h fun a _ hd => ⟨hd.1, hF a hd.2⟩

/-- Look around first, then go on with what was learned. -/
theorem Learns.bind {f : α → Service β} (h : Learns s b p F)
    (hf : ∀ a, F a → Ends s b (f a) Q) : Ends s b (p >>= f) Q := by
  intro c hc
  have hp := h c hc
  rcases hrun : c.run p with ⟨e | a, d⟩ <;> simp only [hrun] at hp
  · rw [run_bind_error hrun]
    exact hp
  · rw [run_bind_ok hrun]
    exact hf a hp.2 d hp.1

theorem Learns.pure {a : α} (h : F a) : Learns s b (pure a) F := fun _ hc => ⟨hc, h⟩

theorem Learns.fail {fault : Fault} : Ends s b (Program.fail fault : Service β) Q :=
  fun _ hc => hc

theorem Learns.ofOutcome (r : Outcome α) :
    Learns s b (Program.ofOutcome r : Service α) fun a => r = .ok a := by
  intro c hc
  cases r with
  | error e => exact hc
  | ok a => exact ⟨hc, rfl⟩

theorem Learns.found (fault : Fault) (o : Option α) :
    Learns s b (found fault o) fun a => o = some a := by
  cases o with
  | none => exact Learns.fail
  | some a => exact Learns.pure rfl

/-- A question gets the answer that it got at first, and it was in order then. -/
theorem learns_ask (call : Call) (reply : call.Reply)
    (h : ∀ c, Calm s b c → c.serve call = (.ok reply, c)) :
    Learns s b (ask call) fun a => a = reply ∧ b.outage? call = none := by
  intro c hc
  have hrun : c.run (ask call) = c.answer call := rfl
  rw [hrun, Backend.answer, hc.toKeeps.outage?]
  cases b.outage? call with
  | some fault => exact hc
  | none =>
      rw [h c hc]
      exact ⟨hc, rfl, rfl⟩

/-- A question about the records is answered from the store. -/
theorem learns_ask_store (call : Call) (f : Store → call.Reply)
    (h : ∀ c : Backend, c.serve call = (.ok (f c.store), c)) :
    Learns s b (ask call) fun a => a = f b.store ∧ b.outage? call = none :=
  learns_ask call (f b.store) fun c hc => by rw [h, hc.store]

theorem learns_newId {kind : Entity} (hkind : kind ≠ .auditEntry) :
    Learns s b (ask (.newId kind)) fun id => id = b.nextId kind :=
  (learns_ask (.newId kind) (b.nextId kind) fun c hc => by
    rw [← hc.toKeeps.nextId hkind]; rfl).mono fun _ h => h.1

end Learns

/-! ## The change and what comes behind it -/

section Finishes

variable {p : Service α} {Q : α → Backend → Prop} {R : β → Backend → Prop}

theorem Finishes.bind {f : α → Service β} (h : Finishes b p Q)
    (hf : ∀ a c, Q a c → Finishes c (f a) R) : Finishes b (p >>= f) R := by
  obtain ⟨a, c, hrun, hQ⟩ := h
  obtain ⟨y, d, hrest, hR⟩ := hf a c hQ
  exact ⟨y, d, (run_bind_ok hrun).trans hrest, hR⟩

theorem Finishes.pure {a : α} (h : Q a b) : Finishes b (pure a) Q := ⟨a, b, rfl, h⟩

theorem Finishes.fst_eq {a : α} (h : Finishes b p fun a' _ => a' = a) : (b.run p).1 = .ok a := by
  obtain ⟨_, c, hrun, rfl⟩ := h
  exact congrArg Prod.fst hrun

/-- A program that always succeeds and leaves every state calm only looks around. -/
theorem Finishes.learns {F : α → Prop}
    (h : ∀ c, Calm s b c → Finishes c p fun a d => Calm s c d ∧ F a) : Learns s b p F := by
  intro c hc
  obtain ⟨a, d, hrun, hd, hF⟩ := h c hc
  rw [hrun]
  exact ⟨hc.trans hd, hF⟩

theorem Finishes.mono {Q' : α → Backend → Prop} (h : Finishes b p Q)
    (hQ : ∀ a c, Q a c → Q' a c) : Finishes b p Q' := by
  obtain ⟨a, c, hrun, hac⟩ := h
  exact ⟨a, c, hrun, hQ a c hac⟩

/-- Make the change, or fail before it; behind it nothing fails. -/
theorem Ends.bind {f : α → Service β} (h : Ends s b p Q)
    (hf : ∀ a c, Q a c → Finishes c (f a) R) : Ends s b (p >>= f) R := by
  intro c hc
  have hp := h c hc
  rcases hrun : c.run p with ⟨e | a, d⟩ <;> simp only [hrun] at hp
  · rw [run_bind_error hrun]
    exact hp
  · obtain ⟨y, e, hrest, hR⟩ := hf a d hp
    rw [run_bind_ok hrun, hrest]
    exact hR

end Finishes

/-! ## Changes of the store -/

/-- A call that changes the store does so as the store allows it, or fails and changes nothing.
It may count an identifier as used up. -/
theorem ends_change (call : Call) (f : Store → Outcome Store) (count : Backend → Backend)
    (hcount : ∀ c, (count c).broken = c.broken) {p : Service Unit}
    (hrun : ∀ c : Backend, c.run p = match c.outage? call with
      | some fault => (.error fault, c)
      | none => match f c.store with
        | .ok store => (.ok (), { count c with store })
        | .error fault => (.error fault, c)) :
    Ends s b p fun _ d => f b.store = .ok d.store ∧ d.broken = b.broken := by
  intro c hc
  rw [hrun, hc.store]
  cases c.outage? call with
  | some fault => exact hc
  | none =>
      cases f b.store with
      | error fault => exact hc
      | ok store => exact ⟨rfl, (hcount c).trans hc.broken⟩

/-! ## Invariants of the store -/

/-- Wherever the program ends, the store fulfils what it fulfilled before. -/
def Keeping (I : Store → Prop) (p : Service α) : Prop :=
  ∀ b : Backend, I b.store → I (b.run p).2.store

section Keeping

variable {I : Store → Prop} {p : Service α}

theorem Keeping.pure {a : α} : Keeping I (pure a : Service α) := fun _ hb => hb

theorem Keeping.bind {f : α → Service β} (h : Keeping I p) (hf : ∀ a, Keeping I (f a)) :
    Keeping I (p >>= f) := by
  intro b hb
  have hI := h b hb
  rcases hrun : b.run p with ⟨e | a, c⟩ <;> rw [hrun] at hI
  · rw [run_bind_error hrun]
    exact hI
  · rw [run_bind_ok hrun]
    exact hf a c hI

theorem keeping_ask (call : Call)
    (h : ∀ b : Backend, I b.store → I (b.serve call).2.store) : Keeping I (ask call) := by
  intro b hb
  change I (b.answer call).2.store
  rw [answer]
  cases b.outage? call with
  | some fault => exact hb
  | none => exact h b hb

end Keeping

end Service

end AccessControl
