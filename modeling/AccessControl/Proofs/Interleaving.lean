import AccessControl.Proofs.Discipline

/-!
# Two programs beside each other

Two programs share a state and take turns, one call at a time.  Every way in which their calls can
follow each other is given by a list of turns.

What each of the programs counts on is said by a discipline of its own.  Where the situations of
both hold together with the state that they share, and every call that is allowed to one of them
keeps it so, it is so behind any turns (`Joint.Holds.run`).
-/

namespace AccessControl

namespace Program

variable {Call : Type} {Reply : Call → Type} {α : Type}

/-- What the program has come to, if it is done. -/
def result? : Program Call Reply α → Option (Outcome α)
  | done r => some r
  | call .. => none

theorem result?_eq_some {p : Program Call Reply α} {r : Outcome α} :
    p.result? = some r ↔ p = done r := by
  cases p with
  | done r' => exact Option.some_inj.trans ⟨congrArg done, done.inj⟩
  | call c next => exact ⟨nofun, nofun⟩

end Program

inductive Side where
  | left
  | right
deriving DecidableEq, Repr

/-- What is left of two programs, the state that they share and the calls they have made. -/
structure Joint (Call : Type) (Reply : Call → Type) (α β σ : Type) where
  left : Program Call Reply α
  right : Program Call Reply β
  state : σ
  made : List (Side × Call) := []

namespace Joint

variable {Call : Type} {Reply : Call → Type} {α β σ τ : Type}

/-- The next call of one side.  A program that is done lets its turn pass. -/
def step (answer : (c : Call) → σ → Outcome (Reply c) × σ) (j : Joint Call Reply α β σ) :
    Side → Joint Call Reply α β σ
  | .left =>
    match j.left with
    | .done _ => j
    | .call c next =>
      { j with
        left := next (answer c j.state).1
        state := (answer c j.state).2
        made := j.made ++ [(.left, c)] }
  | .right =>
    match j.right with
    | .done _ => j
    | .call c next =>
      { j with
        right := next (answer c j.state).1
        state := (answer c j.state).2
        made := j.made ++ [(.right, c)] }

def run (answer : (c : Call) → σ → Outcome (Reply c) × σ) (turns : List Side)
    (j : Joint Call Reply α β σ) : Joint Call Reply α β σ := turns.foldl (step answer) j

section Disciplines

variable {ξ ζ : Type} {D : Discipline Call Reply ξ} {E : Discipline Call Reply ζ}
  {Q : Outcome α → ξ → Prop} {R : Outcome β → ζ → Prop} {I : ξ → ζ → σ → List (Side × Call) → Prop}

/-- Both programs meet their disciplines, in situations of which `I` holds. -/
def Holds (D : Discipline Call Reply ξ) (E : Discipline Call Reply ζ) (Q : Outcome α → ξ → Prop)
    (R : Outcome β → ζ → Prop) (I : ξ → ζ → σ → List (Side × Call) → Prop)
    (j : Joint Call Reply α β σ) : Prop :=
  ∃ x z, Program.Meets D x j.left Q ∧ Program.Meets E z j.right R ∧ I x z j.state j.made

variable (answer : (c : Call) → σ → Outcome (Reply c) × σ)
  (hleft : ∀ x z s made c, I x z s made → D.allows x c →
    ∃ y, D.leads x c (answer c s).1 y ∧ I y z (answer c s).2 (made ++ [(.left, c)]))
  (hright : ∀ x z s made c, I x z s made → E.allows z c →
    ∃ y, E.leads z c (answer c s).1 y ∧ I x y (answer c s).2 (made ++ [(.right, c)]))

include hleft hright in
theorem Holds.step {j : Joint Call Reply α β σ} (h : Holds D E Q R I j) (side : Side) :
    Holds D E Q R I (j.step answer side) := by
  obtain ⟨x, z, hD, hE, hI⟩ := h
  cases side with
  | left =>
      cases hcall : j.left with
      | done r =>
          rw [Joint.step, hcall]
          exact ⟨x, z, hD, hE, hI⟩
      | call c next =>
          rw [hcall] at hD
          obtain ⟨y, hleads, hy⟩ := hleft x z j.state j.made c hI hD.1
          rw [Joint.step, hcall]
          exact ⟨y, z, hD.2 _ y hleads, hE, hy⟩
  | right =>
      cases hcall : j.right with
      | done r =>
          rw [Joint.step, hcall]
          exact ⟨x, z, hD, hE, hI⟩
      | call c next =>
          rw [hcall] at hE
          obtain ⟨y, hleads, hy⟩ := hright x z j.state j.made c hI hE.1
          rw [Joint.step, hcall]
          exact ⟨x, y, hD, hE.2 _ y hleads, hy⟩

include hleft hright in
/-- Where allowed calls are answered as the disciplines say, all of it holds behind any turns. -/
theorem Holds.run {j : Joint Call Reply α β σ} (h : Holds D E Q R I j) (turns : List Side) :
    Holds D E Q R I (j.run answer turns) := by
  induction turns generalizing j with
  | nil => exact h
  | cons side turns ih => exact ih (h.step answer hleft hright side)

/-- In the end both programs have come to what their disciplines say. -/
theorem Holds.of_done {j : Joint Call Reply α β σ} {r : Outcome α} {q : Outcome β}
    (h : Holds D E Q R I j) (hr : j.left.result? = some r) (hq : j.right.result? = some q) :
    ∃ x z, Q r x ∧ R q z ∧ I x z j.state j.made := by
  obtain ⟨x, z, hD, hE, hI⟩ := h
  rw [Program.result?_eq_some.mp hr] at hD
  rw [Program.result?_eq_some.mp hq] at hE
  exact ⟨x, z, hD, hE, hI⟩

end Disciplines

/-! ## The same turns over another state -/

/-- Calls are answered alike in related states, and lead to related states. -/
def AnswersAlike (I : σ → τ → Prop) (answer : (c : Call) → σ → Outcome (Reply c) × σ)
    (answer' : (c : Call) → τ → Outcome (Reply c) × τ) : Prop :=
  ∀ s t c, I s t → (answer c s).1 = (answer' c t).1 ∧ I (answer c s).2 (answer' c t).2

/-- The programs are as far and have made the same calls, over states that are related. -/
structure Alike (I : σ → τ → Prop) (j : Joint Call Reply α β σ) (k : Joint Call Reply α β τ) :
    Prop where
  left : j.left = k.left
  right : j.right = k.right
  state : I j.state k.state
  made : j.made = k.made

section Alike

variable {I : σ → τ → Prop} {answer : (c : Call) → σ → Outcome (Reply c) × σ}
  {answer' : (c : Call) → τ → Outcome (Reply c) × τ}

theorem Alike.step {j : Joint Call Reply α β σ} {k : Joint Call Reply α β τ} (h : Alike I j k)
    (hstep : AnswersAlike I answer answer') (side : Side) :
    Alike I (j.step answer side) (k.step answer' side) := by
  obtain ⟨p, q, s, made⟩ := j
  obtain ⟨p', q', t, made'⟩ := k
  obtain ⟨rfl, rfl, hst, rfl⟩ := h
  cases side with
  | left =>
      cases p with
      | done r => exact ⟨rfl, rfl, hst, rfl⟩
      | call c next =>
          obtain ⟨hsame, hnext⟩ := hstep s t c hst
          exact ⟨congrArg next hsame, rfl, hnext, rfl⟩
  | right =>
      cases q with
      | done r => exact ⟨rfl, rfl, hst, rfl⟩
      | call c next =>
          obtain ⟨hsame, hnext⟩ := hstep s t c hst
          exact ⟨rfl, congrArg next hsame, hnext, rfl⟩

/-- Where all calls are answered alike, the same turns bring both equally far. -/
theorem Alike.run {j : Joint Call Reply α β σ} {k : Joint Call Reply α β τ} (h : Alike I j k)
    (hstep : AnswersAlike I answer answer') (turns : List Side) :
    Alike I (j.run answer turns) (k.run answer' turns) := by
  induction turns generalizing j k with
  | nil => exact h
  | cons side turns ih => exact ih (h.step hstep side)

/-- A program comes to the same result over both states. -/
theorem AnswersAlike.run {γ : Type} (hstep : AnswersAlike I answer answer')
    (p : Program Call Reply γ) {s : σ} {t : τ} (hst : I s t) :
    (p.run answer s).1 = (p.run answer' t).1 := by
  induction p generalizing s t with
  | done r => rfl
  | call c next ih =>
      obtain ⟨hsame, hnext⟩ := hstep s t c hst
      rw [Program.run, Program.run, hsame]
      exact ih _ hnext

end Alike

end Joint

end AccessControl
