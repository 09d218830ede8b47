import AccessControl.Program

/-!
# Disciplines

A program knows nothing of the state in which its calls are answered.  What it may count on, and
what is expected of it, is said by a discipline: in each situation some calls are allowed, and an
answered call leads to one of some situations.  `Meets D x p Q` says of a program started in the
situation `x` that it makes allowed calls only and that it ends as `Q` says, whatever answers the
discipline has it reckon with.

The state comes in last.  Where every allowed call is answered as the discipline says, a program
that meets the discipline runs as it says (`Meets.run`), and two runs that are answered alike come
to the same result (`Meets.run_pair`).  So one walk through a program serves all that is to be
proved about its runs.
-/

namespace AccessControl

/-- What is expected of a program and what it has to reckon with, situation by situation. -/
structure Discipline (Call : Type) (Reply : Call → Type) (ξ : Type) where
  allows : ξ → Call → Prop
  leads : ξ → (c : Call) → Outcome (Reply c) → ξ → Prop

/-- The call may be made, and changes nothing. -/
def Discipline.Stays {Call : Type} {Reply : Call → Type} {ξ : Type}
    (D : Discipline Call Reply ξ) (x : ξ) (c : Call) : Prop :=
  D.allows x c ∧ ∀ r y, D.leads x c r y → y = x

namespace Program

variable {Call : Type} {Reply : Call → Type} {ξ α β : Type} {D : Discipline Call Reply ξ}
  {x : ξ} {p : Program Call Reply α} {f : α → Program Call Reply β}
  {Q Q' : Outcome α → ξ → Prop} {R : Outcome β → ξ → Prop}

/-- The program makes allowed calls only and ends as `Q` says. -/
def Meets (D : Discipline Call Reply ξ) :
    ξ → Program Call Reply α → (Outcome α → ξ → Prop) → Prop
  | x, done r, Q => Q r x
  | x, call c next, Q => D.allows x c ∧ ∀ r y, D.leads x c r y → Meets D y (next r) Q

/-! ## The parts of a program -/

theorem Meets.mono (h : Meets D x p Q) (hQ : ∀ r y, Q r y → Q' r y) : Meets D x p Q' := by
  induction p generalizing x with
  | done r => exact hQ r x h
  | call c next ih => exact ⟨h.1, fun r y hy => ih r (h.2 r y hy)⟩

theorem Meets.pure {a : α} (h : Q (.ok a) x) : Meets D x (pure a : Program Call Reply α) Q := h

theorem Meets.bind (h : Meets D x p Q) (hok : ∀ a y, Q (.ok a) y → Meets D y (f a) R)
    (herror : ∀ e y, Q (.error e) y → R (.error e) y) : Meets D x (p >>= f) R := by
  change Meets D x (p.bind f) R
  induction p generalizing x with
  | done r =>
      cases r with
      | ok a => exact hok a x h
      | error e => exact herror e x h
  | call c next ih => exact ⟨h.1, fun r y hy => ih r (h.2 r y hy)⟩

theorem Meets.perform {c : Call} {Q : Outcome (Reply c) → ξ → Prop} (hallowed : D.allows x c)
    (h : ∀ r y, D.leads x c r y → Q r y) :
    Meets D x (perform c : Program Call Reply (Reply c)) Q := ⟨hallowed, h⟩

theorem Meets.attempt {Q : Outcome (Outcome α) → ξ → Prop}
    (h : Meets D x p fun r y => Q (.ok r) y) : Meets D x p.attempt Q := by
  induction p generalizing x with
  | done r => exact h
  | call c next ih => exact ⟨h.1, fun r y hy => ih r (h.2 r y hy)⟩

/-- Where more is allowed and no more is to be reckoned with, a program meets a discipline too. -/
theorem Meets.transfer {ζ : Type} {E : Discipline Call Reply ζ} {z : ζ} {I : ξ → ζ → Prop}
    (hstep : ∀ x z c, I x z → D.allows x c → E.allows z c ∧
      ∀ r z', E.leads z c r z' → ∃ x', D.leads x c r x' ∧ I x' z')
    (h : Meets D x p Q) (hz : I x z) : Meets E z p fun r z' => ∃ x', Q r x' ∧ I x' z' := by
  induction p generalizing x z with
  | done r => exact ⟨x, h, hz⟩
  | call c next ih =>
      obtain ⟨hallowed, hanswered⟩ := hstep x z c hz h.1
      refine ⟨hallowed, ?_⟩
      intro r z' hleads
      obtain ⟨x', hx', hz'⟩ := hanswered r z' hleads
      exact ih r (h.2 r x' hx') hz'

/-! ## Programs that leave the situation as it is -/

/-- The program leaves the situation as it is, and `F` holds of what it finds. -/
def Finds (D : Discipline Call Reply ξ) (x : ξ) (p : Program Call Reply α) (F : α → Prop) : Prop :=
  Meets D x p fun r y => y = x ∧ ∀ a, r = .ok a → F a

theorem Finds.pure {F : α → Prop} {a : α} (h : F a) :
    Finds D x (pure a : Program Call Reply α) F :=
  ⟨rfl, fun _ heq => Except.ok.inj heq ▸ h⟩

theorem Finds.bind {F : α → Prop} {G : β → Prop} (h : Finds D x p F)
    (hf : ∀ a, F a → Finds D x (f a) G) : Finds D x (p >>= f) G := by
  refine Meets.bind h ?_ fun e y hy => ⟨hy.1, fun _ heq => nomatch heq⟩
  rintro a y ⟨rfl, ha⟩
  exact hf a (ha a rfl)

theorem Finds.perform {c : Call} (h : D.Stays x c) :
    Finds D x (Program.perform c : Program Call Reply (Reply c)) fun _ => True :=
  Meets.perform h.1 fun r y hy => ⟨h.2 r y hy, fun _ _ => trivial⟩

theorem Finds.attempt {F : α → Prop} (h : Finds D x p F) :
    Finds D x p.attempt fun r => ∀ a, r = .ok a → F a := by
  refine Meets.attempt (Meets.mono h ?_)
  rintro r y ⟨hy, hr⟩
  exact ⟨hy, fun _ heq => Except.ok.inj heq ▸ hr⟩

/-- Find out something first, then go on with it. -/
theorem Finds.before {F : α → Prop} (h : Finds D x p F) (hf : ∀ a, F a → Meets D x (f a) R)
    (herror : ∀ e, R (.error e) x) : Meets D x (p >>= f) R := by
  refine Meets.bind h ?_ ?_
  · rintro a y ⟨rfl, ha⟩
    exact hf a (ha a rfl)
  · rintro e y ⟨rfl, -⟩
    exact herror e

/-! ## Running a program -/

section Run

variable {σ : Type} (answer : (c : Call) → σ → Outcome (Reply c) × σ) {s t : σ}

/-- A program runs as the discipline says that it meets, where calls are answered as it says. -/
theorem Meets.run {I : ξ → σ → Prop}
    (hstep : ∀ x s c, I x s → D.allows x c →
      ∃ y, D.leads x c (answer c s).1 y ∧ I y (answer c s).2)
    (h : Meets D x p Q) (hs : I x s) : ∃ y, Q (p.run answer s).1 y ∧ I y (p.run answer s).2 := by
  induction p generalizing x s with
  | done r => exact ⟨x, h, hs⟩
  | call c next ih =>
      obtain ⟨y, hleads, hy⟩ := hstep x s c hs h.1
      exact ih _ (h.2 _ y hleads) hy

/-- Two runs come to the same result where allowed calls are answered alike in both. -/
theorem Meets.run_pair {I : ξ → σ → σ → Prop}
    (hstep : ∀ x s t c, I x s t → D.allows x c → (answer c s).1 = (answer c t).1 ∧
      ∃ y, D.leads x c (answer c s).1 y ∧ I y (answer c s).2 (answer c t).2)
    (h : Meets D x p Q) (hst : I x s t) : (p.run answer s).1 = (p.run answer t).1 ∧
      ∃ y, Q (p.run answer s).1 y ∧ I y (p.run answer s).2 (p.run answer t).2 := by
  induction p generalizing x s t with
  | done r => exact ⟨rfl, x, h, hst⟩
  | call c next ih =>
      obtain ⟨hsame, y, hleads, hy⟩ := hstep x s t c hst h.1
      have hrest := ih _ (h.2 _ y hleads) hy
      rwa [Program.run, Program.run, ← hsame]

end Run

end Program

end AccessControl
