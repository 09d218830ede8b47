import AccessControl.Fault

/-! # Programs

A program makes calls and goes on with the replies. What a call does is not part of the program:
it is run over any state in which calls can be answered. -/

namespace AccessControl

inductive Program (Call : Type) (Reply : Call → Type) (α : Type) where
  | done (result : Outcome α)
  | call (c : Call) (next : Outcome (Reply c) → Program Call Reply α)

namespace Program

variable {Call : Type} {Reply : Call → Type} {α β γ σ : Type}

def bind : Program Call Reply α → (α → Program Call Reply β) → Program Call Reply β
  | done (.ok a), f => f a
  | done (.error e), _ => done (.error e)
  | call c next, f => call c fun r => (next r).bind f

instance : Monad (Program Call Reply) where
  pure a := done (.ok a)
  bind := bind

/-- Make a call and fail as it fails. -/
def perform (c : Call) : Program Call Reply (Reply c) := call c done

def fail (fault : Fault) : Program Call Reply α := done (.error fault)

/-- A result that needs no calls. -/
def ofOutcome (r : Outcome α) : Program Call Reply α := done r

/-- Go on also where the program fails. -/
def attempt : Program Call Reply α → Program Call Reply (Outcome α)
  | done r => done (.ok r)
  | call c next => call c fun r => (next r).attempt

/-- What the program comes to, when `answer` answers its calls. -/
def run (answer : (c : Call) → σ → Outcome (Reply c) × σ) : Program Call Reply α → σ → Outcome α × σ
  | done r, s => (r, s)
  | call c next, s => (next (answer c s).1).run answer (answer c s).2

/-- The program in which another one stands for each call. -/
def expand {Call' : Type} {Reply' : Call' → Type}
    (f : (c : Call) → Program Call' Reply' (Reply c)) :
    Program Call Reply α → Program Call' Reply' α
  | done r => done r
  | call c next => (f c).attempt.bind fun r => (next r).expand f

/-- The program in which other ones stand for the calls and hand a state on. -/
def thread {Call' : Type} {Reply' : Call' → Type} {τ : Type}
    (f : (c : Call) → τ → Program Call' Reply' (Outcome (Reply c) × τ)) :
    Program Call Reply α → τ → Program Call' Reply' (Outcome α × τ)
  | done r, t => done (.ok (r, t))
  | call c next, t => (f c t).bind fun (r, t) => (next r).thread f t

section Laws

theorem bind_assoc (p : Program Call Reply α) (f : α → Program Call Reply β)
    (g : β → Program Call Reply γ) : p >>= f >>= g = p >>= fun a => f a >>= g := by
  change (p.bind f).bind g = p.bind fun a => (f a).bind g
  induction p with
  | done r => cases r <;> rfl
  | call c next ih => exact congrArg (call c) (funext fun r => ih r)

theorem bind_pure (p : Program Call Reply α) : p >>= pure = p := by
  change p.bind pure = p
  induction p with
  | done r => cases r <;> rfl
  | call c next ih => exact congrArg (call c) (funext fun r => ih r)

variable (answer : (c : Call) → σ → Outcome (Reply c) × σ)

@[simp] theorem run_done (r : Outcome α) (s : σ) :
    (done r : Program Call Reply α).run answer s = (r, s) := rfl

@[simp] theorem run_pure (a : α) (s : σ) :
    (pure a : Program Call Reply α).run answer s = (.ok a, s) := rfl

@[simp] theorem run_fail (e : Fault) (s : σ) :
    (fail e : Program Call Reply α).run answer s = (.error e, s) := rfl

@[simp] theorem run_perform (c : Call) (s : σ) :
    (perform c : Program Call Reply (Reply c)).run answer s = answer c s := rfl

theorem run_bind (p : Program Call Reply α) (f : α → Program Call Reply β) (s : σ) :
    (p >>= f).run answer s =
      match p.run answer s with
      | (.ok a, t) => (f a).run answer t
      | (.error e, t) => (.error e, t) := by
  change (p.bind f).run answer s = _
  induction p generalizing s with
  | done r => cases r <;> rfl
  | call c next ih => exact ih _ _

variable {answer}

theorem run_bind_ok {p : Program Call Reply α} {f : α → Program Call Reply β} {s t : σ} {a : α}
    (h : p.run answer s = (.ok a, t)) : (p >>= f).run answer s = (f a).run answer t := by
  rw [run_bind, h]

theorem run_bind_error {p : Program Call Reply α} {f : α → Program Call Reply β} {s t : σ}
    {fault : Fault} (h : p.run answer s = (.error fault, t)) :
    (p >>= f).run answer s = (.error fault, t) := by
  rw [run_bind, h]

variable (answer)

@[simp] theorem run_attempt (p : Program Call Reply α) (s : σ) :
    p.attempt.run answer s = (.ok (p.run answer s).1, (p.run answer s).2) := by
  induction p generalizing s with
  | done r => rfl
  | call c next ih => exact ih _ _

end Laws

end Program

end AccessControl
