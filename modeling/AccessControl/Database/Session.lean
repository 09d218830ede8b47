import AccessControl.Database.Statement
import AccessControl.Program

/-! # Sessions

A session sends statements and reads the rows of the answers. Every statement belongs to a task,
which names it when it fails. -/

namespace AccessControl.Database

structure Answer where
  rows : List Row := []
  /-- How many rows a write touched. -/
  affected : Nat := 0
deriving Repr

abbrev Reply (_ : Statement) : Type := Except DatabaseFault Answer

abbrev Session (α : Type) := Program Statement Reply α

/-- The code of a statement that would repeat what has to be unique. -/
def uniqueViolation : String := "23505"

/-- The code of a statement that would leave a reference dangling. -/
def foreignKeyViolation : String := "23503"

/-- A fault of its own for one code, and that of the task for all others. -/
def faultOn (code : String) (fault : Fault) (task : String) (cause : DatabaseFault) : Fault :=
  match cause with
  | .server c _ => if c = code then fault else .database task cause
  | .unusable => .database task cause

namespace Session

def send (explain : DatabaseFault → Fault) (s : Statement) : Session Answer := do
  match ← (Program.perform s : Session (Reply s)) with
  | .ok a => return a
  | .error cause => .fail (explain cause)

/-- What has been read, or the fault of a task whose answer cannot be used. -/
def usable {α : Type} (task : String) : Option α → Session α
  | some a => pure a
  | none => .fail (.database task .unusable)

/-- All rows of the answer. -/
def all {α : Type} (task : String) (read : Row → Option α) (s : Selection) : Session (List α) := do
  let answer ← send (.database task) (.select s)
  usable task (answer.rows.mapM read)

/-- The first row of an answer, if it has any. -/
def firstOf {α : Type} (task : String) (read : Row → Option α) (answer : Answer) :
    Session (Option α) :=
  match answer.rows with
  | [] => pure none
  | r :: _ => do return some (← usable task (read r))

def first {α : Type} (task : String) (read : Row → Option α) (s : Selection) :
    Session (Option α) := do
  firstOf task read (← send (.database task) (.select s))

/-- The first row of an answer, which must have one. -/
def only {α : Type} (task : String) (read : Row → Option α) (s : Selection) : Session α := do
  usable task (← first task read s)

/-- A write that must touch a row. -/
def change (explain : DatabaseFault → Fault) (missing : Fault) (s : Statement) : Session Unit := do
  let answer ← send explain s
  if answer.affected = 0 then .fail missing

/-- A write that may touch any number of rows. -/
def write (explain : DatabaseFault → Fault) (s : Statement) : Session Unit := do
  let _ ← send explain s

end Session

end AccessControl.Database
