import AccessControl.Database.Session
import AccessControl.Json.Member
import AccessControl.Wire.Basic

/-! # Scripted databases

A scripted database holds no rows. It answers each statement with the next answer of a script and
remembers the statements. -/

namespace AccessControl.Database

structure Script where
  replies : List (Except DatabaseFault Answer)
  /-- What the statements fail with that begin and end transactions. -/
  control : String → Option DatabaseFault := fun _ => none
  /-- The statements that were sent, in their order. -/
  sent : List Statement := []

namespace Script

/-- What a statement fails with for which there is no answer. -/
def unscripted : DatabaseFault := .server "XX000" "unscripted"

def controlReply : Option DatabaseFault → Except DatabaseFault Answer
  | some fault => .error fault
  | none => .ok {}

/-- A statement that begins or ends a transaction uses no answer up. -/
def answer (statement : Statement) (s : Script) : Except DatabaseFault Answer × Script :=
  let logged := { s with sent := s.sent ++ [statement] }
  match statement with
  | .start | .commit => (controlReply (s.control statement.text), logged)
  | _ => (s.replies.head?.getD (.error unscripted), { logged with replies := s.replies.tail })

/-- What a session comes to, and the statements that it sends. -/
def run {α : Type} (s : Script) (session : Session α) : Outcome α × Script :=
  Program.run (fun statement t => ((.ok (answer statement t).1), (answer statement t).2)) session s

end Script

/-! ## Scripts in JSON -/

namespace Value

def toJson : Value → Json
  | null => .null
  | uuid u => .string u.toString
  | text s => .string s
  | integer n => .integer n
  | count n => .integer n
  | boolean b => .bool b
  | jsonb j => j
  | timestamp t => t.toJson
  | uuids us => .ofTexts (us.map (·.toString))

/-- The readers of the types that a column can have. -/
def readers : List (String × (Json → Option Value)) := [
  ("uuid", fun j => (j.text? >>= Uuid.parse?).map uuid),
  ("text", fun j => j.text?.map text),
  ("int4", fun j => (Json.Decoder.int32.ofJson? j).map integer),
  ("int8", fun j => j.int64?.map count),
  ("bool", fun j => j.bool?.map boolean),
  ("jsonb", some ∘ jsonb),
  ("timestamptz", fun j => (Instant.decode.ofJson? j).map ofInstant)]

def ofJson? (type : String) : Json → Option Value
  | .null => some null
  | j => do (← readers.lookup type) j

end Value

def Statement.toJson (s : Statement) : Json :=
  .object [("sql", .string s.text), ("params", .ofList Value.toJson s.params)]

/-- A column by its name and type. -/
def columnOfJson? : Json → Option (String × String)
  | .array [.string name, .string type] => some (name, type)
  | _ => none

def Row.ofJson? (columns : List (String × String)) (j : Json) : Option Row := do
  let items ← j.list? some
  let cells ← (columns.zip items).mapM fun ((name, type), v) => do
    return (name, ← Value.ofJson? type v)
  return ⟨cells⟩

def faultOfJson? (j : Json) : Option DatabaseFault := do
  let code ← j.orNull "code" "XX000" Json.text?
  return .server code (← j.orNull "message" "unscripted" Json.text?)

/-- A write touches as many rows as it returns, unless their number is given. -/
def Answer.ofJson? (j : Json) : Option Answer := do
  let columns ← j.orNull "columns" [] (Json.list? columnOfJson?)
  let rows ← j.orNull "rows" [] (Json.list? (Row.ofJson? columns))
  return { rows, affected := ← j.orNull "affected" rows.length Json.count? }

def replyOfJson? (j : Json) : Option (Except DatabaseFault Answer) :=
  match j.get? "error" with
  | some e => (faultOfJson? e).map .error
  | none => (Answer.ofJson? j).map .ok

def controlOfJson? (j : Json) : Option (String → Option DatabaseFault) := do
  let faults ← (← j.members?).mapM fun (name, v) => do return (name, ← faultOfJson? v)
  return fun name => faults.lookup name

def Script.ofJson? (j : Json) : Option Script := do
  return {
    replies := ← j.orNull "replies" [] (Json.list? replyOfJson?)
    control := ← j.orNull "control" (fun _ => none) controlOfJson? }

end AccessControl.Database
