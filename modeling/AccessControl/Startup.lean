import AccessControl.Database.Schema
import AccessControl.Server
import AccessControl.Text.Literal

/-! # Starting the server

The server reads its configuration, brings the schema of its database up to date and listens.
Started only for the schema, it ends after that. -/

namespace AccessControl.Startup

inductive Call where
  | connect (url : String)
  | migrate (script : String)
  | listen (address : SocketAddress)
  /-- Serve requests until the server is stopped. -/
  | serve (config : Config) (state : Server.State)

/-- What a step of the start can come to, beside a fault of the database. -/
abbrev Call.Reply : Call → Type
  | connect _ => Except DatabaseFault Unit
  | migrate _ => Except DatabaseFault Unit
  | listen _ => Bool
  | serve .. => Unit

abbrev Start (α : Type) := Program Call Call.Reply α

/-- The first argument that makes the server end after the migrations. -/
def migrateArgument : String := "migrate"

def isMigrateOnly (arguments : List String) : Bool := arguments.head? = some migrateArgument

def settle (task : String) : Except DatabaseFault Unit → Start Unit
  | .ok () => pure ()
  | .error cause => .fail (.database task cause)

def prepare (config : Config) : Start Unit := do
  settle "connect to database" (← Program.perform (Call.connect config.databaseUrl))
  settle "run migrations" (← Program.perform (Call.migrate Database.Schema.script))

def serve (config : Config) : Start Unit := do
  let state ← .ofOutcome (Server.State.ofConfig config)
  let address ← .ofOutcome config.address
  if ← Program.perform (Call.listen address) then Program.perform (Call.serve config state)
  else .fail .listener

def start (arguments : List String) (env : Config.Environment) : Start Unit := do
  let config ← .ofOutcome (Config.load (isMigrateOnly arguments) env)
  prepare config
  if config.migrateOnly then return
  serve config

/-! ## How it ends -/

/-- What is told of a fault that ends the server. -/
def report (fault : Fault) : String :=
  s!"Error: {fault.kind.name}({Text.literal fault.message})"

def exitCode {α : Type} : Outcome α → Nat
  | .ok _ => 0
  | .error _ => 1

end AccessControl.Startup
