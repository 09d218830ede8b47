import AccessControl.Startup

/-! # The program

It starts the server as far as that can be done without the client of a database. -/

namespace AccessControl.Main

/-- Nothing can be reached from here. -/
def answer : (c : Startup.Call) → Unit → Outcome c.Reply × Unit
  | .connect _, s => (.ok (.error .unusable), s)
  | .migrate _, s => (.ok (.error .unusable), s)
  | .listen _, s => (.ok false, s)
  | .serve .., s => (.ok (), s)

def environment : IO Config.Environment := do
  let texts ← Config.names.mapM fun name => do return (name, ← IO.getEnv name)
  return fun name => (texts.lookup name).join

end AccessControl.Main

def main (arguments : List String) : IO UInt32 := do
  let env ← AccessControl.Main.environment
  let (result, ()) := (AccessControl.Startup.start arguments env).run AccessControl.Main.answer ()
  if let .error fault := result then
    IO.eprintln (AccessControl.Startup.report fault)
  return UInt32.ofNat (AccessControl.Startup.exitCode result)
