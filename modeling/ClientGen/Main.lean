import ClientGen.CommandLine.Reach

/-!
# The program

The command on a real disk: what a run may read is looked up, the run is
carried out on what was found, and what it has changed is written. All
decisions are those of `CommandLine.run`.
-/

namespace ClientGen.Program

/-- What lies at a place, if anything does that can be read. -/
def entryAt? (p : Place) : IO (Option Entry) := do
  try
    let content ← IO.FS.readBinFile p.reference
    return some (.file content)
  catch
    | .inappropriateType .. => return some .directory
    | _ => return none

/-- The disk with what lies on the way along names. -/
def lookAlong (d : Disk) (p : Place) : List String → IO Disk
  | [] => return d
  | n :: rest => do
    let p := if n = ".." then p.above else p.below n
    match ← entryAt? p with
    | some .directory => lookAlong (d.put p .directory) p rest
    | some e => return d.put p e
    | none => return d

/-- The disk with what lies on the way along paths. -/
def look (d : Disk) : List Path → IO Disk
  | [] => return d
  | p :: rest => do look (← lookAlong d (.startOf p) p.names) rest

/-- What a run may read: the first look finds the source, the second one what
lies where the files of its client belong. -/
def snapshot (env : Environment) (args : List String) : IO Disk := do
  let d ← look .empty (CommandLine.paths .empty env args)
  look d (CommandLine.paths d env args)

/-- Puts something at a place. -/
def put (p : Place) : Entry → IO Unit
  | .directory => IO.FS.createDir p.reference
  | .file content => IO.FS.writeBinFile p.reference content

/-- The variables of the environment that settings come from. -/
def environment : IO Environment :=
  Settings.variableNames.filterMapM fun name => do
    return (← IO.getEnv name).map fun value => (name, value)

/-- Runs the command and yields its exit code. -/
def run (args : List String) : IO UInt32 := do
  let env ← environment
  let before ← snapshot env args
  let o := CommandLine.run (.own "main") before env args
  for (p, e) in before.changes o.disk do
    put p e
  IO.print o.output
  IO.eprint o.errors
  if let some f := o.uncaught then
    IO.eprintln f.message
  return o.exitCode.toUInt32

end ClientGen.Program

/-- Runs the command with the arguments of the program. -/
def main (args : List String) : IO UInt32 := ClientGen.Program.run args
