import ClientGen.CommandLine.Run

/-!
# What a run looks at

The paths that a run may read or write. Whoever runs the command on a real
disk need only look along these: nothing else of the disk has a say in what the
run does with the tools that the program brings along.

Which files a run writes is known only once its document is loaded. So the paths
depend on what is known of the disk, and there are more of them once the source
is.
-/

namespace ClientGen.CommandLine

/-- The paths that the arguments name. -/
def Arguments.paths (a : Arguments) : List Path :=
  (a.positional.take 1 ++ a.output.toList ++ a.templateDir.toList).map .ofText

/-- The paths of the texts that a directory may have in place of the views. -/
def templatePaths (directory : Path) : List Path :=
  [Template.service, .model, .barrel].map fun t => directory.child t.fileName

/-- The paths of the files that are generated from a document, if it can be
loaded. -/
def outputPaths (d : Disk) (r : Request) (onServer : Bool) : List Path :=
  match Source.load .own d r.source with
  | .ok (.tree document) =>
    match (Service.build document onServer).outcome with
    | .error _ => []
    | .ok service =>
      (Output.plan (fun _ => .packaged) service r.output).filterMap
        (·.path.toOption)
  | _ => []

/-- The paths that a request may read or write. -/
def Request.paths (d : Disk) (env : Environment) (r : Request) : List Path :=
  let s := settingsOf env r
  r.source :: Output.modelsDir r.output ::
    ((s.templateDir.map templatePaths).getD [] ++ outputPaths d r s.onServer)

/-- The paths that a run may read or write, as far as what is known of the disk
tells. -/
def paths (d : Disk) (env : Environment) (args : List String) : List Path :=
  match Arguments.read args with
  | .error _ => []
  | .ok a =>
    a.paths ++
      match a.request d with
      | .error _ => []
      | .ok r => r.paths d env

end ClientGen.CommandLine
