import ClientGen.CommandLine.Arguments
import ClientGen.CommandLine.Message
import ClientGen.CommandLine.Request

/-!
# Usage

What the command tells about itself: its help, and what is wrong with the
arguments it is given. Parameters are checked in the order in which they are
given, the source after the options, and those that are not given last.
-/

namespace ClientGen.CommandLine

/-- The first line of the help. -/
def usageLine (program : String) : String :=
  "Usage: " ++ program ++ " [OPTIONS] SOURCE\n"

/-- The help. -/
def helpText (program : String) : String :=
  usageLine program ++
    "\n  Generate an Angular 2 TypeScript client from a Swagger 2.0 document.\n" ++
    "\nOptions:\n" ++
    "  -o, --output DIRECTORY    Output directory for the generated client.\n" ++
    "                            [required]\n" ++
    "  --node / --no-node        Target the server side (keeps proxy-injected\n" ++
    "                            headers).\n" ++
    "  --debug / --no-debug      Log every generation step.\n" ++
    "  --template-dir DIRECTORY  Directory with replacement templates.\n" ++
    "  --help                    Show this message and exit.\n"

namespace Parameter

/-- How messages call a parameter. -/
def hint : Parameter → String
  | .source => "'SOURCE'"
  | .output => "'-o' / '--output'"
  | .node => "'--node' / '--no-node'"
  | .debug => "'--debug' / '--no-debug'"
  | .templateDir => "'--template-dir'"
  | .help => "'--help'"

end Parameter

namespace UsageError

/-- What is said after the name of an unknown option about similar ones. -/
def similarText : List String → String
  | [] => ""
  | [s] => " Did you mean " ++ s ++ "?"
  | ss => " (Possible options: " ++ ", ".intercalate ss ++ ")"

/-- The message of an error. -/
def message : UsageError → String
  | .noSuchOption name similar => "No such option: " ++ name ++ similarText similar
  | .needsValue name => "Option " ++ Text.quoted name ++ " requires an argument."
  | .takesNoValue name =>
    "Option " ++ Text.quoted name ++ " does not take a value."
  | .missingSource => "Missing argument " ++ Parameter.source.hint ++ "."
  | .missingOutput => "Missing option " ++ Parameter.output.hint ++ "."
  | .invalid p problem => "Invalid value for " ++ p.hint ++ ": " ++ problem
  | .unexpected args =>
    "Got unexpected extra argument" ++ (if args.length = 1 then "" else "s") ++
      " (" ++ " ".intercalate args ++ ")"

/-- Whether the usage is shown with the message. -/
def showsUsage : UsageError → Bool
  | .needsValue _ | .takesNoValue _ => false
  | _ => true

/-- What an error writes. -/
def text (program : String) (e : UsageError) : String :=
  (if e.showsUsage then
    usageLine program ++ "Try '" ++ program ++ " --help' for help.\n\n"
   else "") ++ plain ("Error: " ++ e.message) ++ "\n"

end UsageError

/-- Why arguments are refused: they are wrong, or a path among them can name
nothing at all. -/
inductive Refusal where
  | usage (e : UsageError)
  | nulInPath
  deriving DecidableEq, Repr

namespace Arguments

/-- What lies at a path given as text, if anything does. -/
def look (d : Disk) (s : String) : Except Refusal (Option Entry) :=
  match d.entryAtText s with
  | .ok e => .ok (some e)
  | .error .nulInPath => .error .nulInPath
  | .error _ => .ok none

/-- The value of a parameter is not what it must be. -/
def refuse {α : Type} (p : Parameter) (kind value problem : String) :
    Except Refusal α :=
  .error (.usage (.invalid p (kind ++ " " ++ Text.quoted value ++ " " ++ problem)))

/-- Checks one parameter: the source is a file, the output no file, and the
directory of templates a directory. -/
def check (d : Disk) (a : Arguments) : Parameter → Except Refusal Unit
  | .source =>
    match a.positional with
    | [] => .error (.usage .missingSource)
    | s :: _ => do
      match ← look d s with
      | none => refuse .source "File" s "does not exist."
      | some .directory => refuse .source "File" s "is a directory."
      | some (.file _) => return ()
  | .output =>
    match a.output with
    | none => .error (.usage .missingOutput)
    | some s => do
      match ← look d s with
      | some (.file _) => refuse .output "Directory" s "is a file."
      | _ => return ()
  | .templateDir =>
    match a.templateDir with
    | none => .ok ()
    | some s => do
      match ← look d s with
      | none => refuse .templateDir "Directory" s "does not exist."
      | some (.file _) => refuse .templateDir "Directory" s "is a file."
      | some .directory => return ()
  | _ => .ok ()

/-- The order in which parameters are checked. -/
def checkOrder (a : Arguments) : List Parameter :=
  a.given ++ [.source, .output, .templateDir]

/-- What the arguments ask for, if nothing is wrong with them. -/
def request (d : Disk) (a : Arguments) : Except Refusal Request := do
  for p in a.checkOrder do
    check d a p
  match a.positional with
  | [] => .error (.usage .missingSource)
  | [s] =>
    return {
      source := .ofText s
      output := .ofText (a.output.getD "")
      node := a.node
      debug := a.debug
      templateDir := a.templateDir.map .ofText }
  | _ :: extra => .error (.usage (.unexpected extra))

/-- What the arguments of the command come to under a name. -/
def reading (program : String) (d : Disk) (args : List String) : Reading :=
  match read args with
  | .error e => .usage (e.text program)
  | .ok a =>
    if a.help then .help (helpText program)
    else
      match a.request d with
      | .ok r => .request r
      | .error (.usage e) => .usage (e.text program)
      | .error .nulInPath => .uncaught (.trouble .nulInPath)

end Arguments

end ClientGen.CommandLine
