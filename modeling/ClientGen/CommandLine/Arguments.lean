import ClientGen.CommandLine.Similar

/-!
# Reading the arguments

The arguments of the command are options, their values and positional
arguments, in any order; two dashes alone end the options. A long option may
carry its value after an equals sign, the short one right after its letter.
What is given twice counts as given last.
-/

namespace ClientGen.CommandLine

/-- The parameters of the command. -/
inductive Parameter where
  | source
  | output
  | node
  | debug
  | templateDir
  | help
  deriving DecidableEq, Repr

/-- What an option asks for. -/
inductive Action where
  | takeOutput
  | takeTemplateDir
  | setNode (on : Bool)
  | setDebug (on : Bool)
  | showHelp
  deriving DecidableEq, Repr

/-- Whether an option takes a value. -/
def Action.takesValue : Action → Bool
  | .takeOutput | .takeTemplateDir => true
  | _ => false

/-- The long options. -/
def longOptions : List (String × Action) :=
  [("--output", .takeOutput), ("--node", .setNode true),
    ("--no-node", .setNode false), ("--debug", .setDebug true),
    ("--no-debug", .setDebug false), ("--template-dir", .takeTemplateDir),
    ("--help", .showHelp)]

/-- The letter of the only short option. -/
def outputLetter : Char := 'o'

/-- What is wrong with the arguments. -/
inductive UsageError where
  | noSuchOption (name : String) (similar : List String)
  | needsValue (name : String)
  | takesNoValue (name : String)
  | missingSource
  | missingOutput
  | invalid (p : Parameter) (problem : String)
  | unexpected (arguments : List String)
  deriving DecidableEq, Repr

/-- The arguments as read. -/
structure Arguments where
  /-- The parameters that were given as options, in order. -/
  given : List Parameter
  output : Option String
  templateDir : Option String
  node : Option Bool
  debug : Option Bool
  help : Bool
  positional : List String
  deriving DecidableEq, Repr

namespace Arguments

/-- No arguments. -/
def empty : Arguments := ⟨[], none, none, none, none, false, []⟩

/-- The arguments with an option carried out. -/
def carryOut (a : Arguments) (action : Action) (value : String) : Arguments :=
  match action with
  | .takeOutput => { a with given := a.given ++ [.output], output := value }
  | .takeTemplateDir =>
    { a with given := a.given ++ [.templateDir], templateDir := value }
  | .setNode on => { a with given := a.given ++ [.node], node := on }
  | .setDebug on => { a with given := a.given ++ [.debug], debug := on }
  | .showHelp => { a with given := a.given ++ [.help], help := true }

/-- The arguments with more positional ones. -/
def addPositional (a : Arguments) (args : List String) : Arguments :=
  { a with positional := a.positional ++ args }

/-- A long option and the value after its equals sign, if it has one. -/
def splitOption (arg : String) : String × Option String :=
  let cs := arg.toList
  if cs.contains '=' then
    (String.ofList (cs.takeWhile (· != '=')),
      some (String.ofList ((cs.dropWhile (· != '=')).drop 1)))
  else (arg, none)

/-- What an argument that starts with a dash asks for: the name it is called
by, the action, and the value that it carries. -/
def interpret (arg : String) :
    Except UsageError (String × Action × Option String) :=
  let (name, value) := splitOption arg
  match longOptions.lookup name with
  | some action => .ok (name, action, value)
  | none =>
    match arg.toList with
    | '-' :: '-' :: _ =>
      .error (.noSuchOption name (proposals name (longOptions.map (·.1))))
    | '-' :: c :: rest =>
      if c = outputLetter then
        .ok ("-o", .takeOutput,
          if rest.isEmpty then none else some (String.ofList rest))
      else .error (.noSuchOption (String.ofList ['-', c]) [])
    | _ => .error (.noSuchOption arg [])

/-- Whether an argument is an option rather than positional. -/
def isOption (arg : String) : Bool :=
  match arg.toList with
  | '-' :: _ :: _ => true
  | _ => false

/-- The arguments as read, after those already read. -/
def readFrom (a : Arguments) : List String → Except UsageError Arguments
  | [] => .ok a
  | arg :: rest =>
    if arg = "--" then .ok (a.addPositional rest)
    else if !isOption arg then readFrom (a.addPositional [arg]) rest
    else
      match interpret arg with
      | .error e => .error e
      | .ok (name, action, value) =>
        match action.takesValue, value with
        | true, some v => readFrom (a.carryOut action v) rest
        | true, none =>
          match rest with
          | [] => .error (.needsValue name)
          | v :: after => readFrom (a.carryOut action v) after
        | false, some _ => .error (.takesNoValue name)
        | false, none => readFrom (a.carryOut action "") rest

/-- The arguments as read. -/
def read (args : List String) : Except UsageError Arguments := readFrom empty args

end Arguments

end ClientGen.CommandLine
