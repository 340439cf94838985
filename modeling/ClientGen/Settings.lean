import ClientGen.Path
import ClientGen.Text.Blank
import ClientGen.Text.Case

/-!
# Settings

What a run can be told. The environment gives the defaults: two switches, which
a few words turn on, and the directory of templates.
-/

namespace ClientGen

/-- The settings of a run. -/
structure Settings where
  /-- Whether the client runs on the server side. -/
  onServer : Bool
  debug : Bool
  templateDir : Option Path
  deriving DecidableEq, Repr

/-- The variables of an environment. -/
abbrev Environment := List (String × String)

namespace Settings

/-- The switch for the server side. -/
def onServerVariable : String := "SWAGGEN_IS_NODE"

/-- The switch for the log. -/
def debugVariable : String := "SWAGGEN_DEBUG"

/-- The variable that names the directory of templates. -/
def templateDirVariable : String := "SWAGGEN_TEMPLATE_DIR"

/-- All variables that a run looks at. -/
def variableNames : List String :=
  [onServerVariable, debugVariable, templateDirVariable]

/-- The words that turn a switch on. -/
def onWords : List String := ["1", "true", "yes", "on"]

/-- Whether the text of a variable turns its switch on, in any case of letters
and with white space around it. -/
def turnsOn (text : String) : Bool :=
  onWords.contains
    (String.ofList (Text.lowerChars (Text.trim text.toList)))

/-- Whether a variable turns its switch on. -/
def isOn (env : Environment) (name : String) : Bool :=
  turnsOn ((env.lookup name).getD "")

/-- The settings that an environment gives. -/
def ofEnvironment (env : Environment) : Settings where
  onServer := isOn env onServerVariable
  debug := isOn env debugVariable
  templateDir :=
    match env.lookup templateDirVariable with
    | none => none
    | some s => if s = "" then none else some (Path.ofText s)

end Settings

end ClientGen
