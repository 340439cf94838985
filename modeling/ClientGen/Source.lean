import ClientGen.Document
import ClientGen.Text.Lines
import ClientGen.Yaml.Document

/-!
# Loading a document

A document is a mapping in a file: YAML if the name of the file says so, JSON
otherwise. The text is UTF-8.

JSON is read by `Json.read`, as far as there is room for it. The reader of YAML
is a tool like others, and so is whatever handles texts with half of a surrogate
pair, which JSON can escape: `Readers` has what they answer.
-/

namespace ClientGen

/-- Why a text has no value as YAML. -/
inductive YamlFault where
  /-- The reader refuses the text, and says why. -/
  | malformed (complaint : String)
  /-- The reader fails in another way, known by its kind only. -/
  | escaped (kind : String)
  deriving DecidableEq, Repr

/-- What texts are read by. -/
structure Readers where
  yaml : String → Except YamlFault Document
  /-- The kind of the failure if a JSON text takes more room than there is, as
  one may that is nested deeply. -/
  room : String → Option String
  /-- What is built of a JSON text with half of a surrogate pair. -/
  halves : String → Bool → Preparation

/-- What the program has for them: a reader of YAML, room for every text, and
nothing for texts with half of a pair. -/
def Readers.own : Readers where
  yaml := fun text =>
    match Yaml.read text with
    | .ok v => .ok (.tree v)
    | .error f =>
      match f.kind? with
      | none => .error (.malformed "the text is malformed")
      | some kind => .error (.escaped kind)
  room := fun _ => none
  halves := fun _ _ => ⟨[], .error .notEncodable⟩

namespace Source

/-- The endings of the names of YAML files. -/
def yamlSuffixes : List String := [".yaml", ".yml"]

/-- Whether a file holds YAML. -/
def isYaml (p : Path) : Bool := yamlSuffixes.contains (Text.lower p.suffix)

/-- The document in the text of a file. -/
def parse (readers : Readers) (p : Path) (text : String) :
    Except Failure Document :=
  if isYaml p then
    match readers.yaml text with
    | .ok document => .ok document
    | .error (.malformed complaint) => .error (.load p (.yaml complaint))
    | .error (.escaped kind) => .error (.escaped kind)
  else
    match readers.room text with
    | some kind => .error (.escaped kind)
    | none =>
      match Json.read text with
      | .ok v =>
        if Json.hasHalf 0 text.toList then
          .ok (.foreign ⟨v.fields?.isSome, readers.halves text⟩)
        else .ok (.tree v)
      | .error e =>
        if e.cause = .integerTooLong then .error .integerTooLong
        else .error (.load p (.json e))

/-- The text of a file. -/
def read (d : Disk) (p : Path) : Except Failure String :=
  match d.readFile p with
  | .error .nulInPath => .error (.trouble .nulInPath)
  | .error t => .error (.load p (.trouble t))
  | .ok bytes =>
    match Text.readBytes? bytes with
    | some s => .ok s
    | none => .error .notUtf8

/-- The document of a file, which must be a mapping. -/
def load (readers : Readers) (d : Disk) (p : Path) : Except Failure Document := do
  let document ← parse readers p (← read d p)
  if document.isMapping then return document
  else .error (.load p .notMapping)

end Source

end ClientGen
