import ClientGen.Definition
import ClientGen.TypeScript.EnumDecl

/-!
# Model files

The file of a model: the models that it imports, its enumerations, and an
interface whose fields are all optional. Fields that point at models come after
the others.
-/

namespace ClientGen.TypeScript

/-- A field of an interface. -/
structure Field where
  doc : Option String
  name : String
  type : String
  deriving DecidableEq, Repr

/-- The file of a model. -/
structure ModelFile where
  /-- The imported models. -/
  imports : List String
  enums : List EnumDecl
  doc : Option String
  /-- The name of the interface. -/
  name : String
  fields : List Field
  deriving DecidableEq, Repr

/-- The text of a value if it counts as true. -/
def textIfTruthy (v : Value) : Option String :=
  if v.truthy then some v.text else none

/-- The module that declares a model, without its directory. -/
def modelModule (name : String) : String := Text.lower name ++ ".model"

namespace Field

/-- The field of a property. -/
def ofProperty (p : Property) : Field :=
  ⟨textIfTruthy p.description, p.name.text,
    p.typescriptType.text ++ (if p.isArray then Schema.arrayMark else "")⟩

/-- The lines of a field. -/
def text (f : Field) : String :=
  (match f.doc with
    | some d => "    /** " ++ d ++ " */\n"
    | none => "") ++
    "    " ++ singleQuoted f.name ++ "?: " ++ f.type ++ ";\n"

end Field

namespace ModelFile

/-- The file of a definition. -/
def ofDefinition (d : Definition) : ModelFile where
  imports := d.imports
  enums := d.enums.entries.map EnumDecl.ofEnumeration
  doc := textIfTruthy d.description
  name := nameText d.name
  fields := (d.properties ++ d.refs).map Field.ofProperty

/-- The line that imports a model. -/
def importLine (name : String) : String :=
  "import \x7b " ++ name ++ " \x7d from './" ++ modelModule name ++ "';\n"

/-- The text of the file. -/
def text (f : ModelFile) : String :=
  "/* tslint:disable */\n" ++
    String.join (f.imports.map importLine) ++
    String.join (f.enums.map EnumDecl.text) ++ "\n" ++
    (match f.doc with
      | some d => "/**\n * " ++ d ++ "\n */\n"
      | none => "") ++
    "export interface " ++ f.name ++ " \x7b\n" ++
    String.join (f.fields.map Field.text) ++ "\x7d\n"

end ModelFile

end ClientGen.TypeScript
