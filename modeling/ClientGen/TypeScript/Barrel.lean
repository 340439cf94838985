import ClientGen.TypeScript.ModelFile

/-!
# The barrel

The file that exports every model from one place.
-/

namespace ClientGen.TypeScript

/-- The file that exports models. -/
structure Barrel where
  /-- The names of the models. -/
  models : List String
  deriving DecidableEq, Repr

namespace Barrel

/-- The barrel of definitions. -/
def ofDefinitions (ds : List Definition) : Barrel :=
  ⟨ds.map fun d => nameText d.name⟩

/-- The line that exports a model. -/
def exportLine (name : String) : String :=
  "export * from './models/" ++ modelModule name ++ "';\n"

/-- The text of the file. -/
def text (b : Barrel) : String :=
  "/* tslint:disable */\n" ++ String.join (b.models.map exportLine)

end Barrel

end ClientGen.TypeScript
