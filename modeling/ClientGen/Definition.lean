import ClientGen.Property
import ClientGen.Trace

/-!
# Definitions

Every definition of a document becomes a model. Its properties are its own ones
and, in one level, those of the members of an `allOf` list; a member that only
points elsewhere adds none. Enumerations of properties are declared with the
model, the first of each name, and shadow those of the whole client.
-/

namespace ClientGen

/-- A model. -/
structure Definition where
  /-- The name, absent if the document's key is null. -/
  name : Option String
  description : Value
  isLast : Bool
  enums : EnumTable
  /-- The properties that point at no other model. -/
  properties : List Property
  /-- The properties that point at models. -/
  refs : List Property
  /-- The models that the properties point at. -/
  imports : List String
  deriving Inhabited, Repr

namespace Definition

/-- Whether there are enumerations of its own. -/
def hasEnums (d : Definition) : Bool := !d.enums.entries.isEmpty

/-- The properties of a schema, by name. -/
def propertiesOf (schema : Fields) : List (Value × Value) :=
  (schema.get "properties").fields?.getD []

/-- All properties that make up a definition: its own ones, then those of the
members of its `allOf` list. -/
def sources (schema : Fields) : List (Value × Value) :=
  propertiesOf schema ++
    (((schema.get "allOf").items?).getD []).flatMap fun member =>
      propertiesOf (member.fields?.getD [])

/-- All properties of a definition as read, with their enumerations. -/
def parsed (schema : Fields) : List (Property × Option Enumeration) :=
  (sources schema).map fun (name, s) => Property.read name s

/-- All enumerations of a definition, repeated names included. -/
def declarations (schema : Fields) : List Enumeration :=
  (parsed schema).filterMap (·.2)

/-- What happens as enumerations are declared, those of a table already being
there. -/
def declareEvents (owner : Option String) : EnumTable → List Enumeration →
    List Event
  | _, [] => []
  | t, e :: rest =>
    (if t.has e.name then [.declaredAgain e.name owner] else []) ++
      .declared e.name :: declareEvents owner (t.register e) rest

/-- The definition of a name and a schema. -/
def read (name : Value) (schema : Fields) : Definition :=
  let properties := (parsed schema).map (·.1)
  let refs := properties.filter (·.isRef)
  { name := name.identifier?
    description := (schema.get? "description").getD (.str "")
    isLast := false
    enums := EnumTable.empty.registerAll (declarations schema)
    properties := properties.filter (!·.isRef)
    refs
    imports := (refs.map (·.type.text)).eraseDups }

/-- What happens while a definition is read. -/
def events (name : Value) (schema : Fields) : List Event :=
  declareEvents name.identifier? .empty (declarations schema)

/-- The definition of a name and a schema, which must be a mapping. -/
def build (name schema : Value) : Traced Definition :=
  match schema.fields? with
  | some fields => ⟨events name fields, .ok (read name fields)⟩
  | none => .ofExcept (.error .notMapping)

/-- A list of definitions with the mark on its last one. -/
def markLast : List Definition → List Definition
  | [] => []
  | [d] => [{ d with isLast := true }]
  | d :: rest => d :: markLast rest

@[simp] theorem length_markLast (ds : List Definition) :
    (markLast ds).length = ds.length := by
  fun_induction markLast ds <;> simp_all

/-- The definitions of a document, by name. -/
def schemasOf (document : Fields) : Fields :=
  (document.get "definitions").fields?.getD []

/-- The definitions of a document, which must be a mapping, by name. -/
def schemasIn (document : Value) : Except Fault Fields :=
  match document.fields? with
  | some fields => .ok (schemasOf fields)
  | none => .error .notMapping

/-- The models of a document, in its order. A schema that is no mapping says
nothing. -/
def readAll (document : Fields) : List Definition :=
  markLast ((schemasOf document).map fun (name, schema) =>
    read name (schema.fields?.getD []))

/-- What happens while the models of a document are read. -/
def allEvents (document : Fields) : List Event :=
  (schemasOf document).flatMap fun (name, schema) =>
    events name (schema.fields?.getD [])

/-- The models of a document, which must be a mapping. -/
def buildAll (document : Value) : Traced (List Definition) :=
  match document.fields? with
  | some fields => ⟨allEvents fields, .ok (readAll fields)⟩
  | none => .ofExcept (.error .notMapping)

end Definition

end ClientGen
