import ClientGen.Definition
import ClientGen.Method

/-!
# The service

All that is generated from a document: its methods, its models, the
enumerations of the whole client and what describes it. The enumerations are
what the events of the methods and then of the models leave in the table.
-/

namespace ClientGen

/-- What a client is generated from. -/
structure Service where
  onServer : Bool
  title : Value
  version : Value
  description : Value
  isSecure : Bool
  domain : String
  methods : List Method
  enums : EnumTable
  definitions : List Definition
  /-- The names of the enumerations that models declare. -/
  modelEnums : List String
  deriving Inhabited, Repr

namespace Service

/-- The first element of a value that is not empty: of a text its first
character, of a mapping the value of the key zero. -/
def firstOf (v : Value) : Except Fault Value :=
  match v with
  | .map entries =>
    match Fields.find? entries (.int 0) with
    | some w => .ok w
    | none => .error .noSuchKey
  | .set _ => .error .notIndexable
  | _ =>
    match v.elements? with
    | some (w :: _) => .ok w
    | _ => .error .notIndexable

/-- The address that all paths of a document are relative to. -/
def domainOf (document : Fields) : Except Fault String := do
  let schemes := document.get "schemes"
  let scheme ← if schemes.truthy then firstOf schemes else .ok (.str "http")
  let host := (document.get "host").orElse (.str "localhost")
  let base := (document.get "basePath").orElse (.str "")
  let base := if base.isText "/" then .str "" else base
  return scheme.text ++ "://" ++ host.text ++ base.text

/-- The address that all paths of a document, which must be a mapping, are
relative to. -/
def domainIn (document : Value) : Except Fault String :=
  match document.fields? with
  | some fields => domainOf fields
  | none => .error .notMapping

/-- The names of the enumerations of all models, each once. -/
def modelEnumsOf (definitions : List Definition) : List String :=
  (definitions.flatMap fun d => d.enums.entries.map (·.name.text)).eraseDups

/-- The service of a mapping, but for its enumerations. -/
def parts (document : Fields) (onServer : Bool) : Traced Service := do
  let info := (document.get "info").fields?.getD []
  let described (name : String) := (info.get? name).getD (.str "")
  let methods ← Method.buildAll (.map document) onServer
  Traced.emit [.methodsBuilt methods.length]
  let definitions ← Definition.buildAll (.map document)
  Traced.emit [.definitionsBuilt definitions.length]
  let domain ← .ofExcept (domainOf document)
  return {
    onServer
    title := described "title"
    version := described "version"
    description := described "description"
    isSecure := document.has "securityDefinitions"
    domain
    methods
    enums := .empty
    definitions
    modelEnums := modelEnumsOf definitions }

/-- The service of a document, which must be a mapping. -/
def build (document : Value) (onServer : Bool) : Traced Service :=
  match document.fields? with
  | none => .ofExcept (.error .notMapping)
  | some fields =>
    let t := parts fields onServer
    { t with
      outcome := t.outcome.map fun s =>
        { s with enums := EnumTable.empty.applyAll t.events } }

end Service

end ClientGen
