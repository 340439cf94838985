import ClientGen.Schema
import ClientGen.Trace

/-!
# Parameters

A parameter of an operation becomes an argument of its method. This module
reads one parameter (`Parameter.read`), the enumeration that it promotes to the
whole client (`Parameter.promoted?`), and the list of an operation's
parameters, its own ones first and those of its path after them
(`Parameter.readAll`).
-/

namespace ClientGen

/-- Where a request carries a parameter. -/
inductive Location where
  | path
  | query
  | header
  | body
  | form
  deriving DecidableEq, Repr

namespace Location

/-- The names of the locations; model binding is a kind of query. -/
def names : List (String × Location) :=
  [("path", .path), ("query", .query), ("modelbinding", .query),
    ("header", .header), ("body", .body), ("formData", .form)]

/-- The location that a value names. -/
def ofValue? (v : Value) : Option Location := v.text?.bind fun s => names.lookup s

end Location

/-- A parameter of a method. -/
structure Parameter where
  name : Value
  /-- The name of the argument. -/
  argument : String
  /-- The location as the document has it. -/
  declaredLocation : Value
  location : Option Location
  description : Value
  required : Bool
  type : Value
  items : Value
  typescriptType : String
  /-- The only value of a parameter that has one. -/
  singleton : Option Value
  /-- Whether a query parameter is matched by a pattern of names. -/
  isPattern : Bool
  isLast : Bool
  deriving Inhabited, Repr

namespace Parameter

/-- The field of a parameter that a proxy injects. -/
def proxyField : String := "x-proxy-header"

/-- The field of a query parameter that is matched by a pattern of names. -/
def patternField : String := "x-name-pattern"

/-- The value of a field, an empty text if it is absent. -/
def described (fields : Fields) (name : String) : Value :=
  (fields.get? name).getD (.str "")

/-- The declared type of a parameter and the description of its items, which
the schema of a body overrides. -/
def declaredType (fields : Fields) : Value × Value :=
  let type := fields.get "type"
  let items := fields.get "items"
  match (fields.get "schema").fields? with
  | none => (type, items)
  | some schema =>
    match schema.get "$ref" with
    | .str ref => (.str (Schema.referenceType (.str ref)), items)
    | _ =>
      match schema.get? "type" with
      | none => (type, items)
      | some t => (t, (schema.get? "items").getD items)

/-- The type of the argument, but for enumerations. -/
def plainType (fields : Fields) : String :=
  let (type, items) := declaredType fields
  if type.isText "array" && items.fields?.isSome then
    Schema.arrayType items type
  else Schema.scalarType type

/-- The name of a parameter, an empty text if it has none. -/
def nameOf (fields : Fields) : Value := (fields.get "name").orElse (.str "")

/-- The values that a parameter is restricted to, none if it is not. -/
def allowedValues (fields : Fields) : List Value :=
  ((fields.get "enum").items?).getD []

/-- The enumeration that a parameter promotes: it is a text, restricted to two
values or more. -/
def promoted? (fields : Fields) : Option Enumeration :=
  match allowedValues fields with
  | _ :: _ :: _ =>
    if (declaredType fields).1.isText "string" then
      some ⟨.str (nameOf fields).enumName, allowedValues fields⟩
    else none
  | _ => none

/-- The parameter of a mapping. -/
def read (fields : Fields) : Parameter :=
  let name := nameOf fields
  let (type, items) := declaredType fields
  let location := Location.ofValue? (fields.get "in")
  { name
    argument := Text.identifier name.text
    declaredLocation := fields.get "in"
    location
    description := described fields "description"
    required := (fields.get "required").truthy
    type
    items
    typescriptType := match promoted? fields with
      | some _ => name.enumName
      | none => plainType fields
    singleton := match allowedValues fields with
      | [v] => some v
      | _ => none
    isPattern := location = some .query && (fields.get patternField).truthy
    isLast := false }

/-- Whether a proxy injects the parameter. -/
def isProxied (fields : Fields) : Bool := (fields.get proxyField).truthy

/-- The mappings among the parameters, without those that a proxy injects
unless the client runs on the server side. -/
def kept (onServer : Bool) (params : List Value) : List Fields :=
  (params.filterMap Value.fields?).filter fun p => onServer || !isProxied p

/-- A list of parameters with the mark on its last one. -/
def markLast : List Parameter → List Parameter
  | [] => []
  | [p] => [{ p with isLast := true }]
  | p :: rest => p :: markLast rest

/-- The parameters of the kept mappings. -/
def readAll (onServer : Bool) (params : List Value) : List Parameter :=
  markLast ((kept onServer params).map read)

/-- What happens while one parameter is read. -/
def event? (onServer : Bool) (param : Value) : Option Event :=
  match param.fields? with
  | none => none
  | some p =>
    if onServer || !isProxied p then (promoted? p).map .promoted
    else some (.headerSkipped (p.get "name"))

/-- What happens while parameters are read. -/
def events (onServer : Bool) (params : List Value) : List Event :=
  params.filterMap (event? onServer)

/-- The parameters of an operation, its own ones before the shared ones. -/
def listed (operation : Fields) (shared : List Value) : List Value :=
  ((operation.get "parameters").items?).getD [] ++ shared

/-! ### Lists of parameters -/

@[simp] theorem kept_append (onServer : Bool) (as bs : List Value) :
    kept onServer (as ++ bs) = kept onServer as ++ kept onServer bs := by
  simp [kept]

@[simp] theorem events_append (onServer : Bool) (as bs : List Value) :
    events onServer (as ++ bs) = events onServer as ++ events onServer bs := by
  simp [events]

/-- On the server side no mapping is left out. -/
theorem kept_true (params : List Value) :
    kept true params = params.filterMap Value.fields? := by
  simp [kept]

/-- The parameter of a value, which must be a mapping. -/
def build (param : Value) : Traced Parameter :=
  match param.fields? with
  | none => .ofExcept (.error .notMapping)
  | some p => ⟨((promoted? p).map Event.promoted).toList, .ok (read p)⟩

/-- The parameters of an operation, which must be a mapping, and of its path,
which must have elements. -/
def buildAll (operation shared : Value) (onServer : Bool) :
    Traced (List Parameter) :=
  match operation.fields?, shared.elements? with
  | none, _ => .ofExcept (.error .notMapping)
  | some _, none => .ofExcept (.error .notIterable)
  | some op, some shared =>
    ⟨events onServer (listed op shared), .ok (readAll onServer (listed op shared))⟩

end Parameter

end ClientGen
