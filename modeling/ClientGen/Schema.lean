import ClientGen.Fault
import ClientGen.Identifier

/-!
# Types of schemas

How the types that a document declares are called in the generated code.
Scalars have names of their own there, a reference is called like the model it
points at, and whatever is missing or malformed is `any`.
-/

namespace ClientGen

namespace Schema

/-- The type of everything. -/
def anyType : String := "any"

/-- What marks a type as one of arrays. -/
def arrayMark : String := "[]"

/-- The name that a reference points at: the third of exactly three segments,
and otherwise the first. -/
def referenceTarget (ref : String) : String :=
  match ref.toList.splitOn '/' with
  | [_, _, third] => String.ofList third
  | first :: _ => String.ofList first
  | [] => ""

/-- The name that a reference points at, which must be a text. -/
def targetOf (ref : Value) : Except Fault String :=
  match ref with
  | .str s => .ok (referenceTarget s)
  | _ => .error .notText

/-- The type that a reference names. -/
def referenceType (ref : Value) : String :=
  match ref with
  | .str s =>
    let name := Text.identifier (referenceTarget s)
    if name = "" then anyType else name
  | _ => anyType

/-- The scalar types, each with its name in the generated code. -/
def scalarNames : List (String × String) :=
  [("integer", "number"), ("double", "number"), ("string", "string"),
    ("boolean", "boolean"), ("object", anyType),
    ("array", anyType ++ arrayMark)]

/-- The name of a declared type. Scalars are known in any case of letters. -/
def scalarType (declared : Value) : String :=
  match declared with
  | .str s =>
    if s = "" then anyType
    else (scalarNames.lookup (Text.lower s)).getD (Text.identifier s)
  | _ => anyType

/-- The type of an array with the given description of its items. Without one
it is the declared type. -/
def arrayType (items declared : Value) : String :=
  let fields := items.fields?.getD []
  match fields.get? "$ref" with
  | some ref => referenceType ref ++ arrayMark
  | none =>
    let element := fields.get "type"
    if element.truthy then scalarType element ++ arrayMark
    else scalarType declared

/-- The type of a property. Types that are no known scalar stay as they are. -/
def propertyType (declared : Value) : Value :=
  if !declared.truthy then .str anyType
  else if declared.isText "integer" || declared.isText "double" then
    .str "number"
  else if declared.isText "object" then .str anyType
  else declared

end Schema

end ClientGen
