import ClientGen.Enumeration
import ClientGen.Schema

/-!
# Properties of definitions

A property of a definition becomes a field of its model. It is an array, an
enumeration or plain, in this order of precedence; an enumeration is declared
next to the model.
-/

namespace ClientGen

/-- A field of a model. -/
structure Property where
  name : Value
  description : Value
  /-- Whether the type is another model, or an array of one. -/
  isRef : Bool
  isArray : Bool
  isEnum : Bool
  /-- The type, of an array that of its elements. -/
  type : Value
  typescriptType : Value
  deriving Inhabited, Repr

namespace Property

/-- Whether a schema points at a model, or is an array of such. -/
def pointsAtModel (schema : Fields) : Bool :=
  schema.has "$ref" ||
    ((schema.get "type").isText "array" &&
      ((schema.get "items").fields?.getD []).has "$ref")

/-- The type of the elements of an array. -/
def elementType (items : Fields) : String :=
  match items.get? "$ref" with
  | some ref => Schema.referenceType ref
  | none =>
    let type := items.get "type"
    if type.truthy then type.identifier?.getD Schema.anyType
    else Schema.anyType

/-- The property of a name and a schema, and the enumeration that it declares.
A schema that is no mapping says nothing. -/
def read (name schema : Value) : Property × Option Enumeration :=
  let fields := schema.fields?.getD []
  let isArray := (fields.get "type").isText "array"
  let values := ((fields.get "enum").items?).getD []
  let isEnum := !isArray && !values.isEmpty
  let type : Value :=
    if isArray then
      .str (elementType ((fields.get "items").fields?.getD []))
    else if isEnum then .str name.enumName
    else
      match fields.get? "$ref" with
      | some ref => .str (Schema.referenceType ref)
      | none => fields.get "type"
  ({ name
     description := (fields.get? "description").getD (.str "")
     isRef := pointsAtModel fields
     isArray
     isEnum
     type
     typescriptType := Schema.propertyType type },
   if isEnum then some ⟨.str name.enumName, values⟩ else none)

end Property

end ClientGen
