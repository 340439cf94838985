import ClientGen.Schema

/-!
# Responses

What a method returns: the type of the successful response, and whether it
comes as JSON.
-/

namespace ClientGen

namespace Response

/-- The successful response of an operation. Its key is a text or, unquoted, a
number; the text comes first. -/
def success (responses : Fields) : Value :=
  match responses.get? "200" with
  | some r => r
  | none => (responses.find? (.int 200)).getD .null

/-- The type that the schema of a response names. Of arrays it is that of the
items, and of other declared types none is known. -/
def schemaType (schema : Fields) : String :=
  match schema.get? "type" with
  | some type =>
    if type.isText "array" then
      let items := (schema.get "items").fields?.getD []
      match items.get? "$ref" with
      | some ref => Schema.referenceType ref ++ Schema.arrayMark
      | none => Schema.scalarType (items.get "type") ++ Schema.arrayMark
    else Schema.anyType
  | none =>
    match schema.get? "$ref" with
    | some ref => Schema.referenceType ref
    | none => Schema.anyType

/-- The type of the successful response of an operation. -/
def typeOf (operation : Fields) : String :=
  match (operation.get "responses").fields? with
  | none => Schema.anyType
  | some responses =>
    match (success responses).fields? with
    | none => Schema.anyType
    | some response =>
      match (response.get "schema").fields? with
      | none => Schema.anyType
      | some schema => schemaType schema

/-- The type of the successful response of an operation, which must be a
mapping. -/
def typeIn (operation : Value) : Except Fault String :=
  match operation.fields? with
  | some op => .ok (typeOf op)
  | none => .error .notMapping

/-- Whether one text stands inside another. -/
def occursIn (needle : List Char) : List Char → Bool
  | [] => needle.isEmpty
  | c :: rest => needle.isPrefixOf (c :: rest) || occursIn needle rest

/-- Whether a media type is one of JSON. -/
def isJsonMedia (v : Value) : Bool :=
  match v with
  | .str s => occursIn "/json".toList s.toList
  | _ => false

/-- What an operation produces, or else the document does. The document is
looked at only if the operation does not say, and must be a mapping then. -/
def produced (operation : Fields) (document : Value) : Except Fault Value :=
  let own := operation.get "produces"
  if own.truthy then .ok own
  else
    match document.fields? with
    | some fields => .ok (fields.get "produces")
    | none => .error .notMapping

/-- Whether an operation answers with JSON: one of the media types that it
produces is. -/
def isJson (operation : Fields) (document : Value) : Except Fault Bool := do
  let media ← produced operation document
  if media.truthy then
    match media.elements? with
    | some elements => return elements.any isJsonMedia
    | none => .error .notIterable
  else return false

/-- Whether an operation, which must be a mapping, answers with JSON. -/
def isJsonIn (operation document : Value) : Except Fault Bool :=
  match operation.fields? with
  | some op => isJson op document
  | none => .error .notMapping

end Response

end ClientGen
