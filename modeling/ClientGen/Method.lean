import ClientGen.MethodName
import ClientGen.Parameter
import ClientGen.Response
import ClientGen.UrlTemplate

/-!
# Methods

Every operation of a document becomes a method of the client. An operation is
found under a path and a verb; keys of a path that are no verb of a client are
passed over. A method is read from its operation, the document around it, and
the parameters that its path shares among its operations.
-/

namespace ClientGen

/-- A method of the client. -/
structure Method where
  path : String
  /-- The path with its slots marked. -/
  markedPath : String
  name : Value
  /-- The verb in upper case. -/
  verb : String
  /-- The verb in lower case. -/
  call : String
  summary : List String
  isSecure : Bool
  parameters : List Parameter
  isJson : Bool
  response : String
  deriving Inhabited, Repr

namespace Method

/-- The verbs that become methods. -/
def verbs : List String := ["GET", "POST", "PUT", "DELETE", "PATCH"]

/-- The verbs whose requests have no body. -/
def bodiless : List String := ["GET", "DELETE", "HEAD"]

/-- Whether the verb is the plain one. -/
def isGet (m : Method) : Bool := m.verb == "GET"

/-- Whether requests have a body. -/
def hasPayload (m : Method) : Bool := !bodiless.contains m.verb

/-- Whether a parameter is carried at a location. -/
def hasAt (m : Method) (l : Location) : Bool :=
  m.parameters.any fun p => p.location == some l

/-- The lines of the description of an operation, without the last one. -/
def summaryOf (operation : Fields) : List String :=
  match operation.get "description" with
  | .str s =>
    if s = "" then []
    else ((s.toList.splitOn '\n').dropLast).map String.ofList
  | _ => []

/-- Whether a value has a text among its keys, items or members, or as a part
if it is a text itself. -/
def mentions (v : Value) (word : String) : Except Fault Bool :=
  match v with
  | .str s => .ok (Response.occursIn word.toList s.toList)
  | .map entries => .ok (Fields.has entries word)
  | .list items | .set items => .ok (items.any (·.isText word))
  | .pair k w => .ok (k.isText word || w.isText word)
  | _ => .error .notContainer

/-- Whether the document or the operation asks for a token. -/
def securedBy (document : Value) (operation : Fields) : Except Fault Bool := do
  if ← mentions document "security" then return true
  else return operation.has "security"

/-- The method of an operation. -/
def build (document path verb operation shared : Value) (onServer : Bool) :
    Traced Method := do
  let verb ← match verb with
    | .str v => Traced.pure v
    | _ => .ofExcept (.error .notText)
  let parameters ← Parameter.buildAll operation shared onServer
  let op := operation.fields?.getD []
  let path ← match path with
    | .str p => Traced.pure p
    | _ => .ofExcept (.error .notSearchable)
  let name ← .ofExcept (MethodName.resolve (.str verb) (.str path) op)
  let isSecure ← .ofExcept (securedBy document op)
  let isJson ← .ofExcept (Response.isJson op document)
  return {
    path
    markedPath := UrlTemplate.marked path
    name
    verb := Text.upper verb
    call := Text.lower verb
    summary := summaryOf op
    isSecure
    parameters
    isJson
    response := Response.typeOf op }

/-- The parameters that a path shares among its operations: those of the last
key that spells the word, in any case of letters, and has a list. -/
def sharedOf (pathItem : Fields) : List Value :=
  pathItem.foldl (fun shared (k, v) =>
    match k, v with
    | .str s, .list params =>
      if Text.lower s = "parameters" then params else shared
    | _, _ => shared) []

/-- Whether a key of a path is a verb that becomes a method. -/
def isVerb (key : Value) : Bool :=
  match key with
  | .str s => verbs.contains (Text.upper s)
  | _ => false

/-- What becomes of an entry of a path: at most one method. -/
def ofEntry (document path : Value) (shared : List Value) (onServer : Bool)
    (key operation : Value) : Traced (List Method) :=
  if !isVerb key then
    if key.isText "parameters" then Traced.pure []
    else ⟨[.verbSkipped key path], .ok []⟩
  else
    match operation with
    | .map _ => do
      let m ← build document path key operation (.list shared) onServer
      return [m]
    | _ => Traced.pure []

/-- The methods of a path. -/
def ofPath (document path item : Value) (onServer : Bool) :
    Traced (List Method) :=
  match item with
  | .map entries => do
    let shared := sharedOf entries
    let ms ← Traced.collect
      (entries.map fun (k, v) => ofEntry document path shared onServer k v)
    return ms.flatten
  | _ => Traced.pure []

/-- The paths of a document. -/
def pathsOf (document : Fields) : Fields :=
  (document.get "paths").fields?.getD []

/-- The paths of a document, which must be a mapping. -/
def pathsIn (document : Value) : Except Fault Fields :=
  match document.fields? with
  | some fields => .ok (pathsOf fields)
  | none => .error .notMapping

/-- The methods of a document, in its order. -/
def buildAll (document : Value) (onServer : Bool) : Traced (List Method) := do
  let paths ← .ofExcept (pathsIn document)
  let ms ← Traced.collect
    (paths.map fun (path, item) => ofPath document path item onServer)
  return ms.flatten

end Method

end ClientGen
