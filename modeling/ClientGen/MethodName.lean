import ClientGen.Fault
import ClientGen.Identifier

/-!
# Names of methods

The method of an operation is called what the operation asks for, or else by
its verb and path:

```
GET    /users               ⟶   getUsers
GET    /users/{id}/orders   ⟶   getUsersByIdOrders
DELETE /pets/{pet-id}/      ⟶   deletePetsByPetId
POST   /                    ⟶   post
```
-/

namespace ClientGen

namespace MethodName

/-- The word for a segment of a path: a slot becomes `by` and its name. -/
def segmentWord (segment : List Char) : List Char :=
  if 2 < segment.length && segment.head? == some '\x7b' &&
      segment.getLast? == some '\x7d' then
    'b' :: 'y' :: Text.upperFirst (segment.drop 1).dropLast
  else segment

/-- The path without one slash at its end. -/
def dropFinalSlash (path : List Char) : List Char :=
  if path.getLast? == some '/' then path.dropLast else path

/-- The name of a verb and a path, as characters. -/
def ofPathChars (verb path : List Char) : List Char :=
  let verb := Text.lowerChars verb
  if path = ['/'] || path = [] then verb
  else
    let words := (((dropFinalSlash path).splitOn '/').drop 1).map segmentWord
    let name := Text.identifierChars (['-'].intercalate words)
    Text.lowerFirst (verb ++ Text.upperFirst name)

/-- The name of a verb and a path. -/
def ofPath (verb path : String) : String :=
  String.ofList (ofPathChars verb.toList path.toList)

/-- The name of a verb and a path, both of which must be texts. -/
def build (verb path : Value) : Except Fault String :=
  match verb, path with
  | .str v, .str p => .ok (ofPath v p)
  | _, _ => .error .notText

/-- The field that names the method of an operation. -/
def extensionField : String := "x-swagger-js-method-name"

/-- The name that an operation asks for, if it does. -/
def explicit? (operation : Fields) : Option Value :=
  let v := (operation.get extensionField).orElse (operation.get "operationId")
  if v.truthy then some v else none

/-- The name of the method of an operation. A name that is asked for may be any
value. -/
def resolve (verb path : Value) (operation : Fields) : Except Fault Value :=
  match explicit? operation with
  | some v => .ok v
  | none => (build verb path).map .str

/-- The name of the method of an operation, which must be a mapping. -/
def resolveIn (verb path operation : Value) : Except Fault Value :=
  match operation.fields? with
  | some fields => resolve verb path fields
  | none => .error .notMapping

end MethodName

end ClientGen
