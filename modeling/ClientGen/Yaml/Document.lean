import ClientGen.Value.Basic
import ClientGen.Yaml.Node

/-!
# The value of a YAML document

What a node tree stands for. Scalars have the value of their tag; a mapping may
take over the entries of others by the key `<<`.

A tree may hold several faults. The one that counts is the shallowest, and of
those at one depth the first: the content of a collection is looked at after
everything around the collection. So building a value also yields the faults
of the tree by depth.
-/

namespace ClientGen.Yaml

/-- A value with the faults met on the way: `now` at the place of the node
itself, `later` at the places below it, one list for each depth. -/
structure Built where
  value : Value
  now : List Fault
  later : List (List Fault)

/-- Faults by depth, put together in order at each depth. -/
def mergeByDepth : List (List Fault) → List (List Fault) → List (List Fault)
  | [], bs => bs
  | as, [] => as
  | a :: as, b :: bs => (a ++ b) :: mergeByDepth as bs

namespace Built

/-- A value without a fault. -/
def good (v : Value) : Built := ⟨v, [], []⟩

/-- A scalar value or its fault. -/
def ofScalar {α : Type} (make : α → Value) : Except Fault α → Built
  | .ok a => good (make a)
  | .error f => ⟨.null, [f], []⟩

/-- A collection whose content has the given faults: those of its parts come
when the collection has its turn. Until then it is an empty one, so that it is
no key even where its content is at fault. -/
def collection (v : Value) (content : List Fault) (below : List (List Fault)) :
    Built :=
  ⟨v, [], content :: below⟩

/-- The first fault. -/
def firstFault? (b : Built) : Option Fault :=
  (b.now ++ b.later.flatten).head?

end Built

/-- The text of a node where a scalar is due. A mapping with the key `=` has
that of its value. -/
def scalarText? : Nat → Node → Option String
  | _, .scalar _ s => some s
  | fuel + 1, .mapping _ entries =>
    match entries.find? fun e => e.1.tag == Tag.value with
    | some (_, v) => scalarText? fuel v
    | none => none
  | _, _ => none

/-- The entries of a mapping with those it takes over in front of its own.
The key `=` is an ordinary one here. -/
def mergedEntries : Nat → List (Node × Node) → Except Fault (List (Node × Node))
  | 0, _ => .error .malformed
  | fuel + 1, entries => do
    let parts ← entries.mapM fun (k, v) =>
      if k.tag = .merge then
        match v with
        | .mapping _ es => return (← mergedEntries fuel es, [])
        | .sequence _ nodes => do
          let sources ← nodes.mapM fun n =>
            match n with
            | .mapping _ es => mergedEntries fuel es
            | _ => .error .malformed
          return (sources.reverse.flatten, [])
        | .scalar _ _ => .error .malformed
      else if k.tag = .value then
        match k with
        | .scalar _ s => return ([], [(.scalar .str s, v)])
        | .sequence _ items => return ([], [(.sequence .str items, v)])
        | .mapping _ es => return ([], [(.mapping .str es, v)])
      else return ([], [(k, v)])
    return (parts.map (·.1)).flatten ++ (parts.map (·.2)).flatten

/-- Whether a value can be a key: no collection can. -/
def isKeyValue : Value → Bool
  | .list _ | .map _ | .set _ => false
  | _ => true

/-- The entries of a mapping as values, with the faults of its parts. -/
def entriesBuilt (build : Node → Built) (entries : List (Node × Node)) :
    List (Value × Value) × List Fault × List (List Fault) :=
  entries.foldr (fun (k, v) (pairs, faults, below) =>
      let kb := build k
      let vb := build v
      let unfit := if isKeyValue kb.value then [] else [Fault.malformed]
      ((kb.value, vb.value) :: pairs,
        kb.now ++ unfit ++ vb.now ++ faults,
        mergeByDepth (mergeByDepth kb.later vb.later) below))
    ([], [], [])

/-- The value of a mapping, made from its entries by `make`. -/
def mappingBuilt (fuel : Nat) (build : Node → Built) (make : Fields → Value) :
    Node → Built
  | .mapping _ entries =>
    match mergedEntries fuel entries with
    | .error f => .collection (make []) [f] []
    | .ok es =>
      let (pairs, faults, below) := entriesBuilt build es
      .collection (make (Fields.ofPairs pairs)) faults below
  | _ => .collection (make []) [.malformed] []

/-- The value of a sequence of mappings of one entry each, as a list of
pairs. -/
def pairsBuilt (build : Node → Built) : Node → Built
  | .sequence _ items =>
    let (pairs, faults, below) := items.foldr (fun n (pairs, faults, below) =>
        match n with
        | .mapping _ [(k, v)] =>
          let kb := build k
          let vb := build v
          (.pair kb.value vb.value :: pairs, kb.now ++ vb.now ++ faults,
            mergeByDepth (mergeByDepth kb.later vb.later) below)
        | _ => (pairs, .malformed :: faults, below))
      ([], [], [])
    .collection (.list pairs) faults below
  | _ => .collection (.list []) [.malformed] []

/-- The value of a sequence. -/
def sequenceBuilt (build : Node → Built) : Node → Built
  | .sequence _ items =>
    let parts := items.map build
    .collection (.list (parts.map (·.value))) (parts.flatMap (·.now))
      (parts.foldr (fun b below => mergeByDepth b.later below) [])
  | _ => .collection (.list []) [.malformed] []

/-- The value of a node. The fuel bounds the depth of the tree. -/
def build : Nat → Node → Built
  | 0, _ => ⟨.null, [.malformed], []⟩
  | fuel + 1, n =>
    let scalar {α : Type} (make : α → Value) (read : List Char → Except Fault α) :
        Built :=
      match scalarText? (fuel + 1) n with
      | none => ⟨.null, [.malformed], []⟩
      | some s => .ofScalar make (read s.toList)
    match n.tag with
    | .null => scalar (fun _ => .null) fun _ => .ok ()
    | .bool => scalar .bool boolValue
    | .int => scalar .int intValue
    | .float => scalar .float floatValue
    | .binary => scalar .bytes binaryValue
    | .str => scalar .str fun s => .ok (String.ofList s)
    | .timestamp =>
      scalar id fun s =>
        match n with
        | .scalar _ _ => timestampValue s
        | _ => .error .timestampOfCollection
    | .omap | .pairs => pairsBuilt (build fuel) n
    | .set =>
      mappingBuilt (fuel + 1) (build fuel) (fun es => .set (es.map (·.1))) n
    | .seq => sequenceBuilt (build fuel) n
    | .map => mappingBuilt (fuel + 1) (build fuel) .map n
    | .merge | .value | .unknown => ⟨.null, [.malformed], []⟩

/-- The value that a text holds, null if it holds no document. -/
def read (s : String) : Except Fault Value :=
  if !s.toList.all isAllowed then
    .error .malformed
  else
    match Node.ofTokens (Token.scan s.toList) with
    | .error f => .error f
    | .ok none => .ok .null
    | .ok (some n) =>
      let b := build (n.size + 1) n
      match b.firstFault? with
      | some f => .error f
      | none => .ok b.value

end ClientGen.Yaml
