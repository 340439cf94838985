import ClientGen.Yaml.Lexer
import ClientGen.Yaml.Scalar

/-!
# The node tree of a YAML document

The tokens of a document as a tree of tagged nodes. An alias stands for the
whole node that its anchor names; an anchor may be given once. A node that holds
an alias of itself is no tree and is refused. A node without a tag gets the one
of its form.
-/

namespace ClientGen.Yaml

/-- A tagged node. -/
inductive Node where
  | scalar (tag : Tag) (text : String)
  | sequence (tag : Tag) (items : List Node)
  | mapping (tag : Tag) (entries : List (Node × Node))
  deriving Inhabited, Repr

namespace Node

/-- The tag of a node. -/
def tag : Node → Tag
  | .scalar t _ | .sequence t _ | .mapping t _ => t

/-- The node that stands where nothing is written. -/
def empty : Node := .scalar .null ""

mutual

/-- How many nodes there are in a tree. -/
def size : Node → Nat
  | .scalar _ _ => 1
  | .sequence _ items => sizes items + 1
  | .mapping _ entries => entrySizes entries + 1

/-- How many nodes there are in all items. -/
def sizes : List Node → Nat
  | [] => 0
  | n :: rest => size n + sizes rest

/-- How many nodes there are in all keys and values. -/
def entrySizes : List (Node × Node) → Nat
  | [] => 0
  | (k, v) :: rest => size k + size v + entrySizes rest

end

end Node

/-- What is known while a tree is built: the tokens still to come, what the tag
handles stand for, and the nodes that anchors name. The anchor of a node that
is still being read names none yet. -/
structure Feed where
  tokens : List Token
  handles : List (String × String)
  anchors : List (String × Option Node)

/-- A step of building a tree. -/
abbrev Building := StateT Feed (Except Fault)

namespace Building

/-- The next token. -/
def peek : Building Token := fun s =>
  match s.tokens with
  | [] => .error .malformed
  | .broken f :: _ => .error f
  | t :: _ => .ok (t, s)

/-- Passes over the next token. -/
def drop : Building Unit := fun s => .ok ((), { s with tokens := s.tokens.drop 1 })

/-- The next token fits nowhere. -/
def refuse {α : Type} : Building α := fun _ => .error .malformed

/-- Passes over the next token, which must be the given one. -/
def expect (t : Token) : Building Unit := do
  if (← peek) = t then drop else refuse

/-- The full name of a tag, if its handle is known. -/
def fullTag (handle : Option String) (suffix : String) : Building String :=
  match handle with
  | none => return suffix
  | some h => do
    match (← get).handles.lookup h with
    | some stem => return stem ++ suffix
    | none => refuse

/-- The anchor and the tag in front of a node, in either order. -/
def properties : Building (Option String × Option String) := do
  match ← peek with
  | .anchor a =>
    drop
    match ← peek with
    | .tag h s => drop; return (some a, some (← fullTag h s))
    | _ => return (some a, none)
  | .tag h s =>
    drop
    match ← peek with
    | .anchor a => drop; return (some a, some (← fullTag h s))
    | _ => return (none, some (← fullTag h s))
  | _ => return (none, none)

/-- Takes an anchor for the node that starts here; no other node may have
it. -/
def reserve (anchor : Option String) : Building Unit :=
  match anchor with
  | none => return ()
  | some a => do
    let s ← get
    if (s.anchors.lookup a).isSome then refuse
    else set { s with anchors := (a, none) :: s.anchors }

/-- Gives a node the anchor that was taken for it. -/
def name (anchor : Option String) (n : Node) : Building Node :=
  match anchor with
  | none => return n
  | some a => do
    modify fun s => { s with anchors := (a, some n) :: s.anchors }
    return n

/-- The tag of a collection: the written one unless it is absent or only says
that there is none. -/
def collectionTag (written : Option String) (form : Tag) : Tag :=
  match written with
  | none => form
  | some t => if t = "!" then form else Tag.ofName t

/-- The tag of a scalar. Its form counts if it is plain or marked by a lone
exclamation mark. -/
def scalarTag (written : Option String) (plain : Bool) (text : String) : Tag :=
  match written with
  | none => if plain then implicitTag text else .str
  | some t => if t = "!" then implicitTag text else Tag.ofName t

mutual

/-- A node. In block style it may be a block collection, and as the value of a
mapping also a sequence that is not indented. -/
def node (block unindented : Bool) : Nat → Building Node
  | 0 => refuse
  | fuel + 1 => do
    match ← peek with
    | .alias a =>
      drop
      match (← get).anchors.lookup a with
      | some (some n) => return n
      | _ => refuse
    | _ =>
      let (anchor, written) ← properties
      let next ← peek
      reserve anchor
      let form := collectionTag written
      match next with
      | .blockEntry =>
        if unindented then
          name anchor (.sequence (form .seq) (← unindentedItems fuel))
        else bare anchor written
      | .scalar text plain =>
        drop
        name anchor (.scalar (scalarTag written plain text) text)
      | .flowSequenceStart =>
        drop
        name anchor (.sequence (form .seq) (← flowItems true fuel))
      | .flowMappingStart =>
        drop
        name anchor (.mapping (form .map) (← flowEntries true fuel))
      | .blockSequenceStart =>
        if block then
          drop
          name anchor (.sequence (form .seq) (← blockItems fuel))
        else bare anchor written
      | .blockMappingStart =>
        if block then
          drop
          name anchor (.mapping (form .map) (← blockEntries fuel))
        else bare anchor written
      | _ => bare anchor written
where
  /-- A node of which only the anchor or the tag is written. -/
  bare (anchor written : Option String) : Building Node :=
    if anchor.isSome || written.isSome then
      name anchor (.scalar (scalarTag written true "") "")
    else refuse

/-- The items of a block sequence, up to its end. -/
def blockItems : Nat → Building (List Node)
  | 0 => refuse
  | fuel + 1 => do
    match ← peek with
    | .blockEntry =>
      drop
      let item ← match ← peek with
        | .blockEntry | .blockEnd => pure Node.empty
        | _ => node true false fuel
      return item :: (← blockItems fuel)
    | .blockEnd => drop; return []
    | _ => refuse

/-- The items of a sequence that is not indented: it ends where no dash
comes. -/
def unindentedItems : Nat → Building (List Node)
  | 0 => refuse
  | fuel + 1 => do
    match ← peek with
    | .blockEntry =>
      drop
      let item ← match ← peek with
        | .blockEntry | .key | .value | .blockEnd => pure Node.empty
        | _ => node true false fuel
      return item :: (← unindentedItems fuel)
    | _ => return []

/-- The entries of a block mapping, up to its end. -/
def blockEntries : Nat → Building (List (Node × Node))
  | 0 => refuse
  | fuel + 1 => do
    match ← peek with
    | .key =>
      drop
      let k ← blockPart fuel
      let v ← match ← peek with
        | .value => drop; blockPart fuel
        | _ => pure Node.empty
      return (k, v) :: (← blockEntries fuel)
    | .blockEnd => drop; return []
    | _ => refuse

/-- A key or a value of a block mapping, which may be absent. -/
def blockPart : Nat → Building Node
  | 0 => refuse
  | fuel + 1 => do
    match ← peek with
    | .key | .value | .blockEnd => return Node.empty
    | _ => node true true fuel

/-- The items of a flow sequence, up to its closing bracket. An item may be a
single pair. -/
def flowItems (first : Bool) : Nat → Building (List Node)
  | 0 => refuse
  | fuel + 1 => do
    match ← peek with
    | .flowSequenceEnd => drop; return []
    | _ =>
      if !first then expect .flowEntry
      match ← peek with
      | .flowSequenceEnd => drop; return []
      | .key =>
        drop
        let k ← flowPart .flowSequenceEnd true fuel
        let v ← match ← peek with
          | .value => drop; flowPart .flowSequenceEnd false fuel
          | _ => pure Node.empty
        return .mapping .map [(k, v)] :: (← flowItems false fuel)
      | _ =>
        let item ← node false false fuel
        return item :: (← flowItems false fuel)

/-- The entries of a flow mapping, up to its closing brace. An entry may be a
key alone. -/
def flowEntries (first : Bool) : Nat → Building (List (Node × Node))
  | 0 => refuse
  | fuel + 1 => do
    match ← peek with
    | .flowMappingEnd => drop; return []
    | _ =>
      if !first then expect .flowEntry
      match ← peek with
      | .flowMappingEnd => drop; return []
      | .key =>
        drop
        let k ← flowPart .flowMappingEnd true fuel
        let v ← match ← peek with
          | .value => drop; flowPart .flowMappingEnd false fuel
          | _ => pure Node.empty
        return (k, v) :: (← flowEntries false fuel)
      | _ =>
        let k ← node false false fuel
        return (k, Node.empty) :: (← flowEntries false fuel)

/-- A key or a value in a flow collection, which may be absent: it is where a
comma or the closing token comes, and a key also where a colon comes. -/
def flowPart (closing : Token) (isKey : Bool) : Nat → Building Node
  | 0 => refuse
  | fuel + 1 => do
    let t ← peek
    if t = .flowEntry || t = closing || (isKey && t = .value) then
      return Node.empty
    else node false false fuel

end

/-- What the two handles that need no directive stand for. -/
def standardHandles : List (String × String) :=
  [("!", "!"), ("!!", Tag.stem)]

/-- The directives in front of a document. A version must be of the first
edition and given once; a handle may be declared once. -/
def directives : Nat → Bool → List (String × String) →
    Building (List (String × String))
  | 0, _, _ => refuse
  | fuel + 1, versioned, handles => do
    match ← peek with
    | .directive (.version major _) =>
      if versioned || major != 1 then refuse
      else drop; directives fuel true handles
    | .directive (.tagHandle h stem) =>
      if (handles.lookup h).isSome then refuse
      else drop; directives fuel versioned ((h, stem) :: handles)
    | .directive .other => drop; directives fuel versioned handles
    | _ => return handles

/-- Passes over document end markers. -/
def skipEnds : Nat → Building Unit
  | 0 => refuse
  | fuel + 1 => do
    match ← peek with
    | .documentEnd => drop; skipEnds fuel
    | _ => return ()

/-- The only document of a stream, if there is one. Its start marker may be
left out where no directive comes before it. -/
def stream (fuel : Nat) : Building (Option Node) := do
  let root ← match ← peek with
    | .streamEnd => return none
    | .directive _ | .documentStart =>
      let declared ← directives fuel false []
      expect .documentStart
      modify fun s => { s with handles := declared ++ standardHandles }
      match ← peek with
      | .directive _ | .documentStart | .documentEnd | .streamEnd =>
        pure Node.empty
      | _ => node true false fuel
    | _ => node true false fuel
  skipEnds fuel
  expect .streamEnd
  return some root

end Building

/-- The tree of the tokens of a stream, if it has a document. -/
def Node.ofTokens (tokens : List Token) : Except Fault (Option Node) :=
  let feed : Feed := ⟨tokens, Building.standardHandles, []⟩
  (Building.stream (4 * tokens.length + 4) feed).map (·.1)

end ClientGen.Yaml
