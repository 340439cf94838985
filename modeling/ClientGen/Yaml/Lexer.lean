import ClientGen.Yaml.Scan

/-!
# Cutting a YAML text into tokens

The lexer reads one token after another. Two things make it more than a list
of patterns. The indentation opens and closes block collections, which is
tracked by a stack of columns. And a key is only known to be one when the colon
after it is met: until then every place where a key may have started is
remembered, and the tokens that announce the key are put in at that place
afterwards. Such a key must lie on one line and within 1024 characters.
-/

namespace ClientGen.Yaml

/-- A place where a key may have started. -/
structure PossibleKey where
  /-- The depth of flow collections at the place. -/
  level : Nat
  /-- How many tokens come before it. -/
  place : Nat
  /-- Whether there must be a key here, for the indentation says so. -/
  required : Bool
  /-- How many characters were still to be read. -/
  left : Nat
  line : Nat
  column : Nat
  deriving Repr

/-- The state of the lexer. -/
structure Lexer where
  cursor : Cursor
  /-- The tokens so far, the latest first. -/
  tokens : List Token
  /-- How many tokens there are. -/
  count : Nat
  /-- How many flow collections are open. -/
  flow : Nat
  /-- The column of the innermost block collection, -1 outside of any. -/
  indent : Int
  /-- The columns of the block collections around it. -/
  outer : List Int
  /-- Whether a key may start at the next token. -/
  allowKey : Bool
  keys : List PossibleKey

namespace Lexer

/-- The lexer at the start of a text. -/
def start (s : List Char) : Lexer := 
  ⟨Cursor.start s, [], 0, 0, -1, [], true, []⟩

/-- One more token. -/
def push (l : Lexer) (t : Token) : Lexer :=
  { l with tokens := t :: l.tokens, count := l.count + 1 }

/-- One more token, read up to a place. -/
def pushAt (l : Lexer) (t : Token) (c : Cursor) : Lexer :=
  { l.push t with cursor := c }

/-- One more token, with the given number of tokens before it. -/
def insert (l : Lexer) (place : Nat) (t : Token) : Lexer :=
  { l with
    tokens := l.tokens.insertIdx (l.count - place) t
    count := l.count + 1 }

/-- Whether a key may or may not start at the next token. -/
def allow (l : Lexer) (b : Bool) : Lexer := { l with allowKey := b }

/-- The place after blanks, comments and line breaks. After a line break in
block style a key may start. -/
def skipToToken : Nat → Lexer → Lexer
  | 0, l => l
  | fuel + 1, l =>
    let c := skipBlanks l.cursor
    let c := if c.at? '#' then c.skip (!isBreak ·) else c
    match c.lineBreak? with
    | none => { l with cursor := c }
    | some (_, c) =>
      skipToToken fuel { l with cursor := c, allowKey := l.allowKey || l.flow == 0 }

/-- Whether a key that may have started at a place has met the end of its line
or has grown too long. -/
def isStale (l : Lexer) (k : PossibleKey) : Bool :=
  k.line != l.cursor.line || l.cursor.left + 1024 < k.left

/-- The places where a key may still have started. A required key that is
stale is a fault. -/
def dropStale (l : Lexer) : Except Fault Lexer :=
  if l.keys.any fun k => l.isStale k && k.required then malformed
  else .ok { l with keys := l.keys.filter (!l.isStale ·) }

/-- How many tokens are settled: a token where a key may still have started is
not, nor is any after it. -/
def settled (l : Lexer) : Nat :=
  (l.keys.filter (!l.isStale ·)).foldl (fun n k => min n k.place) l.count

/-- Forgets the possible key of the current level, which must not be a required
one. -/
def forgetKey (l : Lexer) : Except Fault Lexer :=
  if l.keys.any fun k => k.level == l.flow && k.required then malformed
  else .ok { l with keys := l.keys.filter (·.level != l.flow) }

/-- Remembers that a key may start here, if one may. -/
def rememberKey (l : Lexer) : Except Fault Lexer :=
  if l.allowKey then do
    let required := l.flow == 0 && l.indent == (l.cursor.column : Int)
    let l ← l.forgetKey
    let k : PossibleKey :=
      ⟨l.flow, l.count, required, l.cursor.left, l.cursor.line,
        l.cursor.column⟩
    return { l with keys := k :: l.keys }
  else .ok l

/-- Closes the block collections that are indented by more than a column. The
fuel is the number of open ones. -/
def unwindTo (column : Int) : Nat → Lexer → Lexer
  | 0, l => l
  | fuel + 1, l =>
    if l.flow == 0 && column < l.indent then
      unwindTo column fuel
        { l.push .blockEnd with
          indent := l.outer.headD (-1)
          outer := l.outer.drop 1 }
    else l

/-- Closes the block collections that are indented by more than a column. -/
def unwind (column : Int) (l : Lexer) : Lexer :=
  unwindTo column (l.outer.length + 1) l

/-- Opens a block collection at a column that is further in than the present
one, with a token at a place among the tokens. -/
def openBlock (l : Lexer) (column place : Nat) (t : Token) : Lexer :=
  if l.indent < column then
    { l.insert place t with
      outer := l.indent :: l.outer
      indent := column }
  else l

/-- The end of the text closes everything. -/
def finish (l : Lexer) : Except Fault Lexer := do
  let l ← (unwind (-1) l).forgetKey
  return l.push .streamEnd

/-- A directive or a document marker closes all block collections. -/
def outsideBlocks (l : Lexer) : Except Fault Lexer := do
  let l ← (unwind (-1) l).forgetKey
  return l.allow false

/-- A bracket that opens a flow collection, and may start a key. -/
def openFlow (l : Lexer) (t : Token) : Except Fault Lexer := do
  let l ← l.rememberKey
  return { l.pushAt t l.cursor.next with flow := l.flow + 1, allowKey := true }

/-- A bracket that closes a flow collection. -/
def closeFlow (l : Lexer) (t : Token) : Except Fault Lexer := do
  let l ← l.forgetKey
  match l.flow with
  | 0 => malformed
  | n + 1 => return { l.pushAt t l.cursor.next with flow := n, allowKey := false }

/-- A comma between the items of a flow collection. -/
def flowEntry (l : Lexer) : Except Fault Lexer := do
  let l ← (l.allow true).forgetKey
  return l.pushAt .flowEntry l.cursor.next

/-- A dash in front of an item. -/
def blockEntry (l : Lexer) : Except Fault Lexer :=
  if l.flow == 0 && !l.allowKey then malformed
  else do
    let l :=
      if l.flow == 0 then
        l.openBlock l.cursor.column l.count .blockSequenceStart
      else l
    let l ← (l.allow true).forgetKey
    return l.pushAt .blockEntry l.cursor.next

/-- A question mark in front of a key. -/
def explicitKey (l : Lexer) : Except Fault Lexer :=
  if l.flow == 0 && !l.allowKey then malformed
  else do
    let l :=
      if l.flow == 0 then
        l.openBlock l.cursor.column l.count .blockMappingStart
      else l
    let l ← (l.allow (l.flow == 0)).forgetKey
    return l.pushAt .key l.cursor.next

/-- A colon in front of a value. If a key may have started on this level, it
did. -/
def mappingValue (l : Lexer) : Except Fault Lexer :=
  match l.keys.find? (·.level == l.flow) with
  | some k =>
    let l :=
      { l.insert k.place .key with
        keys := l.keys.filter (·.level != l.flow) }
    let l :=
      if l.flow == 0 then l.openBlock k.column k.place .blockMappingStart else l
    .ok ((l.allow false).pushAt .value l.cursor.next)
  | none =>
    if l.flow == 0 && !l.allowKey then malformed
    else do
      let l :=
        if l.flow == 0 then
          l.openBlock l.cursor.column l.count .blockMappingStart
        else l
      let l ← (l.allow (l.flow == 0)).forgetKey
      return l.pushAt .value l.cursor.next

/-- A piece that may start a key and after which none may start. -/
def piece {α : Type} (scan : Cursor → Except Fault (α × Cursor)) (token : α → Token)
    (l : Lexer) : Except Fault Lexer := do
  let l ← l.rememberKey
  let (a, c) ← scan l.cursor
  return (l.allow false).pushAt (token a) c

/-- A plain scalar. If it ends at a line break, a key may start after it. -/
def plain (l : Lexer) : Except Fault Lexer := do
  let l ← l.rememberKey
  let (s, broken, c) := scanPlain (l.flow != 0) (l.indent + 1) l.cursor
  return (l.allow broken).pushAt (.scalar s true) c

/-- A block scalar, after which a key may start. -/
def block (folded : Bool) (l : Lexer) : Except Fault Lexer := do
  let l ← (l.allow true).forgetKey
  let (s, c) ← scanBlock folded l.indent l.cursor
  return l.pushAt (.scalar s false) c

/-- Whether a plain scalar may start with a character, given the one after
it. -/
def startsPlain (inFlow : Bool) (c : Char) (next : Option Char) : Bool :=
  if isGap c then false
  else if "-?:,[]\x7b\x7d#&*!|>'\"%@\x60".toList.contains c then
    !gapFollows next && (c = '-' || (!inFlow && (c = '?' || c = ':')))
  else true

/-- The next token. The flag tells whether it ends the text. -/
def step (l : Lexer) : Except Fault (Lexer × Bool) := do
  let l ← (skipToToken (l.cursor.left + 1) l).dropStale
  let l := unwind l.cursor.column l
  let inFlow := l.flow != 0
  let gap := gapFollows (l.cursor.peekAt 1)
  let more (r : Except Fault Lexer) : Except Fault (Lexer × Bool) :=
    r.map fun l => (l, false)
  match l.cursor.peek with
  | none => return (← l.finish, true)
  | some c =>
    let atStart := l.cursor.column = 0
    if c = '%' && atStart then do
      let l ← l.outsideBlocks
      let (d, cursor) ← scanDirective l.cursor
      return (l.pushAt (.directive d) cursor, false)
    else if atStart && l.cursor.atMarker then do
      let l ← l.outsideBlocks
      let t := if c = '-' then Token.documentStart else .documentEnd
      return (l.pushAt t (l.cursor.advance 3), false)
    else if c = '[' then more (l.openFlow .flowSequenceStart)
    else if c = '\x7b' then more (l.openFlow .flowMappingStart)
    else if c = ']' then more (l.closeFlow .flowSequenceEnd)
    else if c = '\x7d' then more (l.closeFlow .flowMappingEnd)
    else if c = ',' then more l.flowEntry
    else if c = '-' && gap then more l.blockEntry
    else if c = '?' && (inFlow || gap) then more l.explicitKey
    else if c = ':' && (inFlow || gap) then more l.mappingValue
    else if c = '*' then more (l.piece scanAnchor .alias)
    else if c = '&' then more (l.piece scanAnchor .anchor)
    else if c = '!' then more (l.piece scanTag fun t => .tag t.1 t.2)
    else if c = '|' && !inFlow then more (l.block false)
    else if c = '>' && !inFlow then more (l.block true)
    else if c = '\'' then more (l.piece (scanQuoted false) (.scalar · false))
    else if c = '"' then more (l.piece (scanQuoted true) (.scalar · false))
    else if startsPlain inFlow c (l.cursor.peekAt 1) then more l.plain
    else malformed

/-- All tokens, the latest first. A fault comes after the tokens that were
settled. -/
def run : Nat → Lexer → List Token
  | 0, l => l.tokens
  | fuel + 1, l =>
    match l.step with
    | .error f => .broken f :: l.tokens.drop (l.count - l.settled)
    | .ok (l, true) => l.tokens
    | .ok (l, false) => run fuel l

end Lexer

/-- The tokens of a text, which end in the end of the stream or in a fault. A
byte order mark at the very start is passed over. -/
def Token.scan (s : List Char) : List Token :=
  let l := Lexer.start s
  let l := if l.cursor.at? byteOrderMark then { l with cursor := l.cursor.next } else l
  (l.run (s.length + 2)).reverse

end ClientGen.Yaml
