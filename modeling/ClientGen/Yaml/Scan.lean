import ClientGen.Json.Reader
import ClientGen.Yaml.Cursor
import ClientGen.Yaml.Token

/-!
# The inside of YAML tokens

How far a token reaches once its first character has told its kind, and what
its text is: directives, anchors, tags, and scalars in the three styles. Each
function starts at the first character of the token and returns the place
after it.
-/

namespace ClientGen.Yaml

/-- The text does not follow the grammar. -/
def malformed {α : Type} : Except Fault α := .error .malformed

/-! ### Names, tags and directives -/

/-- A non-empty name of an anchor or a directive. -/
def scanName (c : Cursor) : Except Fault (String × Cursor) :=
  match c.run isNameChar with
  | ([], _) => malformed
  | (cs, c) => .ok (String.ofList cs, c)

/-- The name after the indicator of an anchor or an alias. -/
def scanAnchor (c : Cursor) : Except Fault (String × Cursor) := do
  let (name, c) ← scanName c.next
  let ends := c.peek.all fun ch => isGap ch || "?:,]\x7d%@\x60".toList.contains ch
  if ends then return (name, c) else malformed

/-- A row of percent-escaped bytes. -/
def scanTagBytes : Nat → Cursor → Except Fault (List UInt8 × Cursor)
  | 0, c => .ok ([], c)
  | fuel + 1, c =>
    match c.rest with
    | '%' :: a :: b :: _ =>
      match Json.hexValue? a, Json.hexValue? b with
      | some a, some b => do
        let (bytes, c) ← scanTagBytes fuel (c.advance 3)
        return (UInt8.ofNat (a * 16 + b) :: bytes, c)
      | _, _ => malformed
    | '%' :: _ => malformed
    | _ => .ok ([], c)

/-- The characters of a tag, percent escapes decoded. The flag tells whether
there was anything. -/
def scanTagPieces : Nat → Cursor → Except Fault (List Char × Bool × Cursor)
  | 0, c => .ok ([], false, c)
  | fuel + 1, c =>
    match c.peek with
    | some '%' => do
      let (bytes, c) ← scanTagBytes c.left c
      match String.fromUTF8? bytes.toByteArray with
      | none => malformed
      | some s =>
        let (cs, _, c) ← scanTagPieces fuel c
        return (s.toList ++ cs, true, c)
    | some ch =>
      if isTagChar ch then do
        let (cs, _, c) ← scanTagPieces fuel c.next
        return (ch :: cs, true, c)
      else .ok ([], false, c)
    | none => .ok ([], false, c)

/-- A non-empty tag text. -/
def scanTagText (c : Cursor) : Except Fault (String × Cursor) := do
  let (cs, any, c) ← scanTagPieces (c.left + 1) c
  if any then return (String.ofList cs, c) else malformed

/-- A tag handle: an exclamation mark, or a name between two of them. -/
def scanTagHandle (c : Cursor) : Except Fault (String × Cursor) :=
  if c.at? '!' then
    if c.peekAt 1 == some ' ' then .ok ("!", c.next)
    else
      let (cs, after) := c.next.run isNameChar
      if after.at? '!' then
        .ok (String.ofList ('!' :: (cs ++ ['!'])), after.next)
      else malformed
  else malformed

/-- Whether another exclamation mark comes before the next blank. -/
def hasHandle (s : List Char) : Bool :=
  (s.takeWhile fun c => !(c = ' ' || isBreak c)).contains '!'

/-- A tag: its handle, if it has one, and the rest. -/
def scanTag (c : Cursor) : Except Fault ((Option String × String) × Cursor) := do
  let (tag, c) ← (
    if c.peekAt 1 == some '<' then do
      let (text, c) ← scanTagText (c.advance 2)
      if c.at? '>' then return ((none, text), c.next) else malformed
    else if gapFollows (c.peekAt 1) then return ((none, "!"), c.next)
    else if hasHandle (c.rest.drop 1) then do
      let (handle, c) ← scanTagHandle c
      let (text, c) ← scanTagText c
      return ((some handle, text), c)
    else do
      let (text, c) ← scanTagText c.next
      return ((some "!", text), c)
    : Except Fault ((Option String × String) × Cursor))
  if blankFollows c.peek then return (tag, c) else malformed

/-- The place after blanks. -/
def skipBlanks (c : Cursor) : Cursor := c.skip (· = ' ')

/-- The place after blanks, a comment and the end of the line; nothing else
may be left on it. -/
def scanLineEnd (c : Cursor) : Except Fault Cursor :=
  let c := skipBlanks c
  let c := if c.at? '#' then c.skip (!isBreak ·) else c
  if breakFollows c.peek then
    .ok (match c.lineBreak? with
      | some (_, c) => c
      | none => c)
  else malformed

/-- A row of decimal digits, which must not be too many. -/
def scanNumber (c : Cursor) : Except Fault (Nat × Cursor) :=
  match c.run Char.isDigit with
  | ([], _) => malformed
  | (ds, c) =>
    if Json.maxIntegerDigits < ds.length then .error .numberTooLong
    else .ok (Json.digitsValue ds, c)

/-- A directive and the rest of its line. -/
def scanDirective (c : Cursor) : Except Fault (Directive × Cursor) := do
  let (name, c) ← scanName c.next
  if !blankFollows c.peek then malformed
  else do
    let (d, c) ← (
      if name = "YAML" then do
        let (major, c) ← scanNumber (skipBlanks c)
        if !c.at? '.' then malformed
        else do
          let (minor, c) ← scanNumber c.next
          if blankFollows c.peek then return (.version major minor, c)
          else malformed
      else if name = "TAG" then do
        let (handle, c) ← scanTagHandle (skipBlanks c)
        if !c.at? ' ' then malformed
        else do
          let (stem, c) ← scanTagText (skipBlanks c)
          if blankFollows c.peek then return (.tagHandle handle stem, c)
          else malformed
      else return (.other, c.skip (!isBreak ·))
      : Except Fault (Directive × Cursor))
    let c ← scanLineEnd c
    return (d, c)

/-! ### Plain scalars -/

/-- The characters of a plain scalar up to a gap or an indicator that ends
it. -/
def plainChunk (inFlow : Bool) : List Char → List Char
  | [] => []
  | c :: rest =>
    let endsAtColon :=
      c = ':' && (gapFollows rest.head? ||
        (inFlow && rest.head?.any (",[]\x7b\x7d".toList.contains ·)))
    let endsInFlow := inFlow && ",?[]\x7b\x7d".toList.contains c
    if isGap c || endsAtColon || endsInFlow then []
    else c :: plainChunk inFlow rest

/-- The line breaks among blanks, up to a document marker after a break. The
flag tells whether a marker was met. -/
def plainBreaks : Nat → Cursor → List Char × Bool × Cursor
  | 0, c => ([], false, c)
  | fuel + 1, c =>
    if c.at? ' ' then plainBreaks fuel c.next
    else
      match c.lineBreak? with
      | none => ([], false, c)
      | some (b, c) =>
        if c.atMarker then ([], true, c)
        else
          let (bs, marker, c) := plainBreaks fuel c
          (b :: bs, marker, c)

/-- Lines joined at a break: one line feed becomes a blank, of several the
first is dropped, and separators stay. -/
def foldBreaks (first : Char) (more : List Char) : List Char :=
  if first != '\n' then first :: more
  else if more.isEmpty then [' '] else more

/-- What lies between two chunks of a plain scalar, nothing if the scalar ends
here, and whether a line was broken. -/
def plainSpaces (c : Cursor) : List Char × Bool × Cursor :=
  let (blanks, c) := c.run (· = ' ')
  match c.lineBreak? with
  | none => (blanks, false, c)
  | some (b, c) =>
    if c.atMarker then ([], true, c)
    else
      let (bs, marker, c) := plainBreaks (c.left + 1) c
      if marker then ([], true, c) else (foldBreaks b bs, true, c)

/-- The chunks of a plain scalar, with what lies between them. The flag tells
whether a line was broken after the last chunk. -/
def plainFrom (inFlow : Bool) (indent : Int) :
    Nat → List Char → Bool → Cursor → List Char × Bool × Cursor
  | 0, _, broken, c => ([], broken, c)
  | fuel + 1, between, broken, c =>
    let chunk := if c.at? '#' then [] else plainChunk inFlow c.rest
    if chunk.isEmpty then ([], broken, c)
    else
      let (spaces, broken, after) := plainSpaces (c.advance chunk.length)
      if spaces.isEmpty || after.at? '#' ||
          (!inFlow && (after.column : Int) < indent) then
        (between ++ chunk, broken, after)
      else
        let (more, broken, after) := plainFrom inFlow indent fuel spaces broken after
        (between ++ chunk ++ more, broken, after)

/-- A plain scalar whose further lines are indented by at least `indent`. -/
def scanPlain (inFlow : Bool) (indent : Int) (c : Cursor) :
    String × Bool × Cursor :=
  let (cs, broken, c) := plainFrom inFlow indent (c.left + 1) [] false c
  (String.ofList cs, broken, c)

/-! ### Quoted scalars -/

/-- What a one-letter escape in double quotes stands for. -/
def quotedEscape? (c : Char) : Option Char :=
  match c with
  | '0' => some (Char.ofNat 0)
  | 'a' => some (Char.ofNat 7)
  | 'b' => some (Char.ofNat 8)
  | 't' | '\t' => some '\t'
  | 'n' => some '\n'
  | 'v' => some (Char.ofNat 11)
  | 'f' => some (Char.ofNat 12)
  | 'r' => some '\r'
  | 'e' => some (Char.ofNat 27)
  | ' ' => some ' '
  | '"' => some '"'
  | '\\' => some '\\'
  | '/' => some '/'
  | 'N' => some nextLine
  | '_' => some (Char.ofNat 0xA0)
  | 'L' => some lineSeparator
  | 'P' => some paragraphSeparator
  | _ => none

/-- How many hexadecimal digits follow an escape letter. -/
def escapeWidth? (c : Char) : Option Nat :=
  match c with
  | 'x' => some 2
  | 'u' => some 4
  | 'U' => some 8
  | _ => none

/-- The number of hexadecimal digits, all of them digits. -/
def hexNumber? (ds : List Char) : Option Nat :=
  ds.foldlM (fun n d => (Json.hexValue? d).map (n * 16 + ·)) 0

/-- The line breaks of a quoted scalar among blanks and tabs; a document marker
may not come after any. -/
def quotedBreaks : Nat → Cursor → Except Fault (List Char × Cursor)
  | 0, _ => malformed
  | fuel + 1, c =>
    if c.atMarker then malformed
    else
      let c := c.skip fun ch => ch = ' ' || ch = '\t'
      match c.lineBreak? with
      | none => .ok ([], c)
      | some (b, c) => do
        let (bs, c) ← quotedBreaks fuel c
        return (b :: bs, c)

/-- The characters of a quoted scalar up to a gap or its closing quote. -/
def quotedRun (double : Bool) : Nat → Cursor → Except Fault (List Char × Cursor)
  | 0, c => .ok ([], c)
  | fuel + 1, c =>
    match c.rest with
    | [] => .ok ([], c)
    | '\'' :: '\'' :: _ =>
      if double then more fuel '\'' c.next else more fuel '\'' (c.advance 2)
    | '\'' :: _ => if double then more fuel '\'' c.next else .ok ([], c)
    | '"' :: _ => if double then .ok ([], c) else more fuel '"' c.next
    | '\\' :: rest =>
      if !double then more fuel '\\' c.next
      else
        match rest with
        | [] => malformed
        | e :: digits =>
          match quotedEscape? e, escapeWidth? e with
          | some ch, _ => more fuel ch (c.advance 2)
          | none, some width =>
            let ds := digits.take width
            match hexNumber? ds with
            | none => malformed
            | some n =>
              if ds.length < width then malformed
              else if 0x7FFFFFFF < n then .error .codePointOverflow
              else if 0x10FFFF < n then .error .codePointTooLarge
              else if Json.isHighHalf n || Json.isLowHalf n then
                .error .halfPair
              else more fuel (Char.ofNat n) (c.advance (2 + width))
          | none, none =>
            match c.next.lineBreak? with
            | none => malformed
            | some (_, after) => do
              let (bs, after) ← quotedBreaks (after.left + 1) after
              let (cs, after) ← quotedRun double fuel after
              return (bs ++ cs, after)
    | ch :: _ => if isGap ch then .ok ([], c) else more fuel ch c.next
where
  /-- A character in front of the rest of the run. -/
  more (fuel : Nat) (ch : Char) (c : Cursor) :
      Except Fault (List Char × Cursor) := do
    let (cs, c) ← quotedRun double fuel c
    return (ch :: cs, c)

/-- The gap between two runs of a quoted scalar. -/
def quotedSpaces (c : Cursor) : Except Fault (List Char × Cursor) :=
  let (blanks, c) := c.run fun ch => ch = ' ' || ch = '\t'
  match c.peek with
  | none => malformed
  | some _ =>
    match c.lineBreak? with
    | none => .ok (blanks, c)
    | some (b, c) => do
      let (bs, c) ← quotedBreaks (c.left + 1) c
      return (foldBreaks b bs, c)

/-- The runs of a quoted scalar and the gaps between them, up to the closing
quote. -/
def quotedFrom (double : Bool) : Nat → Cursor → Except Fault (List Char × Cursor)
  | 0, _ => malformed
  | fuel + 1, c => do
    let (cs, c) ← quotedRun double (c.left + 1) c
    if c.at? (if double then '"' else '\'') then return (cs, c.next)
    else do
      let (gap, c) ← quotedSpaces c
      let (more, c) ← quotedFrom double fuel c
      return (cs ++ gap ++ more, c)

/-- A quoted scalar. -/
def scanQuoted (double : Bool) (c : Cursor) : Except Fault (String × Cursor) := do
  let (cs, c) ← quotedFrom double (c.left + 1) c.next
  return (String.ofList cs, c)

/-! ### Block scalars -/

/-- What happens to the line breaks at the end of a block scalar. -/
inductive Chomping where
  | strip
  | clip
  | keep
  deriving DecidableEq, Repr

/-- The chomping indicator, if the next character is one. -/
def chomping? (c : Cursor) : Option Chomping :=
  match c.peek with
  | some '+' => some .keep
  | some '-' => some .strip
  | _ => none

/-- The indentation indicator, if the next character is one; zero is not
allowed. -/
def increment? (c : Cursor) : Except Fault (Option Nat) :=
  match c.peek with
  | some ch =>
    if ch = '0' then malformed
    else if ch.isDigit then .ok (some (ch.toNat - 48))
    else .ok none
  | none => .ok none

/-- The indicators of a block scalar, in either order. -/
def scanIndicators (c : Cursor) : Except Fault ((Chomping × Option Nat) × Cursor) := do
  let (result, c) ← (
    match chomping? c with
    | some ch => do
      let n ← increment? c.next
      return ((ch, n), if n.isSome then c.advance 2 else c.next)
    | none => do
      match ← increment? c with
      | none => return ((.clip, none), c)
      | some n =>
        match chomping? c.next with
        | some ch => return ((ch, some n), c.advance 2)
        | none => return ((.clip, some n), c.next)
    : Except Fault ((Chomping × Option Nat) × Cursor))
  if blankFollows c.peek then return (result, c) else malformed

/-- The breaks before the first line of a block scalar, and the greatest
column reached on the way. -/
def blockIndentation : Nat → Nat → Cursor → List Char × Nat × Cursor
  | 0, widest, c => ([], widest, c)
  | fuel + 1, widest, c =>
    if c.at? ' ' then blockIndentation fuel (max widest c.next.column) c.next
    else
      match c.lineBreak? with
      | none => ([], widest, c)
      | some (b, c) =>
        let (bs, widest, c) := blockIndentation fuel widest c
        (b :: bs, widest, c)

/-- The place after the blanks up to a column. -/
def skipIndent (indent : Nat) : Nat → Cursor → Cursor
  | 0, c => c
  | fuel + 1, c =>
    if c.column < indent && c.at? ' ' then skipIndent indent fuel c.next else c

/-- The breaks of empty lines, and the place at the indentation of the next
line. -/
def blockBreaks (indent : Nat) : Nat → Cursor → List Char × Cursor
  | 0, c => ([], c)
  | fuel + 1, c =>
    let c := skipIndent indent indent c
    match c.lineBreak? with
    | none => ([], c)
    | some (b, c) =>
      let (bs, c) := blockBreaks indent fuel c
      (b :: bs, c)

/-- Whether a line that starts here starts with a blank or a tab. -/
def startsBlank (c : Cursor) : Bool :=
  match c.peek with
  | some ch => ch = ' ' || ch = '\t'
  | none => false

/-- The lines of a block scalar. `breaks` are the empty lines before the next
one. Lines of a folded scalar are joined where neither starts with a blank. -/
def blockLines (folded : Bool) (chomp : Chomping) (indent : Nat) :
    Nat → List Char → Cursor → List Char × Cursor
  | 0, _, c => ([], c)
  | fuel + 1, breaks, c =>
    if c.column = indent && c.peek.isSome then
      let (line, after) := c.run (!isBreak ·)
      let (br, after) := match after.lineBreak? with
        | some (b, after) => ([b], after)
        | none => ([], after)
      let (breaks', next) := blockBreaks indent (after.left + 1) after
      let continues := next.column = indent && next.peek.isSome
      let glue :=
        if !continues then []
        else if folded && br = ['\n'] && !startsBlank c && !startsBlank next then
          (if breaks'.isEmpty then [' '] else [])
        else br
      let (more, final) :=
        if continues then
          blockLines folded chomp indent fuel breaks' next
        else (tail br breaks', next)
      (breaks ++ line ++ glue ++ more, final)
    else (tail [] breaks, c)
where
  /-- What is left of the breaks at the end. -/
  tail (last breaks : List Char) : List Char :=
    match chomp with
    | .strip => []
    | .clip => last
    | .keep => last ++ breaks

/-- A block scalar in a collection of the given indentation. -/
def scanBlock (folded : Bool) (indent : Int) (c : Cursor) :
    Except Fault (String × Cursor) := do
  let ((chomp, increment), c) ← scanIndicators c.next
  let c ← scanLineEnd c
  let least := max 1 (indent + 1).toNat
  let fuel := c.left + 1
  let (column, breaks, c) :=
    match increment with
    | none =>
      let (breaks, widest, c) := blockIndentation fuel 0 c
      (max least widest, breaks, c)
    | some n =>
      let column := least + n - 1
      let (breaks, c) := blockBreaks column fuel c
      (column, breaks, c)
  let (cs, c) := blockLines folded chomp column fuel breaks c
  return (String.ofList cs, c)

end ClientGen.Yaml
