import ClientGen.Yaml.Character

/-!
# A place in a YAML text

The characters still to be read, with their count and the line and column
reached. Indentation rules look at the column; the rule that a key stays on one
line and is not too long looks at the line and the count.
-/

namespace ClientGen.Yaml

/-- A place in a text. -/
structure Cursor where
  rest : List Char
  /-- How many characters are still to be read. -/
  left : Nat
  line : Nat
  column : Nat
  deriving Repr

namespace Cursor

/-- The start of a text. -/
def start (s : List Char) : Cursor := ⟨s, s.length, 0, 0⟩

/-- The next character. -/
def peek (c : Cursor) : Option Char := c.rest.head?

/-- The character `k` places on. -/
def peekAt (c : Cursor) (k : Nat) : Option Char := c.rest[k]?

/-- Whether the next character is the given one. -/
def at? (c : Cursor) (ch : Char) : Bool := c.rest.head? == some ch

/-- The place after the next character. -/
def next (c : Cursor) : Cursor :=
  match c.rest with
  | [] => c
  | ch :: rest =>
    if isBreak ch && !(ch = '\r' && rest.head? == some '\n') then
      ⟨rest, c.left - 1, c.line + 1, 0⟩
    else if ch = byteOrderMark then ⟨rest, c.left - 1, c.line, c.column⟩
    else ⟨rest, c.left - 1, c.line, c.column + 1⟩

/-- The place after the next `n` characters. -/
def advance : Nat → Cursor → Cursor
  | 0, c => c
  | n + 1, c => advance n c.next

/-- The characters of a class that come next, and the place after them. -/
def run (c : Cursor) (p : Char → Bool) : List Char × Cursor :=
  let cs := c.rest.takeWhile p
  (cs, c.advance cs.length)

/-- The place after the characters of a class that come next. -/
def skip (c : Cursor) (p : Char → Bool) : Cursor := (c.run p).2

/-- The place after a line break, and what the break is read as: a line feed,
or one of the two separators. -/
def lineBreak? (c : Cursor) : Option (Char × Cursor) :=
  match c.rest with
  | '\r' :: '\n' :: _ => some ('\n', c.advance 2)
  | ch :: _ =>
    if ch = lineSeparator || ch = paragraphSeparator then some (ch, c.next)
    else if isBreak ch then some ('\n', c.next)
    else none
  | [] => none

/-- Whether a document marker, three dashes or three dots with a gap after
them, comes next. -/
def atMarker (c : Cursor) : Bool :=
  match c.rest with
  | a :: b :: d :: rest =>
    a = b && b = d && (a = '-' || a = '.') && gapFollows rest.head?
  | _ => false

end Cursor

end ClientGen.Yaml
