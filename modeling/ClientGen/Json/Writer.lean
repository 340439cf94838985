import ClientGen.Text.Quoted
import ClientGen.Value.Text

/-!
# Writing JSON literals

The JSON form of a value, for use as a literal in generated code. It is pure
ASCII; the characters that could end a script or an attribute (`<`, `>`, `&`
and the single quote) are escaped as well. The members of an object are
ordered by name.

Not every value has such a form: dates, binary data and sets have none, and
neither has a mapping whose keys are not all names or all numbers.
-/

namespace ClientGen.Json

open ClientGen.Decimal

/-- The escape of one UTF-16 code unit. -/
def unitEscape (n : Nat) : List Char := '\\' :: 'u' :: Text.hexDigits 4 n

/-- One character of a string literal. -/
def literalChar (c : Char) : List Char :=
  if c = '"' then ['\\', '"']
  else if c = '\\' then ['\\', '\\']
  else if c = '\n' then ['\\', 'n']
  else if c = '\r' then ['\\', 'r']
  else if c = '\t' then ['\\', 't']
  else if c.toNat = 8 then ['\\', 'b']
  else if c.toNat = 12 then ['\\', 'f']
  else if c = '<' || c = '>' || c = '&' || c = '\'' then unitEscape c.toNat
  else if 0x20 ≤ c.toNat && c.toNat ≤ 0x7E then [c]
  else if c.toNat < 0x10000 then unitEscape c.toNat
  else
    let n := c.toNat - 0x10000
    unitEscape (0xD800 + n / 0x400) ++ unitEscape (0xDC00 + n % 0x400)

/-- The literal of a text, with its quotes. -/
def stringLiteral (s : List Char) : List Char :=
  '"' :: (s.flatMap literalChar ++ ['"'])

/-- Numbers are written as in texts, but for the names of the infinities. -/
def numberLayout : Layout :=
  { ClientGen.numberLayout with infinity := "Infinity", nan := "NaN" }

/-- The name of a member, if its key can be one: a text, a number, a boolean
or null. -/
def memberName? : Value → Option String
  | .null => some "null"
  | .bool b => some (if b then "true" else "false")
  | .int n => some (toString n)
  | .float x => some (numberLayout.text x)
  | .str s => some s
  | _ => none

/-- Whether a key comes strictly before another, if they are of one kind: texts
by their characters, numbers by their values. What is not a number comes before
none and after none. -/
def keyBefore? (a b : Value) : Option Bool :=
  match a, b with
  | .str s, .str t => some (s < t)
  | _, _ =>
    match rank? a, rank? b with
    | some (i, x), some (j, y) =>
      some (!a.isNaN && !b.isNaN && (i < j || (i == j && x < y)))
    | _, _ => none
where
  /-- The place of a number on the line, the infinities at its ends. -/
  rank? : Value → Option (Nat × Dyadic)
    | .float .nan => some (1, .zero)
    | .float (.infinity s) => some (if s then 0 else 2, .zero)
    | v => v.number?.map fun d => (1, d)

/-- Whether every key can be compared with every other. -/
def comparable : List (Value × List Char) → Bool
  | [] => true
  | (k, _) :: rest =>
    rest.all (fun e => (keyBefore? k e.1).isSome) && comparable rest

/-- Members in the order of their keys. -/
def sortMembers (es : List (Value × List Char)) : List (Value × List Char) :=
  es.mergeSort fun a b => !((keyBefore? b.1 a.1).getD false)

/-- The members of an object in order, each with its name in front. -/
def memberTexts? (es : List (Value × List Char)) : Option (List (List Char)) :=
  (sortMembers es).mapM fun (k, text) => do
    let name ← memberName? k
    return stringLiteral name.toList ++ ':' :: ' ' :: text

/-- Items joined by a comma and a space. -/
def joined (items : List (List Char)) : List Char :=
  [',', ' '].intercalate items

mutual

/-- The literal of a value, if it has one. -/
def literal? : Value → Option (List Char)
  | .null => some ['n', 'u', 'l', 'l']
  | .bool b => some (if b then ['t', 'r', 'u', 'e'] else ['f', 'a', 'l', 's', 'e'])
  | .int n => some (toString n).toList
  | .float x => some (numberLayout.text x).toList
  | .str s => some (stringLiteral s.toList)
  | .list items => do
    let texts ← literals? items
    return '[' :: (joined texts ++ [']'])
  | .pair k v => do
    let k ← literal? k
    let v ← literal? v
    return '[' :: (joined [k, v] ++ [']'])
  | .map entries => do
    let texts ← entryLiterals? entries
    if comparable texts then
      let members ← memberTexts? texts
      return '\x7b' :: (joined members ++ ['\x7d'])
    else none
  | .bytes _ | .date _ | .timestamp _ | .set _ => none

/-- The literals of all items. -/
def literals? : List Value → Option (List (List Char))
  | [] => some []
  | v :: rest => do
    let t ← literal? v
    let ts ← literals? rest
    return t :: ts

/-- The entries of a mapping with the literals of their values. -/
def entryLiterals? : List (Value × Value) → Option (List (Value × List Char))
  | [] => some []
  | (k, v) :: rest => do
    let t ← literal? v
    let ts ← entryLiterals? rest
    return (k, t) :: ts

end

end ClientGen.Json
