import ClientGen.Value.Basic

/-!
# Reading JSON

A reader for JSON documents that keeps the order of members. Of members with
equal names the first gives the place and the last the value. Besides the
standard grammar it knows the numbers `NaN`, `Infinity` and `-Infinity`, and it
tells integers from numbers with a fraction or an exponent.

Each function takes the characters still to be read and returns what it read
with the rest. A complaint notes how many characters were left where it arose;
`Error` turns that count into a line and a column.
-/

namespace ClientGen.Json

open ClientGen.Decimal

/-- What can be wrong with a text. -/
inductive Cause where
  | expectingValue
  | expectingName
  | expectingColon
  | expectingComma
  | unterminatedString
  | controlCharacter
  | badUnicodeEscape
  | badEscape
  | extraData
  | byteOrderMark
  /-- An integer of more digits than are converted. -/
  | integerTooLong
  deriving DecidableEq, Repr

namespace Cause

/-- The wording of a complaint. -/
def message : Cause → String
  | .expectingValue => "Expecting value"
  | .expectingName => "Expecting property name enclosed in double quotes"
  | .expectingColon => "Expecting ':' delimiter"
  | .expectingComma => "Expecting ',' delimiter"
  | .unterminatedString => "Unterminated string starting at"
  | .controlCharacter => "Invalid control character at"
  | .badUnicodeEscape => "Invalid \\uXXXX escape"
  | .badEscape => "Invalid \\escape"
  | .extraData => "Extra data"
  | .byteOrderMark => "Unexpected UTF-8 BOM (decode using utf-8-sig)"
  | .integerTooLong => "Exceeds the limit for integer string conversion"

end Cause

/-- A complaint, with the count of characters left where it arose. -/
structure Complaint where
  cause : Cause
  left : Nat
  deriving DecidableEq, Repr

/-- What a reading step returns: a result and the characters after it. -/
abbrev Reading (α : Type) := Except Complaint (α × List Char)

/-- The complaint that arises in front of the given characters. -/
def complain {α : Type} (cause : Cause) (rest : List Char) :
    Except Complaint α :=
  .error ⟨cause, rest.length⟩

/-- Whether a character is white space between tokens. -/
def isSpace (c : Char) : Bool := c = ' ' || c = '\t' || c = '\n' || c = '\r'

/-- The characters after white space. -/
def skipSpace (s : List Char) : List Char := s.dropWhile isSpace

/-! ### Strings -/

/-- The value of a hexadecimal digit. -/
def hexValue? (c : Char) : Option Nat :=
  if '0' ≤ c && c ≤ '9' then some (c.toNat - 48)
  else if 'a' ≤ c && c ≤ 'f' then some (c.toNat - 87)
  else if 'A' ≤ c && c ≤ 'F' then some (c.toNat - 55)
  else none

/-- The code unit of four hexadecimal digits. -/
def codeUnit? (a b c d : Char) : Option Nat := do
  let a ← hexValue? a
  let b ← hexValue? b
  let c ← hexValue? c
  let d ← hexValue? d
  return ((a * 16 + b) * 16 + c) * 16 + d

/-- Whether a code unit is the first half of a pair. -/
def isHighHalf (n : Nat) : Bool := 0xD800 ≤ n && n ≤ 0xDBFF

/-- Whether a code unit is the second half of a pair. -/
def isLowHalf (n : Nat) : Bool := 0xDC00 ≤ n && n ≤ 0xDFFF

/-- The character of two halves. -/
def joinHalves (high low : Nat) : Char :=
  Char.ofNat (0x10000 + (high - 0xD800) * 0x400 + (low - 0xDC00))

/-- The character of one code unit. A half that stands alone is no character;
the replacement character takes its place, and `hasHalf` tells that it does. -/
def unitChar (n : Nat) : Char :=
  if isHighHalf n || isLowHalf n then Char.ofNat 0xFFFD else Char.ofNat n

/-- The code unit of the escape that some characters start with. -/
def escapedUnit? : List Char → Option Nat
  | '\\' :: 'u' :: a :: b :: c :: d :: _ => codeUnit? a b c d
  | _ => none

/-- How far an escape reaches behind its backslash, unless it is half of a pair
without the other half. -/
def escapeLength? (s : List Char) : Option Nat :=
  match escapedUnit? s with
  | none => some 1
  | some n =>
    if isHighHalf n then
      if (escapedUnit? (s.drop 6)).any isLowHalf then some 11 else none
    else if isLowHalf n then none
    else some 5

/-- Whether a text in JSON escapes half of a pair without the other half. The
first `skip` characters belong to an escape that is whole. -/
def hasHalf : Nat → List Char → Bool
  | _, [] => false
  | skip + 1, _ :: rest => hasHalf skip rest
  | 0, c :: rest =>
    if c = '\\' then
      match escapeLength? (c :: rest) with
      | some n => hasHalf n rest
      | none => true
    else hasHalf 0 rest

/-- The character that a one-letter escape stands for. -/
def escapeChar? (c : Char) : Option Char :=
  if c = '"' || c = '\\' || c = '/' then some c
  else if c = 'b' then some (Char.ofNat 8)
  else if c = 'f' then some (Char.ofNat 12)
  else if c = 'n' then some '\n'
  else if c = 'r' then some '\r'
  else if c = 't' then some '\t'
  else none

/-- One more character in front of what a reading step read. -/
def consChar (c : Char) (r : Reading (List Char)) : Reading (List Char) :=
  r.map fun (cs, rest) => (c :: cs, rest)

/-- The characters of a string after its opening quote. `opening` has the
characters from that quote on. -/
def stringBody (opening : List Char) : List Char → Reading (List Char)
  | [] => complain .unterminatedString opening
  | '"' :: rest => .ok ([], rest)
  | '\\' :: [] => complain .unterminatedString opening
  | '\\' :: 'u' :: a :: b :: c :: d :: '\\' :: 'u' :: e :: f :: g :: h ::
      rest =>
    match codeUnit? a b c d with
    | none =>
      complain .badUnicodeEscape
        ('u' :: a :: b :: c :: d :: '\\' :: 'u' :: e :: f :: g :: h :: rest)
    | some high =>
      if isHighHalf high && !rest.isEmpty then
        match codeUnit? e f g h with
        | none => complain .badUnicodeEscape ('u' :: e :: f :: g :: h :: rest)
        | some low =>
          if isLowHalf low then
            consChar (joinHalves high low) (stringBody opening rest)
          else
            consChar (unitChar high)
              (consChar (unitChar low) (stringBody opening rest))
      else
        consChar (unitChar high)
          (stringBody opening ('\\' :: 'u' :: e :: f :: g :: h :: rest))
  | '\\' :: 'u' :: a :: b :: c :: d :: rest =>
    match codeUnit? a b c d with
    | none => complain .badUnicodeEscape ('u' :: a :: b :: c :: d :: rest)
    | some n =>
      if rest.isEmpty then
        complain .badUnicodeEscape ('u' :: a :: b :: c :: d :: rest)
      else consChar (unitChar n) (stringBody opening rest)
  | '\\' :: 'u' :: rest => complain .badUnicodeEscape ('u' :: rest)
  | '\\' :: c :: rest =>
    match escapeChar? c with
    | some e => consChar e (stringBody opening rest)
    | none => complain .badEscape ('\\' :: c :: rest)
  | c :: rest =>
    if c.toNat < 0x20 then complain .controlCharacter (c :: rest)
    else consChar c (stringBody opening rest)
termination_by s => s.length

/-! ### Numbers -/

/-- The number of a row of decimal digits. -/
def digitsValue (ds : List Char) : Nat :=
  ds.foldl (fun n d => n * 10 + (d.toNat - 48)) 0

/-- The digits of a whole number: a zero, or digits that start with none. -/
def wholeDigits? : List Char → Option (List Char × List Char)
  | '0' :: rest => some (['0'], rest)
  | c :: rest =>
    if c.isDigit then
      some (c :: rest.takeWhile Char.isDigit, rest.dropWhile Char.isDigit)
    else none
  | [] => none

/-- The digits after a point, if the point is followed by one. -/
def fractionDigits : List Char → List Char × List Char
  | '.' :: c :: rest =>
    if c.isDigit then
      (c :: rest.takeWhile Char.isDigit, rest.dropWhile Char.isDigit)
    else ([], '.' :: c :: rest)
  | s => ([], s)

/-- The exponent, if an `e` and perhaps a sign are followed by digits. -/
def exponent? (s : List Char) : Option (Int × List Char) :=
  match s with
  | e :: rest =>
    if e = 'e' || e = 'E' then
      let (negative, rest) := match rest with
        | '-' :: r => (true, r)
        | '+' :: r => (false, r)
        | r => (false, r)
      match rest.takeWhile Char.isDigit with
      | [] => none
      | ds =>
        let n : Int := digitsValue ds
        some (if negative then -n else n, rest.dropWhile Char.isDigit)
    else none
  | [] => none

/-- The greatest number of digits of an integer that is converted. -/
def maxIntegerDigits : Nat := 4300

/-- A number at the start of the characters. -/
def number (s : List Char) : Reading Value :=
  let (negative, t) := match s with
    | '-' :: r => (true, r)
    | r => (false, r)
  match wholeDigits? t with
  | none => complain .expectingValue s
  | some (whole, afterWhole) =>
    let (fraction, afterFraction) := fractionDigits afterWhole
    match exponent? afterFraction with
    | some (e, rest) =>
      .ok (.float (Binary64.ofDecimal negative (digitsValue (whole ++ fraction))
        (e - fraction.length)), rest)
    | none =>
      if fraction.isEmpty then
        if maxIntegerDigits < whole.length then complain .integerTooLong s
        else
          let n : Int := digitsValue whole
          .ok (.int (if negative then -n else n), afterFraction)
      else
        .ok (.float (Binary64.ofDecimal negative
          (digitsValue (whole ++ fraction)) (-fraction.length)), afterFraction)

/-! ### Values -/

/-- What follows a keyword, if the characters start with it. -/
def after? : List Char → List Char → Option (List Char)
  | [], s => some s
  | k :: ks, c :: s => if k = c then after? ks s else none
  | _ :: _, [] => none

/-- The keywords, each with the value that it stands for. -/
def keywords : List (String × Value) :=
  [("null", .null), ("true", .bool true), ("false", .bool false),
    ("NaN", .float .nan), ("Infinity", .float (.infinity false)),
    ("-Infinity", .float (.infinity true))]

/-- The keyword at the start of the characters. -/
def keyword? (s : List Char) : Option (Value × List Char) :=
  keywords.findSome? fun (word, v) =>
    (after? word.toList s).map fun rest => (v, rest)

mutual

/-- A value at the start of the characters. The fuel bounds the nesting. -/
def value : Nat → List Char → Except Complaint (Value × List Char)
  | 0, s => complain .expectingValue s
  | fuel + 1, s =>
    match s with
    | [] => complain .expectingValue []
    | '"' :: rest =>
      (stringBody s rest).map fun (cs, r) =>
        (.str (String.ofList cs), r)
    | '\x7b' :: rest =>
      match skipSpace rest with
      | '\x7d' :: r => .ok (.map [], r)
      | r =>
        (members fuel r).map fun (es, r) => (.map (Fields.ofPairs es), r)
    | '[' :: rest =>
      match skipSpace rest with
      | ']' :: r => .ok (.list [], r)
      | r => (items fuel r).map fun (vs, r) => (.list vs, r)
    | _ =>
      match keyword? s with
      | some r => .ok r
      | none => number s

/-- The items of a list, up to its closing bracket. -/
def items : Nat → List Char → Except Complaint (List Value × List Char)
  | 0, s => complain .expectingValue s
  | fuel + 1, s => do
    let (v, r) ← value fuel s
    match skipSpace r with
    | ']' :: r => return ([v], r)
    | ',' :: r =>
      let (vs, r) ← items fuel (skipSpace r)
      return (v :: vs, r)
    | r => complain .expectingComma r

/-- The members of an object, up to its closing brace. -/
def members :
    Nat → List Char → Except Complaint (List (Value × Value) × List Char)
  | 0, s => complain .expectingValue s
  | fuel + 1, s =>
    match s with
    | '"' :: rest => do
      let (name, r) ← stringBody s rest
      match skipSpace r with
      | ':' :: r =>
        let (v, r) ← value fuel (skipSpace r)
        match skipSpace r with
        | '\x7d' :: r => return ([(.str (String.ofList name), v)], r)
        | ',' :: r =>
          let (es, r) ← members fuel (skipSpace r)
          return ((.str (String.ofList name), v) :: es, r)
        | r => complain .expectingComma r
      | r => complain .expectingColon r
    | _ => complain .expectingName s

end

/-- The value of a whole text. -/
def document (s : List Char) : Except Complaint Value :=
  if s.head? = some (Char.ofNat 0xFEFF) then complain .byteOrderMark s
  else do
    let (v, r) ← value (2 * s.length + 2) (skipSpace s)
    match skipSpace r with
    | [] => return v
    | r => complain .extraData r

/-! ### Errors with a position -/

/-- What is wrong with a text and where, lines and columns counted from 1. -/
structure Error where
  cause : Cause
  line : Nat
  column : Nat
  position : Nat
  deriving DecidableEq, Repr

namespace Error

/-- The place of a complaint in its text. -/
def locate (s : List Char) (c : Complaint) : Error :=
  let before := s.take (s.length - c.left)
  let column := (before.reverse.takeWhile (· != '\n')).length + 1
  ⟨c.cause, before.count '\n' + 1, column, before.length⟩

/-- The message of an error: what is wrong, and the place. -/
def message (e : Error) : String :=
  e.cause.message ++ ": line " ++ toString e.line ++ " column " ++
    toString e.column ++ " (char " ++ toString e.position ++ ")"

end Error

/-- The value that a text holds. -/
def read (s : String) : Except Error Value :=
  match document s.toList with
  | .ok v => .ok v
  | .error c => .error (Error.locate s.toList c)

end ClientGen.Json
