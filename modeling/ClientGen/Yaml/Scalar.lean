import ClientGen.Text.Blank
import ClientGen.Text.Digit
import ClientGen.Json.Reader
import ClientGen.Yaml.Token
import ClientGen.Yaml.Character

/-!
# What YAML scalars stand for

A plain scalar gets its tag from its form: `yes` is a truth value, `010` an
octal number, `190:20:30` a number to the base 60, `2020-01-02` a date, and
whatever has no such form is a text. This module has the forms, and the values
that scalars have under each tag.
-/

namespace ClientGen.Yaml

open ClientGen.Decimal

/-- The kinds of nodes that have a value, and the two marks of keys. -/
inductive Tag where
  | null
  | bool
  | int
  | float
  | binary
  | timestamp
  | omap
  | pairs
  | set
  | str
  | seq
  | map
  /-- The key `<<`, whose value is merged into the mapping. -/
  | merge
  /-- The key `=`, whose value stands for the mapping where a scalar is due. -/
  | value
  | unknown
  deriving DecidableEq, Repr, Inhabited

namespace Tag

/-- What the names of the known tags start with. -/
def stem : String := "tag:yaml.org,2002:"

/-- The known tags by their names. -/
def named : List (String × Tag) :=
  [("null", .null), ("bool", .bool), ("int", .int), ("float", .float),
    ("binary", .binary), ("timestamp", .timestamp), ("omap", .omap),
    ("pairs", .pairs), ("set", .set), ("str", .str), ("seq", .seq),
    ("map", .map), ("merge", .merge), ("value", .value)]

/-- The tag of a full name. -/
def ofName (name : String) : Tag :=
  ((named.find? fun t => stem ++ t.1 == name).map (·.2)).getD .unknown

end Tag

/-! ### Forms of plain scalars -/

/-- The characters without a sign in front. -/
def dropSign : List Char → List Char
  | '+' :: rest => rest
  | '-' :: rest => rest
  | s => s

/-- Whether a character is a decimal digit or an underscore. -/
def isSpacedDigit (c : Char) : Bool := c.isDigit || c = '_'

/-- The rest after a digit and further digits and underscores. -/
def afterDigits? : List Char → Option (List Char)
  | c :: rest =>
    if c.isDigit then some (rest.dropWhile isSpacedDigit) else none
  | [] => none

/-- Whether the characters are an exponent with a sign, or nothing. -/
def isExponent : List Char → Bool
  | [] => true
  | e :: sign :: d :: rest =>
    (e = 'e' || e = 'E') && (sign = '+' || sign = '-') && d.isDigit &&
      rest.all Char.isDigit
  | _ => false

/-- The rest after groups of a colon and a number below 60, at least one. -/
def afterSixties? : List Char → Option (List Char)
  | ':' :: a :: b :: rest =>
    if a.isDigit && b.isDigit && a < '6' then some (more rest)
    else if a.isDigit then some (more (b :: rest))
    else none
  | [':', a] => if a.isDigit then some [] else none
  | _ => none
where
  /-- The rest after any further groups. -/
  more : List Char → List Char
    | ':' :: a :: b :: rest =>
      if a.isDigit && b.isDigit && a < '6' then more rest
      else if a.isDigit then more (b :: rest)
      else ':' :: a :: b :: rest
    | [':', a] => if a.isDigit then [] else [':', a]
    | s => s
  termination_by s => s.length

/-- Whether the characters are one of the words. -/
def isOneOf (words : List String) (s : List Char) : Bool :=
  words.any fun w => w.toList == s

/-- Whether a scalar has the form of a number with a point. -/
def isFloatForm (s : List Char) : Bool :=
  let t := dropSign s
  let pointed := match afterDigits? t with
    | some ('.' :: rest) => isExponent (rest.dropWhile isSpacedDigit)
    | _ => false
  let bare := match s with
    | '.' :: rest => (afterDigits? rest).any isExponent
    | _ => false
  let sixties := match (afterDigits? t).bind afterSixties? with
    | some ('.' :: rest) => rest.all isSpacedDigit
    | _ => false
  pointed || bare || sixties || isOneOf [".inf", ".Inf", ".INF"] t ||
    isOneOf [".nan", ".NaN", ".NAN"] s

/-- Whether a scalar has the form of an integer. -/
def isIntForm (s : List Char) : Bool :=
  match dropSign s with
  | ['0'] => true
  | '0' :: 'b' :: rest =>
    !rest.isEmpty && rest.all fun c => c = '0' || c = '1' || c = '_'
  | '0' :: 'x' :: rest =>
    !rest.isEmpty && rest.all fun c => (Json.hexValue? c).isSome || c = '_'
  | '0' :: rest => rest.all fun c => ('0' ≤ c && c ≤ '7') || c = '_'
  | c :: rest =>
    c.isDigit &&
      match rest.dropWhile isSpacedDigit with
      | [] => true
      | after => afterSixties? after == some []
  | [] => false

/-- The words of truth values, each in three spellings. -/
def truthWords : List String :=
  ["yes", "Yes", "YES", "no", "No", "NO", "true", "True", "TRUE", "false",
    "False", "FALSE", "on", "On", "ON", "off", "Off", "OFF"]

/-! ### Dates and times -/

/-- A date and perhaps a time, as the digits say. -/
structure Stamp where
  year : Nat
  month : Nat
  day : Nat
  /-- Whether month and day have two digits each. -/
  full : Bool
  time : Option (Nat × Nat × Nat × List Char)
  offset : Option Int
  deriving Repr

/-- A number of at most `most` digits, at least one. -/
def shortNumber? (most : Nat) (s : List Char) : Option (Nat × Nat × List Char) :=
  match (s.take most).takeWhile Char.isDigit with
  | [] => none
  | ds => some (Json.digitsValue ds, ds.length, s.drop ds.length)

/-- A number of exactly `n` digits. -/
def exactNumber? (n : Nat) (s : List Char) : Option (Nat × List Char) :=
  match shortNumber? n s with
  | some (v, len, rest) => if len = n then some (v, rest) else none
  | none => none

/-- The rest after a given character. -/
def after? (c : Char) : List Char → Option (List Char)
  | d :: rest => if c = d then some rest else none
  | [] => none

/-- An offset to universal time, or nothing, up to the end. -/
def offset? (s : List Char) : Option (Option Int) :=
  match s with
  | [] => some none
  | _ =>
    match s.dropWhile fun c => c = ' ' || c = '\t' with
    | ['Z'] => some (some 0)
    | sign :: rest =>
      if sign = '+' || sign = '-' then
        match shortNumber? 2 rest with
        | none => none
        | some (hours, _, rest) =>
          let minutes := match rest with
            | [] => some 0
            | ':' :: rest =>
              match exactNumber? 2 rest with
              | some (m, []) => some m
              | _ => none
            | _ => none
          minutes.map fun m =>
            let total : Int := hours * 60 + m
            some (if sign = '-' then -total else total)
      else none
    | [] => none

/-- The parts of a timestamp, if a scalar has the form of one. -/
def stamp? (s : List Char) : Option Stamp := do
  let (year, s) ← exactNumber? 4 s
  let (month, monthDigits, s) ← shortNumber? 2 (← after? '-' s)
  let (day, dayDigits, s) ← shortNumber? 2 (← after? '-' s)
  let full := monthDigits == 2 && dayDigits == 2
  match s with
  | [] => return ⟨year, month, day, full, none, none⟩
  | c :: rest =>
    let s ← (
      if c = 'T' || c = 't' then some rest
      else if c = ' ' || c = '\t' then
        some (rest.dropWhile fun c => c = ' ' || c = '\t')
      else none)
    let (hour, _, s) ← shortNumber? 2 s
    let (minute, s) ← exactNumber? 2 (← after? ':' s)
    let (second, s) ← exactNumber? 2 (← after? ':' s)
    let (fraction, s) := match s with
      | '.' :: rest => (rest.takeWhile Char.isDigit, rest.dropWhile Char.isDigit)
      | s => ([], s)
    let offset ← offset? s
    return ⟨year, month, day, full, some (hour, minute, second, fraction), offset⟩

/-- Whether a plain scalar is read as a timestamp: a bare date needs two digits
for month and day. -/
def isTimestampForm (s : List Char) : Bool :=
  match stamp? s with
  | some p => p.full || p.time.isSome
  | none => false

/-! ### The tag of a plain scalar -/

/-- The characters without one line feed at the end, for a form may be followed
by one. -/
def dropFinalBreak (s : List Char) : List Char :=
  match s.getLast? with
  | some '\n' => if s.length = 1 then s else s.dropLast
  | _ => s

/-- The tag that the form of a scalar gives it. -/
def implicitTag (text : String) : Tag :=
  let s := dropFinalBreak text.toList
  if isOneOf truthWords s then .bool
  else if isFloatForm s then .float
  else if isIntForm s then .int
  else if s == ['<', '<'] then .merge
  else if isOneOf ["", "~", "null", "Null", "NULL"] s then .null
  else if isTimestampForm s then .timestamp
  else if s == ['='] then .value
  else if isOneOf ["!", "&", "*"] s then .unknown
  else .str

/-! ### Values -/

/-- The characters with the digits of all scripts as ASCII ones, without white
space around them. -/
def plainDigits (s : List Char) : List Char :=
  (Text.trim s).map fun c =>
    match Text.digitValue? c with
    | some d => Char.ofNat (48 + d)
    | none => c

/-- The value of a digit of a base up to 16. -/
def digitIn? (base : Nat) (c : Char) : Option Nat :=
  (Json.hexValue? c).filter (· < base)

/-- The sign of a number and the characters after it. -/
def splitSign : List Char → Bool × List Char
  | '+' :: rest => (false, rest)
  | '-' :: rest => (true, rest)
  | s => (false, s)

/-- The letter that announces a base after a zero. -/
def baseLetter? (base : Nat) : Option Char :=
  if base = 2 then some 'b' else if base = 8 then some 'o'
  else if base = 16 then some 'x' else none

/-- The integer of digits of a base. The base may be announced once more, and
decimal digits must not be too many. -/
def integer (base : Nat) (s : List Char) : Except Fault Int :=
  let (negative, s) := splitSign (plainDigits s)
  let digits := match s with
    | '0' :: x :: rest =>
      if (baseLetter? base).any fun b => x = b || x = b.toUpper then rest else s
    | _ => s
  if digits.isEmpty || (base = 10 && Json.maxIntegerDigits < digits.length) then
    .error .notANumber
  else
    match digits.foldlM (fun n d => (digitIn? base d).map (n * base + ·)) 0 with
    | none => .error .notANumber
    | some n => .ok (if negative then -(n : Int) else n)

/-- The number of a decimal with an optional point and exponent, or one of the
words for the infinities and for no number. -/
def decimal (s : List Char) : Except Fault Binary64 :=
  let (negative, s) := splitSign (plainDigits s)
  let word := s.map Char.toLower
  if isOneOf ["inf", "infinity"] word then .ok (.infinity negative)
  else if isOneOf ["nan"] word then .ok .nan
  else
    let whole := s.takeWhile Char.isDigit
    let (fraction, rest) := match s.dropWhile Char.isDigit with
      | '.' :: r => (r.takeWhile Char.isDigit, r.dropWhile Char.isDigit)
      | r => ([], r)
    let exponent : Option Int := match rest with
      | [] => some 0
      | _ =>
        match Json.exponent? rest with
        | some (e, []) => some e
        | _ => none
    if whole.isEmpty && fraction.isEmpty then .error .notANumber
    else
      match exponent with
      | none => .error .notANumber
      | some e =>
        .ok (Binary64.ofDecimal negative (Json.digitsValue (whole ++ fraction))
          (e - fraction.length))

/-- A signed scalar: whether it is negative, and the rest without
underscores. -/
def signedBody (s : List Char) : Except Fault (Bool × List Char) :=
  match s.filter (· != '_') with
  | [] => .error .emptyNumber
  | t => .ok (splitSign t)

/-- The value of a scalar that is an integer: binary, octal, decimal or
hexadecimal, or to the base 60. -/
def intValue (s : List Char) : Except Fault Int := do
  let (negative, t) ← signedBody s
  let sign (n : Int) : Int := if negative then -n else n
  match t with
  | [] => .error .emptyNumber
  | ['0'] => return 0
  | '0' :: 'b' :: rest => return sign (← integer 2 rest)
  | '0' :: 'x' :: rest => return sign (← integer 16 rest)
  | '0' :: _ => return sign (← integer 8 t)
  | _ =>
    let parts ← (t.splitOn ':').mapM (integer 10)
    return sign (parts.foldl (fun n d => n * 60 + d) 0)

/-- The value of digits to the base 60, the least first; each is rounded and
added in turn. The factor of a digit is rounded before, if it is not too large
for that. -/
def sixtiesValue (parts : List Binary64) : Except Fault Binary64 := do
  let (sum, _) ← parts.foldlM (fun (sum, base) d =>
      match Binary64.ofInt base with
      | .infinity _ => .error .factorTooLarge
      | factor => .ok (sum.add (d.mul factor), base * 60))
    (Binary64.zero false, (1 : Int))
  return sum

/-- The value of a scalar that is a number with a point. -/
def floatValue (s : List Char) : Except Fault Binary64 := do
  let (negative, t) ← signedBody (Text.lowerChars s)
  let sign (x : Binary64) : Binary64 := if negative then x.neg else x
  if isOneOf [".inf"] t then return .infinity negative
  else if isOneOf [".nan"] t then return .nan
  else if t.contains ':' then
    let parts ← (t.splitOn ':').mapM decimal
    return sign (← sixtiesValue parts.reverse)
  else return sign (← decimal t)

/-- The value of a scalar that is a truth value. -/
def boolValue (s : List Char) : Except Fault Bool :=
  let word := Text.lowerChars s
  if isOneOf ["yes", "true", "on"] word then .ok true
  else if isOneOf ["no", "false", "off"] word then .ok false
  else .error .notATruthValue

/-- The value of a scalar that is a timestamp; without a time of day it is a
date. -/
def timestampValue (s : List Char) : Except Fault Value :=
  match stamp? (dropFinalBreak s) with
  | none => .error .notATimestamp
  | some p =>
    match p.time with
    | none =>
      match Date.ofNumbers? p.year p.month p.day with
      | some d => .ok (.date d)
      | none => .error .noSuchDate
    | some (hour, minute, second, fraction) =>
      let micros := Json.digitsValue
        (fraction.take 6 ++ List.replicate (6 - fraction.length) '0')
      let stamp := do
        let d ← Date.ofNumbers? p.year p.month p.day
        Timestamp.ofParts? d hour minute second micros p.offset
      match stamp with
      | some t => .ok (.timestamp t)
      | none => .error .noSuchDate

/-! ### Binary data -/

/-- The six bits that a character of base 64 stands for. -/
def sixBits? (c : Char) : Option Nat :=
  if 'A' ≤ c && c ≤ 'Z' then some (c.toNat - 65)
  else if 'a' ≤ c && c ≤ 'z' then some (c.toNat - 71)
  else if c.isDigit then some (c.toNat + 4)
  else if c = '+' then some 62
  else if c = '/' then some 63
  else none

/-- The bytes of a text in base 64. `filled` counts the characters of the
present group of four and `bits` are those not yet used; `pads` counts the
padding signs in a row. Characters outside of the alphabet are passed over, and
a group that is padded to its end is the last. -/
def base64From : Nat → Nat → Nat → List Char → Option (List UInt8)
  | filled, _, _, [] => if filled = 0 then some [] else none
  | filled, bits, pads, c :: rest =>
    if c = '=' then
      if 2 ≤ filled && 4 ≤ filled + (pads + 1) then some []
      else base64From filled bits (if 2 ≤ filled then pads + 1 else pads) rest
    else
      match sixBits? c with
      | none => base64From filled bits pads rest
      | some n =>
        if filled = 0 then base64From 1 n 0 rest
        else if filled = 1 then
          (base64From 2 (n % 16) 0 rest).map (UInt8.ofNat (bits * 4 + n / 16) :: ·)
        else if filled = 2 then
          (base64From 3 (n % 4) 0 rest).map (UInt8.ofNat (bits * 16 + n / 4) :: ·)
        else (base64From 0 0 0 rest).map (UInt8.ofNat (bits * 64 + n) :: ·)

/-- The value of a scalar that is binary data. -/
def binaryValue (s : List Char) : Except Fault (List UInt8) :=
  if s.all fun c => c.toNat < 128 then
    match base64From 0 0 0 s with
    | some bytes => .ok bytes
    | none => .error .malformed
  else .error .malformed

end ClientGen.Yaml
