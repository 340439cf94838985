import ClientGen.Text.Case
import ClientGen.Text.PrintableTable

/-!
# Quoted text

The quoted form of a text, as it appears inside a printed list or mapping and
in messages that name a file. Single quotes are used, unless the text holds a
single quote and no double one. A backslash and the quote in use are escaped,
as are the characters that cannot be printed.
-/

namespace ClientGen.Text

/-- Whether a character can be printed as it is. -/
def isPrintable (c : Char) : Bool :=
  if c.toNat < 128 then 0x20 ≤ c.toNat && c.toNat ≤ 0x7E
  else inRanges printableRanges c

/-- The lower-case hexadecimal digit of a number below 16. -/
def hexDigit (d : Nat) : Char :=
  if d < 10 then Char.ofNat (48 + d) else Char.ofNat (87 + d)

/-- The last `k` hexadecimal digits of a number, the most significant first. -/
def hexDigits : Nat → Nat → List Char
  | 0, _ => []
  | k + 1, n => hexDigits k (n / 16) ++ [hexDigit (n % 16)]

/-- The quote that a text is written in: single, unless that one occurs in it
and the double one does not. -/
def quoteFor (s : List Char) : Char :=
  if s.contains '\'' && !s.contains '"' then '"' else '\''

/-- A character that cannot be printed, by its code point. -/
def escapeByCode (n : Nat) : List Char :=
  if n < 0x100 then '\\' :: 'x' :: hexDigits 2 n
  else if n < 0x10000 then '\\' :: 'u' :: hexDigits 4 n
  else '\\' :: 'U' :: hexDigits 8 n

/-- One character between quotes. -/
def quotedChar (quote c : Char) : List Char :=
  if c = quote || c = '\\' then ['\\', c]
  else if c = '\t' then ['\\', 't']
  else if c = '\n' then ['\\', 'n']
  else if c = '\r' then ['\\', 'r']
  else if isPrintable c then [c]
  else escapeByCode c.toNat

/-- The quoted form of a text, as characters. -/
def quotedChars (s : List Char) : List Char :=
  let q := quoteFor s
  q :: (s.flatMap (quotedChar q) ++ [q])

/-- The quoted form of a text. -/
def quoted (s : String) : String := String.ofList (quotedChars s.toList)

/-- The quoted form of binary data: ASCII stands for itself, every other byte
for its code. -/
def quotedBytes (bytes : List UInt8) : String :=
  let cs := bytes.map fun b => Char.ofNat b.toNat
  let q := quoteFor cs
  let body := cs.flatMap fun c =>
    if c.toNat < 128 then quotedChar q c else escapeByCode c.toNat
  String.ofList ('b' :: q :: (body ++ [q]))

end ClientGen.Text
