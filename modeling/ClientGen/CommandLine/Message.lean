/-!
# Messages on a terminal

What the command writes for a reader goes without the sequences that style a
terminal, which a name or a file may hold. Such a sequence is an escape
character, an opening bracket, numbers with separators, and a letter.
-/

namespace ClientGen.CommandLine

/-- How many characters after an escape character style a terminal. -/
def styleLength : List Char → Nat
  | '[' :: rest =>
    let numbers := rest.takeWhile fun d => d = ';' || d = '?' || d.isDigit
    match rest.drop numbers.length with
    | e :: _ => if e.isAlpha then numbers.length + 2 else 0
    | [] => 0
  | _ => 0

/-- A text without its first `skip` characters and without styles. -/
def dropStyles : Nat → List Char → List Char
  | _, [] => []
  | skip + 1, _ :: rest => dropStyles skip rest
  | 0, c :: rest =>
    if c.toNat = 0x1B && styleLength rest != 0 then
      dropStyles (styleLength rest) rest
    else c :: dropStyles 0 rest

/-- A text without the sequences that style a terminal. -/
def plain (s : String) : String := String.ofList (dropStyles 0 s.toList)

end ClientGen.CommandLine
