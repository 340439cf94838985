import ClientGen.Enumeration
import ClientGen.Text.Case
import ClientGen.Value.Text

/-!
# Enum declarations

An enumeration as a declaration of the generated code. A member is called like
its value in upper case; both stand between single quotes as they are.
-/

namespace ClientGen.TypeScript

/-- An enum declaration: its name, and its members with their values. -/
structure EnumDecl where
  name : String
  members : List (String × String)
  deriving DecidableEq, Repr

/-- A text between single quotes. -/
def singleQuoted (s : String) : String := "'" ++ s ++ "'"

namespace EnumDecl

/-- The declaration of an enumeration. -/
def ofEnumeration (e : Enumeration) : EnumDecl :=
  ⟨e.name.text, e.values.map fun v => (Text.upper v.text, v.text)⟩

/-- The line of a member, with a comma unless it is the last one. -/
def memberLine (m : String × String) (isLast : Bool) : String :=
  "    " ++ singleQuoted m.1 ++ " = " ++ singleQuoted m.2 ++
    (if isLast then "" else ",") ++ "\n"

/-- The lines of members. -/
def memberLines : List (String × String) → String
  | [] => ""
  | [m] => memberLine m true
  | m :: rest => memberLine m false ++ memberLines rest

/-- The text of a declaration, after an empty line. -/
def text (d : EnumDecl) : String :=
  "\nexport enum " ++ d.name ++ " \x7b\n" ++ memberLines d.members ++ "\x7d\n"

end EnumDecl

end ClientGen.TypeScript
