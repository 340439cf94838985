import ClientGen.Text.Quoted

/-!
# Paths

A path is a root, if it is absolute, and the names that lead on from there.
Reading the text of a path drops empty names and single dots, so that `./a//b/`
and `a/b` are one path; two dots stay. The path without names is a single dot.
-/

namespace ClientGen

/-- A path. The root is empty, one slash or, of a text that starts with exactly
two, two slashes. -/
structure Path where
  root : String
  names : List String
  deriving DecidableEq, Repr, Inhabited

namespace Path

/-- The root of a text. -/
def rootOf : List Char → String
  | '/' :: '/' :: '/' :: _ => "/"
  | '/' :: '/' :: _ => "//"
  | '/' :: _ => "/"
  | _ => ""

/-- The path of a text. -/
def ofText (s : String) : Path :=
  let names := (s.toList.splitOn '/').map String.ofList
  ⟨rootOf s.toList, names.filter fun n => n != "" && n != "."⟩

/-- The text of a path. -/
def text (p : Path) : String :=
  if p.root = "" && p.names.isEmpty then "."
  else p.root ++ "/".intercalate p.names

/-- Whether the path is absolute. -/
def isAbsolute (p : Path) : Bool := p.root != ""

/-- A path seen from another one; an absolute path stays as it is. -/
def join (p q : Path) : Path :=
  if q.isAbsolute then q else ⟨p.root, p.names ++ q.names⟩

/-- The path with one more text at its end. -/
def child (p : Path) (s : String) : Path := p.join (ofText s)

/-- The path without its last name. -/
def parent (p : Path) : Path := ⟨p.root, p.names.dropLast⟩

/-- The last name. -/
def name (p : Path) : String := p.names.getLastD ""

/-- The ending of the last name from its last dot on, if there is something
before and after the dot. -/
def suffix (p : Path) : String :=
  let cs := p.name.toList
  let ending := (cs.reverse.takeWhile (· != '.')).length
  let start := cs.length - ending - 1
  if cs.contains '.' && 0 < start && 0 < ending then
    String.ofList (cs.drop start)
  else ""

/-- The quoted form of a path, as messages name it. -/
def quoted (p : Path) : String := Text.quoted p.text

end Path

end ClientGen
