import ClientGen.Service

/-!
# Sessions

A session is a sequence of steps on one table of enumerations that starts
empty. Each step reads a part of a document, registers an enumeration or
shadows one. A step that fails leaves in the table what happened before the
fault.
-/

namespace ClientGen

namespace Session

/-- One step. -/
inductive Step where
  | register (name values : Value)
  | shadow (name : Value)
  | parameter (param : Value)
  | parameters (operation shared : Value) (onServer : Bool)
  | method (document path verb operation shared : Value) (onServer : Bool)
  | methods (document : Value) (onServer : Bool)
  | definition (name schema : Value)
  | definitions (document : Value)
  deriving Repr

/-- What a step yields. -/
inductive Answer where
  | registered (added : Bool)
  | shadowed (removed : Option Enumeration)
  | parameter (p : Parameter)
  | parameters (ps : List Parameter)
  | method (m : Method)
  | methods (ms : List Method)
  | definition (d : Definition)
  | definitions (ds : List Definition)

/-- The answer of a reading step, and the table after its events. -/
def answer {α : Type} (make : α → Answer) (x : Traced α) (t : EnumTable) :
    Except Fault Answer × EnumTable :=
  (x.outcome.map make, x.tableAfter t)

/-- The answer of a step, and the table after it. -/
def Step.run (s : Step) (t : EnumTable) : Except Fault Answer × EnumTable :=
  match s with
  | .register name values =>
    match Enumeration.build name values with
    | .ok e => (.ok (.registered (!t.has e.name)), t.register e)
    | .error f => (.error f, t)
  | .shadow name => (.ok (.shadowed (t.find? name)), t.shadow name)
  | .parameter param => answer .parameter (Parameter.build param) t
  | .parameters operation shared onServer =>
    answer .parameters (Parameter.buildAll operation shared onServer) t
  | .method document path verb operation shared onServer =>
    answer .method (Method.build document path verb operation shared onServer) t
  | .methods document onServer =>
    answer .methods (Method.buildAll document onServer) t
  | .definition name schema => answer .definition (Definition.build name schema) t
  | .definitions document => answer .definitions (Definition.buildAll document) t

/-- The answers of steps in order, each with the table after it. -/
def run (t : EnumTable) : List Step → List (Except Fault Answer × EnumTable)
  | [] => []
  | s :: rest =>
    let r := s.run t
    r :: run r.2 rest

end Session

end ClientGen
