import ClientGen.Generate

/-!
# Documents

What a source holds once it is read. A document is a tree of values, as a rule,
and its service is known in every detail. Some sources hold what is no such
tree: a collection that is an element of itself, half of a surrogate pair, an
integer that is too long to be printed. What is built of these and written for
them is known by what it leaves behind.
-/

namespace ClientGen

/-- What a client is written from: how much there is of it, and what writing it
leaves, given the directory of templates, the output directory and the disk. -/
structure Client where
  methods : Nat
  definitions : Nat
  enums : Nat
  write : Option Path → Path → Disk → Generation

/-- The client of a service. -/
def Client.ofService (engine : Engine) (s : Service) : Client where
  methods := s.methods.length
  definitions := s.definitions.length
  enums := s.enums.size
  write := fun templateDir out d => Generation.run engine templateDir s out d

/-- What building a client leaves: what was reported, and the client or the
failure. -/
structure Preparation where
  log : List LogRecord
  outcome : Except Failure Client

/-- A document that is no tree of values. -/
structure Foreign where
  isMapping : Bool
  /-- What is built of it, for either side. -/
  prepare : Bool → Preparation

/-- A document. The members of a set come in the order in which they are
printed. -/
inductive Document where
  | tree (v : Value)
  | foreign (f : Foreign)

namespace Document

/-- Whether a document is a mapping. -/
def isMapping : Document → Bool
  | .tree v => v.fields?.isSome
  | .foreign f => f.isMapping

/-- What is built of a document. -/
def prepare (engine : Engine) (document : Document) (onServer : Bool) :
    Preparation :=
  match document with
  | .tree v =>
    let built := Service.build v onServer
    { log := Event.reports .empty built.events
      outcome :=
        match built.outcome with
        | .ok s => .ok (.ofService engine s)
        | .error f => .error (.fault f) }
  | .foreign f => f.prepare onServer

end Document

end ClientGen
