import ClientGen.Failure

/-!
# Requests

What the arguments of the command come to, whoever reads them: the help, an
error in their use, or a request for a client.
-/

namespace ClientGen.CommandLine

/-- What the arguments ask for. -/
structure Request where
  source : Path
  output : Path
  node : Option Bool
  debug : Option Bool
  templateDir : Option Path
  deriving DecidableEq, Repr

/-- What arguments come to. -/
inductive Reading where
  /-- The help, or what else is answered at once, with its text. -/
  | help (text : String)
  /-- The arguments are refused, with what is said about it. -/
  | usage (text : String)
  /-- Nobody expects what happened as they were read. -/
  | uncaught (f : Failure)
  | request (r : Request)
  deriving DecidableEq, Repr

end ClientGen.CommandLine
