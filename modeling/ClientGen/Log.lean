/-!
# The log

What a run reports on its way when it is asked to. A record has a level, the
part of the program that it comes from, and a message.
-/

namespace ClientGen

namespace Log

/-- How much a record matters. -/
inductive Level where
  | debug
  | info
  deriving DecidableEq, Repr

/-- The part of the program that a record comes from. -/
inductive Part where
  | loader
  | schemas
  | builder
  | writer
  deriving DecidableEq, Repr

/-- The name of a part. -/
def Part.name : Part → String
  | .loader => "swaggen.loader"
  | .schemas => "swaggen.schema_parser"
  | .builder => "swaggen.context_builder"
  | .writer => "swaggen.codegen"

/-- The name of a level. -/
def Level.name : Level → String
  | .debug => "DEBUG"
  | .info => "INFO"

end Log

/-- A record of the log. -/
structure LogRecord where
  level : Log.Level
  part : Log.Part
  message : String
  deriving DecidableEq, Repr

/-- The line that a record is written as. -/
def LogRecord.line (r : LogRecord) : String :=
  r.level.name ++ " " ++ r.part.name ++ ": " ++ r.message ++ "\n"

/-- A record of detail. -/
def LogRecord.debug (part : Log.Part) (message : String) : LogRecord :=
  ⟨.debug, part, message⟩

end ClientGen
