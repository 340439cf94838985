/-!
# Tokens of YAML

What the characters of a document are cut into. Collections in block style are
bracketed by tokens that the indentation implies. A text that cannot be cut
any further ends in `broken`, so that whoever reads the tokens meets the fault
in its place.
-/

namespace ClientGen.Yaml

/-- Why a document has no value. -/
inductive Fault where
  /-- The text does not follow the grammar, or a node does not fit its tag. -/
  | malformed
  /-- An escape names a code point beyond the last one. -/
  | codePointTooLarge
  /-- An escape names a code point that is no signed number of 32 bits. -/
  | codePointOverflow
  /-- An escape names half of a surrogate pair, which is no character. -/
  | halfPair
  /-- A number in a directive has more digits than are converted. -/
  | numberTooLong
  /-- A scalar that must be a number is none. -/
  | notANumber
  /-- A scalar that must be a number is empty but for a sign. -/
  | emptyNumber
  /-- A factor of a number to the base 60 is too large to be rounded. -/
  | factorTooLarge
  /-- A scalar that must be a truth value is none. -/
  | notATruthValue
  /-- A scalar that must be a timestamp is none. -/
  | notATimestamp
  /-- A timestamp is asked of a collection. -/
  | timestampOfCollection
  /-- There is no such day or time of day. -/
  | noSuchDate
  deriving DecidableEq, Repr

/-- The kind of a fault that is more than a malformed text. -/
def Fault.kind? : Fault → Option String
  | .malformed => none
  | .codePointTooLarge | .numberTooLong | .notANumber | .noSuchDate =>
    some "value"
  | .codePointOverflow | .factorTooLarge => some "overflow"
  | .halfPair => some "encoding"
  | .emptyNumber => some "index"
  | .notATruthValue => some "key"
  | .notATimestamp => some "attribute"
  | .timestampOfCollection => some "type"

/-- A directive at the head of a document. -/
inductive Directive where
  | version (major minor : Nat)
  | tagHandle (handle stem : String)
  | other
  deriving DecidableEq, Repr

/-- A token. -/
inductive Token where
  | directive (d : Directive)
  | documentStart
  | documentEnd
  | blockSequenceStart
  | blockMappingStart
  | blockEnd
  | flowSequenceStart
  | flowSequenceEnd
  | flowMappingStart
  | flowMappingEnd
  | blockEntry
  | flowEntry
  | key
  | value
  | alias (name : String)
  | anchor (name : String)
  /-- A tag without a handle is written out in full. -/
  | tag (handle : Option String) (suffix : String)
  | scalar (text : String) (plain : Bool)
  | streamEnd
  | broken (f : Fault)
  deriving DecidableEq, Repr

end ClientGen.Yaml
