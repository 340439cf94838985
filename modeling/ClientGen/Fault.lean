/-!
# Faults of a document

A document is loosely typed, and most of what is malformed in it has a
fallback. What has none ends the work with one of these causes: a value was
used in a way that its kind does not allow.
-/

namespace ClientGen

/-- Why a value could not be used. -/
inductive Fault where
  /-- A value that must be a text is none. -/
  | notText
  /-- Slots are looked for in a value that is no text. -/
  | notSearchable
  /-- Fields are asked of a value that is no mapping. -/
  | notMapping
  /-- The elements are asked of a value that has none. -/
  | notIterable
  /-- Membership is asked of a value that has no members. -/
  | notContainer
  /-- The first element is asked of a value that is no sequence. -/
  | notIndexable
  /-- The first element is asked of a mapping without that key. -/
  | noSuchKey
  /-- A value has no literal form. -/
  | notLiteral
  deriving DecidableEq, Repr

/-- What is wrong, in words. -/
def Fault.message : Fault → String
  | .notText => "a text is expected"
  | .notSearchable => "a path has to be a text"
  | .notMapping => "a mapping is expected"
  | .notIterable => "a value with elements is expected"
  | .notContainer => "a value with members is expected"
  | .notIndexable => "a sequence is expected"
  | .noSuchKey => "a mapping has no first element"
  | .notLiteral => "a value has no literal form"

end ClientGen
