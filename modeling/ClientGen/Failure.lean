import ClientGen.Disk
import ClientGen.Fault
import ClientGen.Json.Reader

/-!
# Failures of a run

What can end a run before its time. Some failures are expected and reported in
one line: a document that cannot be loaded, a template that is missing or cannot
be rendered. The others come from what a document holds, from the disk or from
the tools of the program, and are not caught.
-/

namespace ClientGen

/-- What a report gives as its cause: the text of another failure, or words. -/
inductive Cause where
  | failure (text : String)
  | words (text : String)
  deriving DecidableEq, Repr

/-- An expected failure, as it is reported. -/
inductive Report where
  | plain (text : String)
  | load (source : String) (cause : Option Cause)
  | render (template : String) (cause : Option Cause)
  deriving DecidableEq, Repr

namespace Report

/-- A message with its cause, if there is one. No words are no cause, but a
failure is one even if it has no text. -/
def withCause (message : String) (cause : Option Cause) : String :=
  match cause with
  | none => message
  | some (.failure text) => message ++ ": " ++ text
  | some (.words text) =>
    if text = "" then message else message ++ ": " ++ text

/-- The line that reports the failure. -/
def message : Report → String
  | .plain text => text
  | .load source cause =>
    withCause ("Failed to load Swagger document from '" ++ source ++ "'") cause
  | .render template cause =>
    withCause ("Failed to render template '" ++ template ++ "'") cause

end Report

/-- Why a document could not be loaded. -/
inductive LoadCause where
  | trouble (t : Trouble)
  | json (e : Json.Error)
  /-- The reader of YAML refuses the text, and says why. -/
  | yaml (text : String)
  | notMapping
  deriving DecidableEq, Repr

/-- What ends a run. -/
inductive Failure where
  | load (source : Path) (cause : LoadCause)
  /-- A template cannot be rendered, for a reason that its language gives. -/
  | render (template : String) (cause : String)
  /-- A value of the document was used in a way that it does not allow. -/
  | fault (f : Fault)
  /-- A file is not UTF-8. -/
  | notUtf8
  /-- A text has something in it that UTF-8 has no bytes for. -/
  | notEncodable
  /-- An integer has too many digits. -/
  | integerTooLong
  /-- Something could not be done on the disk. -/
  | trouble (t : Trouble)
  /-- A tool failed in a way that nobody expects, known by its kind only. -/
  | escaped (kind : String)
  deriving DecidableEq, Repr

namespace Failure

/-- What is reported as the cause of a load failure. -/
def causeOf (source : Path) : LoadCause → Cause
  | .trouble t => .failure (t.message source)
  | .json e => .failure e.message
  | .yaml text => .failure text
  | .notMapping => .words "top level is not a mapping"

/-- The report of a document that could not be loaded. -/
def loadReport (source : Path) (cause : LoadCause) : Report :=
  .load source.text (causeOf source cause)

/-- The report of an expected failure. -/
def report? : Failure → Option Report
  | .load source cause => some (loadReport source cause)
  | .render template cause => some (.render template (some (.failure cause)))
  | _ => none

/-- What ended a run, in words. -/
def message : Failure → String
  | .load source cause => (loadReport source cause).message
  | .render template cause =>
    (Report.render template (some (.failure cause))).message
  | .fault f => "The document cannot be used: " ++ f.message
  | .notUtf8 => "A file is not UTF-8"
  | .notEncodable => "A text cannot be encoded"
  | .integerTooLong => "An integer has too many digits"
  | .trouble t => t.code.2
  | .escaped kind => "Something failed for an error of kind " ++ kind

end Failure

end ClientGen
