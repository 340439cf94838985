import ClientGen.CommandLine.Message
import ClientGen.CommandLine.Request
import ClientGen.CommandLine.Usage
import ClientGen.Settings
import ClientGen.Source

/-!
# Running the command

A run reads its arguments, loads the document, builds the client and writes it.
The disk stays as it is until the client is written. The log goes to the error
stream, if it is asked for, in front of the message of a failure.

What a run does not do by itself is up to its `Tools`: the reader of the
arguments, the readers of texts, the engine of the templates, and what writes
messages. They are one process with the run, so that whatever they draw at random
is part of them.
-/

namespace ClientGen.CommandLine

/-- What a run relies on. -/
structure Tools where
  arguments : Disk → Environment → List String → Reading
  readers : Readers
  engine : Engine
  /-- A message as it is written. -/
  shown : String → String

/-- What the program brings along, under a name: its own reader of arguments and
of YAML, templates that are written as they are, and messages without styles. -/
def Tools.own (program : String) : Tools where
  arguments := fun d _ args => Arguments.reading program d args
  readers := .own
  engine := .literal
  shown := plain

/-- What a run leaves. -/
structure Outcome where
  exitCode : Nat
  output : String
  errors : String
  /-- The failure that nothing caught, if there was one. -/
  uncaught : Option Failure
  disk : Disk

/-- The work of a run once its arguments are read: the log and the disk that
it leaves, and the files that it has written with their client, or the
failure. -/
structure Work where
  log : List LogRecord
  disk : Disk
  result : Except Failure (List Path × Client)

namespace Work

/-- Loads a document, builds its client and writes that. -/
def run (tools : Tools) (d : Disk) (source out : Path) (onServer : Bool)
    (templateDir : Option Path) : Work :=
  let loading : LogRecord :=
    .debug .loader ("Reading Swagger file " ++ source.text)
  match Source.load tools.readers d source with
  | .error f => ⟨[loading], d, .error f⟩
  | .ok document =>
    let built := document.prepare tools.engine onServer
    let log := loading :: built.log
    match built.outcome with
    | .error f => ⟨log, d, .error f⟩
    | .ok client =>
      let g := client.write templateDir out d
      ⟨log ++ g.log, g.disk, g.result.map fun paths => (paths, client)⟩

end Work

/-- The line that sums up a run. -/
def summary (out : Path) (paths : List Path) (c : Client) : String :=
  "Generated " ++ toString paths.length ++ " files in " ++ out.text ++ " (" ++
    toString c.methods ++ " methods, " ++ toString c.definitions ++
    " models, " ++ toString c.enums ++ " enums)"

/-- The settings of a run: what the arguments say, and what the environment
says otherwise. -/
def settingsOf (env : Environment) (r : Request) : Settings :=
  let s := Settings.ofEnvironment env
  { onServer := r.node.getD s.onServer
    debug := r.debug.getD s.debug
    templateDir := r.templateDir.or s.templateDir }

/-- The outcome of work that is done: its summary, the report of an expected
failure, or a failure that nothing catches. -/
def Outcome.ofWork (shown : String → String) (debug : Bool) (out : Path)
    (w : Work) : Outcome :=
  let log := if debug then String.join (w.log.map (·.line)) else ""
  match w.result with
  | .ok (paths, c) => ⟨0, shown (summary out paths c) ++ "\n", log, none, w.disk⟩
  | .error f =>
    match f.report? with
    | some r =>
      ⟨1, "", log ++ shown ("Error: " ++ r.message) ++ "\n", none, w.disk⟩
    | none => ⟨1, "", log, some f, w.disk⟩

/-- Runs a request. -/
def Request.run (tools : Tools) (d : Disk) (env : Environment) (r : Request) :
    Outcome :=
  let s := settingsOf env r
  Outcome.ofWork tools.shown s.debug r.output
    (Work.run tools d r.source r.output s.onServer s.templateDir)

/-- Runs the command with an environment and arguments. -/
def run (tools : Tools) (d : Disk) (env : Environment) (args : List String) :
    Outcome :=
  match tools.arguments d env args with
  | .help text => ⟨0, text, "", none, d⟩
  | .usage text => ⟨2, "", text, none, d⟩
  | .uncaught f => ⟨1, "", "", some f, d⟩
  | .request r => r.run tools d env

end ClientGen.CommandLine
