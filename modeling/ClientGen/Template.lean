import ClientGen.Failure
import ClientGen.Text.Lines
import ClientGen.TypeScript.Barrel
import ClientGen.TypeScript.ServiceFile

/-!
# Templates

The three views of a service that are written to files. The packaged ones are
the files of the generated client; a directory may replace them all by templates
of its own.

Templates are written in a language of their own, and what becomes of one is up
to the engine of that language. An `Engine` may look at everything that lies on
the disk, include one template in another, draw at random, and fail. All that is
known of it here is what it answers, view by view.
-/

namespace ClientGen

/-- A template. -/
inductive Template where
  | service
  | model
  | barrel
  deriving DecidableEq, Repr

namespace Template

/-- The name of the file that replaces a template. -/
def fileName : Template → String
  | .service => "angular2-service.ts.j2"
  | .model => "angular2-model.ts.j2"
  | .barrel => "angular2-models-export.ts.j2"

end Template

/-- A template with what it is rendered for. -/
inductive View where
  | service (s : Service)
  | model (d : Definition)
  | barrel (s : Service)

/-- The template of a view. -/
def View.template : View → Template
  | .service _ => .service
  | .model _ => .model
  | .barrel _ => .barrel

/-- What surrounds a rendering: the disk once the directories of the client are
made, the directory of the templates, the service, the directory that it is
written to, and how many of its files come before. The files that have been
written by then are those of the earlier turns. -/
structure Occasion where
  disk : Disk
  directory : Path
  service : Service
  out : Path
  turn : Nat

/-- Why a view could not be rendered. -/
inductive RenderFault where
  /-- The template is missing or wrong, for a reason that its language gives. -/
  | reported (cause : String)
  /-- The template is not UTF-8. -/
  | notUtf8
  /-- There is a text, but it cannot be encoded. -/
  | notEncodable
  /-- Anything else, known by its kind only. -/
  | escaped (kind : String)
  deriving DecidableEq, Repr

/-- The failure of a rendering. -/
def RenderFault.failure (t : Template) : RenderFault → Failure
  | .reported cause => .render t.fileName cause
  | .notUtf8 => .notUtf8
  | .notEncodable => .notEncodable
  | .escaped kind => .escaped kind

/-- What renders the templates of a directory. -/
abbrev Engine := Occasion → View → Except RenderFault String

/-- The engine for templates without any marks of their language: they are
written as they are, and one that is missing cannot be rendered. -/
def Engine.literal : Engine := fun o v =>
  match o.disk.readFile (o.directory.child v.template.fileName) with
  | .error _ =>
    .error (.reported (Text.quoted v.template.fileName ++
      " not found in search path: " ++ o.directory.quoted))
  | .ok bytes =>
    match Text.readBytes? bytes with
    | some s => .ok s
    | none => .error .notUtf8

/-- The packaged views, or others in place of them. -/
inductive TemplateSet where
  | packaged
  | replaced (render : View → Except Failure String)

namespace TemplateSet

/-- The views that a directory replaces, if there is one, as an engine renders
them when it is their turn. -/
def ofDirectory (engine : Engine) (d : Disk) (s : Service) (out : Path)
    (templateDir : Option Path) (turn : Nat) : TemplateSet :=
  match templateDir with
  | none => .packaged
  | some directory =>
    .replaced fun v =>
      (engine ⟨d, directory, s, out, turn⟩ v).mapError
        (RenderFault.failure v.template)

/-- The text of a view, given the packaged one. -/
def choose (set : TemplateSet) (v : View) (own : Except Failure String) :
    Except Failure String :=
  match set with
  | .packaged => own
  | .replaced render => render v

/-- The text of the service view. -/
def service (set : TemplateSet) (s : Service) : Except Failure String :=
  set.choose (.service s) <|
    match TypeScript.ServiceFile.ofService s with
    | .ok f => .ok f.text
    | .error e => .error (.fault e)

/-- The text of the view of a model. -/
def model (set : TemplateSet) (d : Definition) : Except Failure String :=
  set.choose (.model d) (.ok (TypeScript.ModelFile.ofDefinition d).text)

/-- The text of the view that exports the models of a service. -/
def barrel (set : TemplateSet) (s : Service) : Except Failure String :=
  set.choose (.barrel s)
    (.ok (TypeScript.Barrel.ofDefinitions s.definitions).text)

end TemplateSet

end ClientGen
