import ClientGen.Template

/-!
# Writing a client

A client is written file after file: the service, one file for each model, and
the file that exports the models. `Output.plan` lists them; `Generation.run`
writes them in this order and stops at the first that cannot be named,
rendered or written, which leaves the ones before it. A file whose text cannot
be encoded has been opened by then, and is left empty.
-/

namespace ClientGen

/-- A file of a client: what is reported before it is written, where it
belongs and its text. -/
structure Output where
  announcement : LogRecord
  path : Except Failure Path
  text : Except Failure String

namespace Output

/-- The name of the file of a model. -/
def modelFile (name : String) : String := Text.lower name ++ ".model.ts"

/-- The name of the file of a model whose name must be a text. -/
def modelFileOf (name : Value) : Except Fault String :=
  match name with
  | .str s => .ok (modelFile s)
  | _ => .error .notText

/-- The directory of the models. -/
def modelsDir (out : Path) : Path := out.child "models"

/-- The service file. -/
def service (set : TemplateSet) (s : Service) (out : Path) : Output :=
  ⟨.debug .writer "Rendering template for API", .ok (out.child "index.ts"),
    set.service s⟩

/-- The file of a model. One without a name has no place. -/
def model (set : TemplateSet) (out : Path) (d : Definition) : Output :=
  ⟨.debug .writer ("Rendering template for model " ++ nameText d.name),
    match d.name with
    | some n => .ok ((modelsDir out).child (modelFile n))
    | none => .error (.fault .notText),
    set.model d⟩

/-- The file that exports the models. -/
def barrel (set : TemplateSet) (s : Service) (out : Path) : Output :=
  ⟨.debug .writer "Rendering common models export",
    .ok (out.child "models.ts"), set.barrel s⟩

/-- All files of a client, in the order in which they are written. Each of them
is rendered when it is its turn. -/
def plan (sets : Nat → TemplateSet) (s : Service) (out : Path) : List Output :=
  service (sets 0) s out ::
    (s.definitions.mapIdx (fun i d => model (sets (i + 1)) out d) ++
      [barrel (sets (s.definitions.length + 1)) s out])

end Output

/-- What a run leaves: the disk, what it reported, and the paths that it
wrote, or why it stopped. -/
structure Generation where
  disk : Disk
  log : List LogRecord
  result : Except Failure (List Path)

namespace Generation

/-- The disk with one file written. A file whose text cannot be encoded may
already fail to be opened. -/
def writeOne (d : Disk) (o : Output) : Except Failure (Path × Disk) := do
  let path ← o.path
  match o.text with
  | .ok text =>
    match d.writeFile path text.toUTF8 with
    | .ok d => return (path, d)
    | .error t => .error (.trouble t)
  | .error .notEncodable =>
    match d.writeFile path .empty with
    | .ok _ => .error .notEncodable
    | .error t => .error (.trouble t)
  | .error f => .error f

/-- The disk once a file has failed: it is as before, unless the text of the
file could not be encoded. -/
def spoil (d : Disk) (o : Output) : Disk :=
  match o.path, o.text with
  | .ok path, .error .notEncodable =>
    match d.writeFile path .empty with
    | .ok d => d
    | .error _ => d
  | _, _ => d

/-- Files written one after another. -/
def writeAll (d : Disk) : List Output → Generation
  | [] => ⟨d, [], .ok []⟩
  | o :: rest =>
    match writeOne d o with
    | .error f => ⟨spoil d o, [o.announcement], .error f⟩
    | .ok (path, d) =>
      let g := writeAll d rest
      ⟨g.disk, o.announcement :: g.log, g.result.map (path :: ·)⟩

@[simp] theorem writeAll_nil (d : Disk) : writeAll d [] = ⟨d, [], .ok []⟩ := rfl

/-- The first file that fails ends the writing. -/
theorem writeAll_cons_error {d : Disk} {o : Output} {f : Failure}
    (h : writeOne d o = .error f) (rest : List Output) :
    writeAll d (o :: rest) = ⟨spoil d o, [o.announcement], .error f⟩ := by
  simp [writeAll, h]

theorem writeAll_cons_ok {d d' : Disk} {o : Output} {p : Path}
    (h : writeOne d o = .ok (p, d')) (rest : List Output) :
    writeAll d (o :: rest) =
      ⟨(writeAll d' rest).disk, o.announcement :: (writeAll d' rest).log,
        (writeAll d' rest).result.map (p :: ·)⟩ := by
  simp [writeAll, h]

/-- What is reported about a file that was written. -/
def created (p : Path) : LogRecord := ⟨.info, .writer, "Created " ++ p.text⟩

/-- A generation with its files reported, if all were written. -/
def finish (g : Generation) : Generation :=
  match g.result with
  | .ok paths => { g with log := g.log ++ paths.map created }
  | .error _ => g

/-- Writes a client into a directory, which is made if it is missing. The
directory of templates, if there is one, is looked up once that is done. -/
def run (engine : Engine) (templateDir : Option Path) (s : Service) (out : Path)
    (d : Disk) : Generation :=
  match d.ensureDirectories (Output.modelsDir out) with
  | (d, .error t) => ⟨d, [], .error (.trouble t)⟩
  | (d, .ok ()) =>
    let sets := TemplateSet.ofDirectory engine d s out templateDir
    (writeAll d (Output.plan sets s out)).finish

end Generation

end ClientGen
