import ClientGen.Proofs.Message

/-!
# The stages of a run

A run reads its arguments, loads the document, builds the client and writes it.
`Reaches` says that a run comes as far as writing, and with which client; `Fails`
says which failure ends a run, and where. What a run leaves is stated in these
terms (`run_stages`): before writing nothing happens to the disk, an expected
failure is reported in one line, and a run succeeds exactly if every stage does.

All of this holds whatever the tools of the run are. Only of what writes messages
it is asked that it takes styles out, and nothing else.
-/

namespace ClientGen.CommandLine

variable {tools : Tools} {d : Disk} {env : Environment} {args : List String}
  {r : Request} {c : Client}

/-- The arguments are accepted and ask for a client. -/
def Accepts (tools : Tools) (d : Disk) (env : Environment)
    (args : List String) (r : Request) : Prop :=
  tools.arguments d env args = .request r

/-- The arguments ask for help, or their reader answers something else at once. -/
def AsksHelp (tools : Tools) (d : Disk) (env : Environment)
    (args : List String) : Prop :=
  ∃ text, tools.arguments d env args = .help text

/-- A client is built from a document. That of a tree of values is the client of
its service. -/
inductive Builds (engine : Engine) (onServer : Bool) : Document → Client → Prop
  | tree {v : Value} {s : Service}
      (build : (Service.build v onServer).outcome = .ok s) :
      Builds engine onServer (.tree v) (.ofService engine s)
  | foreign {f : Foreign} {c : Client}
      (build : (f.prepare onServer).outcome = .ok c) :
      Builds engine onServer (.foreign f) c

/-- A document has no client, because of a failure. -/
inductive Breaks (onServer : Bool) : Document → Failure → Prop
  | tree {v : Value} {fault : Fault}
      (build : (Service.build v onServer).outcome = .error fault) :
      Breaks onServer (.tree v) (.fault fault)
  | foreign {g : Foreign} {f : Failure}
      (build : (g.prepare onServer).outcome = .error f) :
      Breaks onServer (.foreign g) f

/-- The side that a client is built for: the one that the arguments say, or else
the environment. -/
def sideOf (env : Environment) (r : Request) : Bool :=
  r.node.getD (Settings.ofEnvironment env).onServer

/-- A run comes as far as writing a client. -/
structure Reaches (tools : Tools) (d : Disk) (env : Environment)
    (args : List String) (r : Request) (c : Client) : Prop where
  accepts : Accepts tools d env args r
  builds : ∃ document, Source.load tools.readers d r.source = .ok document ∧
    Builds tools.engine (sideOf env r) document c

/-- What writing leaves. The directory of templates is the one that the
arguments say, or else the environment. -/
def written (d : Disk) (env : Environment) (r : Request) (c : Client) :
    Generation :=
  c.write (r.templateDir.or (Settings.ofEnvironment env).templateDir) r.output d

/-- The failure that ends a run whose arguments are accepted. -/
inductive Fails (tools : Tools) (d : Disk) (env : Environment)
    (args : List String) : Failure → Prop
  | loading {r : Request} {f : Failure} (accepts : Accepts tools d env args r)
      (load : Source.load tools.readers d r.source = .error f) :
      Fails tools d env args f
  | building {r : Request} {document : Document} {f : Failure}
      (accepts : Accepts tools d env args r)
      (load : Source.load tools.readers d r.source = .ok document)
      (breaks : Breaks (sideOf env r) document f) : Fails tools d env args f
  | writing {r : Request} {c : Client} {f : Failure}
      (reaches : Reaches tools d env args r c)
      (write : (written d env r c).result = .error f) : Fails tools d env args f

/-- A document has a client, or there is a failure. -/
theorem prepare_cases (engine : Engine) (document : Document) (onServer : Bool) :
    (∃ c, (document.prepare engine onServer).outcome = .ok c ∧
      Builds engine onServer document c) ∨
    ∃ f, (document.prepare engine onServer).outcome = .error f ∧
      Breaks onServer document f := by
  cases document with
  | tree v =>
    unfold Document.prepare
    cases hbuild : (Service.build v onServer).outcome with
    | ok s =>
      refine Or.inl ⟨.ofService engine s, ?_, .tree hbuild⟩
      simp only [hbuild]
    | error fault =>
      refine Or.inr ⟨.fault fault, ?_, .tree hbuild⟩
      simp only [hbuild]
  | foreign g =>
    cases hbuild : (g.prepare onServer).outcome with
    | ok c => exact Or.inl ⟨c, hbuild, .foreign hbuild⟩
    | error f => exact Or.inr ⟨f, hbuild, .foreign hbuild⟩

theorem Builds.outcome {engine : Engine} {document : Document} {onServer : Bool}
    (h : Builds engine onServer document c) :
    (document.prepare engine onServer).outcome = .ok c := by
  cases h with
  | tree build => simp only [Document.prepare, build]
  | foreign build => exact build

theorem Breaks.outcome (engine : Engine) {document : Document}
    {onServer : Bool} {f : Failure} (h : Breaks onServer document f) :
    (document.prepare engine onServer).outcome = .error f := by
  cases h with
  | tree build => simp only [Document.prepare, build]
  | foreign build => exact build

/-! ### The work of a request -/

/-- The work that a request asks for. -/
def Request.work (tools : Tools) (d : Disk) (env : Environment) (r : Request) :
    Work :=
  Work.run tools d r.source r.output (settingsOf env r).onServer
    (settingsOf env r).templateDir

theorem work_of_load_error {f : Failure}
    (h : Source.load tools.readers d r.source = .error f) :
    (r.work tools d env).disk = d ∧ (r.work tools d env).result = .error f := by
  unfold Request.work Work.run
  rw [h]
  exact ⟨rfl, rfl⟩

theorem work_of_breaks {document : Document} {f : Failure}
    (hload : Source.load tools.readers d r.source = .ok document)
    (hbreaks : Breaks (sideOf env r) document f) :
    (r.work tools d env).disk = d ∧ (r.work tools d env).result = .error f := by
  have hsettings : (settingsOf env r).onServer = sideOf env r := rfl
  unfold Request.work Work.run
  rw [hload, hsettings]
  dsimp only
  rw [hbreaks.outcome]
  exact ⟨rfl, rfl⟩

/-- The work of a run that comes as far as writing is what writing leaves. -/
theorem Reaches.work (h : Reaches tools d env args r c) :
    (r.work tools d env).disk = (written d env r c).disk ∧
      (r.work tools d env).result =
        (written d env r c).result.map fun paths => (paths, c) := by
  obtain ⟨document, hload, hbuilds⟩ := h.builds
  have hsettings : (settingsOf env r).onServer = sideOf env r := rfl
  unfold Request.work Work.run
  rw [hload, hsettings]
  dsimp only
  rw [hbuilds.outcome]
  exact ⟨rfl, rfl⟩

/-- A failure of accepted arguments is the failure of the work. -/
theorem Fails.exists_work {f : Failure} (h : Fails tools d env args f) :
    ∃ r, Accepts tools d env args r ∧ (r.work tools d env).result = .error f := by
  cases h with
  | loading accepts load =>
    exact ⟨_, accepts, (work_of_load_error load).2⟩
  | building accepts load breaks =>
    exact ⟨_, accepts, (work_of_breaks load breaks).2⟩
  | writing reaches write =>
    refine ⟨_, reaches.accepts, ?_⟩
    rw [reaches.work.2, write]
    rfl

/-- The work of accepted arguments either comes as far as writing or leaves the
disk as it is, with a failure. -/
theorem Accepts.reaches_or (h : Accepts tools d env args r) :
    (∃ c, Reaches tools d env args r c) ∨
      ((r.work tools d env).disk = d ∧
        ∃ f, (r.work tools d env).result = .error f) := by
  cases hload : Source.load tools.readers d r.source with
  | error f =>
    have hwork : (r.work tools d env).disk = d ∧
        (r.work tools d env).result = .error f := work_of_load_error hload
    exact Or.inr ⟨hwork.1, f, hwork.2⟩
  | ok document =>
    rcases prepare_cases tools.engine document (sideOf env r) with
      ⟨c, -, hbuilds⟩ | ⟨f, -, hbreaks⟩
    · exact Or.inl ⟨c, h, document, hload, hbuilds⟩
    · obtain ⟨hdisk, hresult⟩ := work_of_breaks hload hbreaks
      exact Or.inr ⟨hdisk, f, hresult⟩

/-! ### The outcome of work -/

/-- The lines of a log, if it is asked for. -/
def logText (debug : Bool) (log : List LogRecord) : String :=
  if debug then String.join (log.map (·.line)) else ""

namespace Outcome

variable (shown : String → String) (debug : Bool) (out : Path) {w : Work}
  {f : Failure}

theorem ofWork_of_ok {paths : List Path} (h : w.result = .ok (paths, c)) :
    ofWork shown debug out w =
      ⟨0, shown (summary out paths c) ++ "\n", logText debug w.log, none,
        w.disk⟩ := by
  unfold ofWork
  rw [h]
  rfl

theorem ofWork_of_report {report : Report} (h : w.result = .error f)
    (hreport : f.report? = some report) :
    ofWork shown debug out w =
      ⟨1, "", logText debug w.log ++ shown ("Error: " ++ report.message) ++ "\n",
        none, w.disk⟩ := by
  unfold ofWork
  rw [h]
  dsimp only
  rw [hreport]
  rfl

theorem ofWork_of_uncaught (h : w.result = .error f) (hreport : f.report? = none) :
    ofWork shown debug out w =
      ⟨1, "", logText debug w.log, some f, w.disk⟩ := by
  unfold ofWork
  rw [h]
  dsimp only
  rw [hreport]
  rfl

/-- Work that fails ends with the exit code one. -/
theorem exitCode_ofWork_of_error (h : w.result = .error f) :
    (ofWork shown debug out w).exitCode = 1 := by
  cases hreport : f.report? with
  | none => rw [ofWork_of_uncaught shown debug out h hreport]
  | some report => rw [ofWork_of_report shown debug out h hreport]

theorem disk_ofWork (w : Work) : (ofWork shown debug out w).disk = w.disk := by
  cases hresult : w.result with
  | ok made => rw [ofWork_of_ok shown debug out hresult]
  | error f =>
    cases hreport : f.report? with
    | none => rw [ofWork_of_uncaught shown debug out hresult hreport]
    | some report => rw [ofWork_of_report shown debug out hresult hreport]

end Outcome

/-! ### The outcome of a run -/

/-- A run whose arguments are accepted is the outcome of its work. -/
theorem Accepts.run_eq (h : Accepts tools d env args r) :
    run tools d env args =
      Outcome.ofWork tools.shown (settingsOf env r).debug r.output
        (r.work tools d env) := by
  unfold run
  rw [show tools.arguments d env args = .request r from h]
  rfl

/-- A run whose arguments are not accepted leaves the disk as it is, and it
fails unless it is asked for help. -/
theorem run_of_not_accepts (h : ∀ r, ¬ Accepts tools d env args r) :
    (run tools d env args).disk = d ∧
      (¬ AsksHelp tools d env args → (run tools d env args).exitCode ≠ 0) := by
  unfold run
  cases hread : tools.arguments d env args with
  | help text => exact ⟨rfl, fun hasks => absurd ⟨text, hread⟩ hasks⟩
  | usage text => exact ⟨rfl, fun _ => Nat.succ_ne_zero 1⟩
  | uncaught f => exact ⟨rfl, fun _ => Nat.succ_ne_zero 0⟩
  | request r => exact absurd hread (h r)

/-- A run that comes as far as writing leaves the disk that writing leaves. -/
theorem Reaches.run_disk (h : Reaches tools d env args r c) :
    (run tools d env args).disk = (written d env r c).disk := by
  rw [h.accepts.run_eq, Outcome.disk_ofWork, h.work.1]

/-- A run that writes all files sums them up. -/
theorem Reaches.run_of_written (h : Reaches tools d env args r c)
    {paths : List Path} (hwritten : (written d env r c).result = .ok paths) :
    (run tools d env args).exitCode = 0 ∧
      (run tools d env args).output =
        tools.shown (summary r.output paths c) ++ "\n" := by
  have hresult : (r.work tools d env).result = .ok (paths, c) := by
    rw [h.work.2, hwritten]
    rfl
  rw [h.accepts.run_eq, Outcome.ofWork_of_ok _ _ _ hresult]
  exact ⟨rfl, rfl⟩

/-- A run that is not asked for help succeeds exactly if all its stages do. -/
theorem run_exitCode_eq_zero_iff (hhelp : ¬ AsksHelp tools d env args) :
    (run tools d env args).exitCode = 0 ↔
      ∃ r c paths, Reaches tools d env args r c ∧
        (written d env r c).result = .ok paths := by
  constructor
  · intro hzero
    by_cases haccepts : ∃ r, Accepts tools d env args r
    · obtain ⟨r, haccepts⟩ := haccepts
      have hfailed : ∀ {f}, (r.work tools d env).result = .error f → False := by
        intro f hresult
        rw [haccepts.run_eq,
          Outcome.exitCode_ofWork_of_error _ _ _ hresult] at hzero
        cases hzero
      rcases haccepts.reaches_or with ⟨c, hreaches⟩ | ⟨-, f, hfails⟩
      · cases hwritten : (written d env r c).result with
        | ok paths => exact ⟨r, c, paths, hreaches, hwritten⟩
        | error f =>
          refine absurd ?_ (hfailed (f := f))
          rw [hreaches.work.2, hwritten]
          rfl
      · exact absurd hfails hfailed
    · have hnone : ∀ r, ¬ Accepts tools d env args r := fun r h => haccepts ⟨r, h⟩
      exact absurd hzero ((run_of_not_accepts hnone).2 hhelp)
  · rintro ⟨r, c, paths, hreaches, hwritten⟩
    exact (hreaches.run_of_written hwritten).1

/-- **The stages of a run**, for any tools whose messages are written without
styles. A run that does not come as far as writing leaves the disk as it is. An
expected failure of any stage is reported, alone, in one line at the end. A run
that is not asked for help succeeds exactly if its arguments are accepted and all
stages succeed. A run that comes as far as writing leaves the disk that writing
leaves, and if it succeeds, it sums up what it has written. -/
theorem run_stages (tools : Tools) (hshown : ∀ s, tools.shown s = plain s)
    (d : Disk) (env : Environment) (args : List String) :
    ((∀ r c, ¬ Reaches tools d env args r c) →
      (run tools d env args).disk = d) ∧
    (∀ f report, Fails tools d env args f → f.report? = some report →
      (run tools d env args).exitCode = 1 ∧
      (run tools d env args).output = "" ∧
      ∃ log, (run tools d env args).errors =
        log ++ "Error: " ++ plain report.message ++ "\n") ∧
    (¬ AsksHelp tools d env args →
      ((run tools d env args).exitCode = 0 ↔
        ∃ r c paths, Reaches tools d env args r c ∧
          (written d env r c).result = .ok paths)) ∧
    (∀ r c, Reaches tools d env args r c →
      (run tools d env args).disk = (written d env r c).disk) ∧
    (∀ r c paths, Reaches tools d env args r c →
      (written d env r c).result = .ok paths →
      (run tools d env args).output =
        "Generated " ++ toString paths.length ++ " files in " ++
          plain r.output.text ++ " (" ++ toString c.methods ++
          " methods, " ++ toString c.definitions ++ " models, " ++
          toString c.enums ++ " enums)" ++ "\n") ∧
    (∀ message : String, escape ∉ message.toList → plain message = message) := by
  refine ⟨?_, ?_, run_exitCode_eq_zero_iff, fun r c h => h.run_disk,
    fun r c paths h hwritten => ?_, fun message h => plain_of_notMem h⟩
  · intro hnone
    by_cases haccepts : ∃ r, Accepts tools d env args r
    · obtain ⟨r, haccepts⟩ := haccepts
      rcases haccepts.reaches_or with ⟨c, hreaches⟩ | ⟨hdisk, -⟩
      · exact absurd hreaches (hnone r c)
      · rw [haccepts.run_eq, Outcome.disk_ofWork, hdisk]
    · exact (run_of_not_accepts fun r h => haccepts ⟨r, h⟩).1
  · intro f report hfails hreport
    obtain ⟨r, haccepts, hresult⟩ := hfails.exists_work
    have hline : tools.shown ("Error: " ++ report.message) =
        "Error: " ++ plain report.message := by
      rw [hshown, plain_append_of_notMem (by decide)]
    rw [haccepts.run_eq, Outcome.ofWork_of_report _ _ _ hresult hreport, hline]
    refine ⟨rfl, rfl, logText (settingsOf env r).debug (r.work tools d env).log, ?_⟩
    simp only [String.append_assoc]
  · rw [(h.run_of_written hwritten).2, hshown, plain_summary]

/-! ### Two small disks -/

/-- A disk with one file in the working directory. -/
def diskWith (name text : String) : Disk :=
  Disk.empty.put ⟨false, 0, [name]⟩ (.file text.toUTF8)

/-- A document of one model without properties. -/
def petDisk : Disk := diskWith "pet.yml" "definitions:\n  Pet:\n"

def petArgs : List String := ["pet.yml", "-o", "out", "--node"]

/-- The own reader of YAML gives trees of values only. -/
theorem exists_tree_of_load {p : Path} {document : Document}
    (hyaml : Source.isYaml p = true)
    (h : Source.load .own d p = .ok document) : ∃ v, document = .tree v := by
  unfold Source.load at h
  cases hread : Source.read d p with
  | error f => simp [bind, Except.bind, hread] at h
  | ok text =>
    cases hyamlRead : Yaml.read text with
    | error f =>
      cases hkind : f.kind? <;>
        simp [bind, Except.bind, hread, Source.parse, hyaml, Readers.own,
          hyamlRead, hkind] at h
    | ok v =>
      simp only [bind, Except.bind, hread, Source.parse, hyaml, Readers.own,
        hyamlRead, if_pos] at h
      split at h
      · exact ⟨v, (Except.ok.inj h).symm⟩
      · cases h

/-- The document of the pet becomes three files, and the run says so. -/
theorem run_stages_pet :
    ∃ r s paths,
      Reaches (.own "main") petDisk [] petArgs r (.ofService .literal s) ∧
      (written petDisk [] r (.ofService .literal s)).result = .ok paths ∧
      (run (.own "main") petDisk [] petArgs).disk =
        (written petDisk [] r (.ofService .literal s)).disk ∧
      (run (.own "main") petDisk [] petArgs).output =
        "Generated 3 files in out (0 methods, 1 models, 0 enums)\n" := by
  have hrequest : (Tools.own "main").arguments petDisk [] petArgs =
      .request ⟨.ofText "pet.yml", .ofText "out", some true, none, none⟩ := by
    decide +kernel
  have hhelp : ¬ AsksHelp (.own "main") petDisk [] petArgs := by
    rintro ⟨text, hasks⟩
    rw [hrequest] at hasks
    cases hasks
  have hrun : (run (.own "main") petDisk [] petArgs).exitCode = 0 ∧
      (run (.own "main") petDisk [] petArgs).output =
        "Generated 3 files in out (0 methods, 1 models, 0 enums)\n" := by
    decide +kernel
  obtain ⟨-, -, hsucceeds, hdisk, -⟩ :=
    run_stages (.own "main") (fun _ => rfl) petDisk [] petArgs
  obtain ⟨r, c, paths, hreaches, hwritten⟩ := (hsucceeds hhelp).1 hrun.1
  obtain ⟨document, hload, hbuilds⟩ := hreaches.builds
  have hsource : r.source = .ofText "pet.yml" := by
    rw [← Reading.request.inj (hrequest.symm.trans hreaches.accepts)]
  have hyaml : Source.isYaml r.source = true := by
    rw [hsource]
    decide +kernel
  obtain ⟨v, rfl⟩ := exists_tree_of_load hyaml hload
  cases hbuilds with
  | @tree _ s build =>
    have hleft := hdisk r _ hreaches
    have hengine : (Tools.own "main").engine = .literal := by
      simp only [Tools.own]
    rw [hengine] at hreaches hwritten hleft
    exact ⟨r, s, paths, hreaches, hwritten, hleft, hrun.2⟩

/-- A file that is no mapping, with a style in its name. -/
def styledDisk : Disk := diskWith "\x1b[31mx.json" "[]"

def styledArgs : List String := ["\x1b[31mx.json", "-o", "out"]

/-- The message of an expected failure is not always written as it is: a style
in the name of the source is lost. -/
theorem exists_report_restyled :
    ¬ ∀ (tools : Tools), (∀ s, tools.shown s = plain s) →
      ∀ (d : Disk) (env : Environment) (args : List String) (f : Failure)
        (report : Report), Fails tools d env args f →
      f.report? = some report →
      ∃ log rest, (run tools d env args).errors =
        log ++ "Error: " ++ report.message ++ rest := by
  intro h
  have haccepts : Accepts (.own "main") styledDisk [] styledArgs
      ⟨.ofText "\x1b[31mx.json", .ofText "out", none, none, none⟩ := by
    unfold Accepts
    decide +kernel
  have hload : Source.load .own styledDisk (.ofText "\x1b[31mx.json") =
      .error (.load (.ofText "\x1b[31mx.json") .notMapping) := rfl
  obtain ⟨log, rest, herrors⟩ := h (.own "main") (fun _ => rfl) styledDisk []
    styledArgs _ _ (Fails.loading haccepts hload) rfl
  have hwritten : (run (.own "main") styledDisk [] styledArgs).errors =
      "Error: Failed to load Swagger document from 'x.json': " ++
        "top level is not a mapping\n" := by
    decide +kernel
  -- The message has an escape character, and what is written has none.
  have hmessage : escape ∈ (Failure.loadReport (.ofText "\x1b[31mx.json")
      .notMapping).message.toList := by
    decide +kernel
  have hmem : escape ∈
      (run (.own "main") styledDisk [] styledArgs).errors.toList := by
    rw [herrors, String.toList_append, String.toList_append]
    exact List.mem_append_left _ (List.mem_append_right _ hmessage)
  rw [hwritten] at hmem
  exact absurd hmem (by decide +kernel)

end ClientGen.CommandLine
