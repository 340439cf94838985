import ClientGen.Proofs.Stages

/-!
# The debug setting

Whether a run is debugged is said by its arguments or else by a variable of the
environment. Runs that differ in nothing else (`SameButDebug`,
`SameButDebugVariable`) do the same work on the same disk, and only their
outcomes are told apart: the log stands in front of what a run has to say if it
is asked for, and nowhere if it is not (`run_of_sameButDebug`). This is so
whatever the tools of the run are, as long as they are those of both: runs whose
tools draw at random, be it the order of a set or a word of a template, differ in
nothing but the setting only if the same is drawn.

That arguments agree in all but the setting follows for the reader that the
program brings along if they agree once the flags are taken out
(`sameButDebug_withoutDebug`).
-/

namespace ClientGen.CommandLine

variable {d : Disk} {env env' : Environment} {args args' : List String}

/-! ### Arguments without the setting -/

namespace Arguments

/-- The arguments without what they say about debugging. -/
def undebugged (a : Arguments) : Arguments :=
  { a with given := a.given.filter (· ≠ .debug), debug := none }

/-- No check looks at the setting. -/
theorem check_undebugged (d : Disk) (a : Arguments) (p : Parameter) :
    check d a.undebugged p = check d a p := by
  cases p <;> rfl

/-- The checks of parameters, one after another. -/
def checkAll (d : Disk) (a : Arguments) (ps : List Parameter) :
    Except Refusal PUnit :=
  forIn ps PUnit.unit fun p _ => do
    check d a p
    return ForInStep.yield PUnit.unit

/-- What arguments ask for once they are checked. -/
def asked (a : Arguments) : Except Refusal Request :=
  match a.positional with
  | [] => .error (.usage .missingSource)
  | [s] =>
    .ok {
      source := .ofText s
      output := .ofText (a.output.getD "")
      node := a.node
      debug := a.debug
      templateDir := a.templateDir.map .ofText }
  | _ :: extra => .error (.usage (.unexpected extra))

theorem request_eq (d : Disk) (a : Arguments) :
    a.request d = checkAll d a a.checkOrder >>= fun _ => a.asked := rfl

/-- Nothing is checked where only the setting is given. -/
theorem checkAll_filter (d : Disk) (a : Arguments) (ps : List Parameter) :
    checkAll d a.undebugged (ps.filter (· ≠ .debug)) = checkAll d a ps := by
  unfold checkAll
  induction ps with
  | nil => rfl
  | cons p ps ih =>
    by_cases hp : p = .debug
    · subst hp
      rw [List.filter_cons_of_neg (by decide), ih, List.forIn_cons]
      rfl
    · rw [List.filter_cons_of_pos (by simpa using hp), List.forIn_cons,
        List.forIn_cons, check_undebugged]
      simp only [ih]

theorem asked_undebugged (a : Arguments) :
    a.undebugged.asked = a.asked.map fun r => { r with debug := none } := by
  have hpositional : a.undebugged.positional = a.positional := rfl
  unfold asked
  rw [hpositional]
  cases a.positional with
  | nil => rfl
  | cons s rest => cases rest <;> rfl

/-- The same is asked for, or refused for the same reason. -/
theorem request_undebugged (d : Disk) (a : Arguments) :
    a.undebugged.request d =
      (a.request d).map fun r => { r with debug := none } := by
  have horder : a.undebugged.checkOrder =
      a.checkOrder.filter (· ≠ .debug) := by
    rw [checkOrder, checkOrder, List.filter_append]
    rfl
  rw [request_eq, request_eq, horder, checkAll_filter, asked_undebugged]
  cases checkAll d a a.checkOrder <;> rfl

/-! ### Flags -/

theorem undebugged_undebugged (a : Arguments) :
    a.undebugged.undebugged = a.undebugged := by
  simp [undebugged]

theorem undebugged_addPositional (a : Arguments) (args : List String) :
    (a.addPositional args).undebugged = a.undebugged.addPositional args := rfl

/-- A flag of the setting leaves the rest as it is. -/
theorem undebugged_setDebug (a : Arguments) (on : Bool) (value : String) :
    (a.carryOut (.setDebug on) value).undebugged = a.undebugged := by
  simp [carryOut, undebugged]

/-- All other options do the same to the rest. -/
theorem undebugged_carryOut (a : Arguments) {action : Action}
    (h : ∀ on, action ≠ .setDebug on) (value : String) :
    (a.carryOut action value).undebugged =
      a.undebugged.carryOut action value := by
  cases action with
  | setDebug on => exact absurd rfl (h on)
  | _ => simp [carryOut, undebugged]

/-- Arguments without the flags of the setting, as far as they are read as
options. -/
def withoutDebug : List String → List String
  | [] => []
  | arg :: rest =>
    if arg = "--" then arg :: rest
    else if !isOption arg then arg :: withoutDebug rest
    else
      match interpret arg with
      | .error _ => arg :: rest
      | .ok (_, action, value) =>
        match action.takesValue, value with
        | true, some _ => arg :: withoutDebug rest
        | true, none =>
          match rest with
          | [] => [arg]
          | v :: after => arg :: v :: withoutDebug after
        | false, some _ => arg :: rest
        | false, none =>
          match action with
          | .setDebug _ => withoutDebug rest
          | _ => arg :: withoutDebug rest

private theorem ne_setDebug_of_takesValue {action : Action}
    (h : action.takesValue = true) (on : Bool) : action ≠ .setDebug on := by
  rintro rfl
  cases h

/-- Once another option is carried out, what follows it ends alike. -/
private theorem map_readFrom_carryOut {action : Action} {args args' : List String}
    (hother : ∀ on, action ≠ .setDebug on)
    (ih : ∀ a : Arguments, (readFrom a.undebugged args').map undebugged =
      (readFrom a args).map undebugged) (a : Arguments) (value : String) :
    (readFrom (a.undebugged.carryOut action value) args').map undebugged =
      (readFrom (a.carryOut action value) args).map undebugged := by
  rw [← undebugged_carryOut a hother]
  exact ih _

/-- Reading arguments and reading them without the flags of the setting ends
alike in all other parameters, or with the same error. -/
theorem readFrom_withoutDebug (a : Arguments) (args : List String) :
    (readFrom a.undebugged (withoutDebug args)).map undebugged =
      (readFrom a args).map undebugged := by
  fun_induction withoutDebug args generalizing a with
  | case1 =>
    show Except.ok a.undebugged.undebugged = Except.ok a.undebugged
    rw [undebugged_undebugged]
  | case2 rest =>
    simp only [readFrom, if_true]
    show Except.ok (a.undebugged.addPositional rest).undebugged =
      Except.ok (a.addPositional rest).undebugged
    rw [← undebugged_addPositional, undebugged_undebugged]
  | case3 arg rest hdashes hpositional ih =>
    simp only [readFrom, if_neg hdashes, if_pos hpositional]
    rw [← undebugged_addPositional]
    exact ih _
  | case4 arg rest hdashes hoption e herror =>
    simp only [readFrom, hdashes, hoption, herror]
    rfl
  | case5 arg rest hdashes hoption name action v htakes hinterpret ih =>
    simp only [readFrom, hdashes, hoption, hinterpret, htakes]
    exact map_readFrom_carryOut (ne_setDebug_of_takesValue htakes) ih a v
  | case6 arg hdashes hoption name action htakes hinterpret =>
    simp only [readFrom, hdashes, hoption, hinterpret, htakes]
    rfl
  | case7 arg hdashes hoption name action htakes v rest hinterpret ih =>
    simp only [readFrom, hdashes, hoption, hinterpret, htakes]
    exact map_readFrom_carryOut (ne_setDebug_of_takesValue htakes) ih a v
  | case8 arg rest hdashes hoption name action v htakes hinterpret =>
    simp only [readFrom, hdashes, hoption, hinterpret, htakes]
    rfl
  | case9 arg rest hdashes hoption name on htakes hinterpret ih =>
    have hflag : readFrom a (arg :: rest) =
        readFrom (a.carryOut (.setDebug on) "") rest := by
      simp only [readFrom, hdashes, hoption, hinterpret]
      rfl
    rw [hflag, ← ih (a.carryOut (.setDebug on) ""), undebugged_setDebug]
  | case10 arg rest hdashes hoption name action htakes hother hinterpret ih =>
    simp only [readFrom, hdashes, hoption, hinterpret, htakes]
    exact map_readFrom_carryOut hother ih a ""

end Arguments

/-- What arguments come to, without what they say about debugging. -/
def Reading.undebugged : Reading → Reading
  | .request r => .request { r with debug := none }
  | .help text => .help text
  | .usage text => .usage text
  | .uncaught f => .uncaught f

/-- Arguments that come to the same but for the debug setting. -/
def SameButDebug (tools : Tools) (d : Disk) (env env' : Environment)
    (args args' : List String) : Prop :=
  (tools.arguments d env args).undebugged =
    (tools.arguments d env' args').undebugged

/-- Environments that agree in all variables but that of the debug setting. -/
def SameButDebugVariable (env env' : Environment) : Prop :=
  ∀ name, name ≠ Settings.debugVariable → env.lookup name = env'.lookup name

/-- Whether a run is debugged. -/
def debugs (tools : Tools) (d : Disk) (env : Environment) (args : List String) :
    Bool :=
  match tools.arguments d env args with
  | .request r => r.debug.getD (Settings.ofEnvironment env).debug
  | _ => false

/-- What a run says on the error stream besides the log: nothing, what the reader
of its arguments says, or why it failed. -/
inductive Complaint (tools : Tools) (d : Disk) (env : Environment)
    (args : List String) : String → Prop
  | nothing : Complaint tools d env args ""
  | usage {text : String} (h : tools.arguments d env args = .usage text) :
      Complaint tools d env args text
  | failure (report : Report) :
      Complaint tools d env args (tools.shown ("Error: " ++ report.message) ++ "\n")

/-- Two outcomes that differ in nothing but the log, which each of them has on
the error stream if it is asked for. Otherwise there is the same complaint on
it. -/
structure SameButLog (complaint : String → Prop) (on on' : Bool)
    (o o' : Outcome) : Prop where
  exitCode : o.exitCode = o'.exitCode
  output : o.output = o'.output
  uncaught : o.uncaught = o'.uncaught
  disk : o.disk = o'.disk
  errors : ∃ log message, complaint message ∧
    o.errors = logText on log ++ message ∧
    o'.errors = logText on' log ++ message

/-! ### Flags of the program -/

/-- Requests that are accepted, or refused for the same reason, apart from the
debug setting. -/
theorem request_congr {a a' : Arguments} (h : a.undebugged = a'.undebugged)
    (d : Disk) :
    (a.request d).map (fun r => { r with debug := none }) =
      (a'.request d).map fun r => { r with debug := none } := by
  rw [← a.request_undebugged d, h, a'.request_undebugged d]

/-- Results that agree after a map are the same error, or results that the map
takes to one. -/
private theorem cases_of_map_eq_map {ε α β : Type} {f : α → β}
    {x y : Except ε α} (h : x.map f = y.map f) :
    (∃ e, x = .error e ∧ y = .error e) ∨
      ∃ a b, x = .ok a ∧ y = .ok b ∧ f a = f b := by
  cases x with
  | error e =>
    cases y with
    | error e' =>
      cases h
      exact Or.inl ⟨e, rfl, rfl⟩
    | ok b => cases h
  | ok a =>
    cases y with
    | error e => cases h
    | ok b => exact Or.inr ⟨a, b, rfl, rfl, Except.ok.inj h⟩

/-- Arguments that are the same but for the setting come to the same. -/
theorem undebugged_reading_congr (program : String) (d : Disk)
    {args args' : List String}
    (h : (Arguments.read args).map Arguments.undebugged =
      (Arguments.read args').map Arguments.undebugged) :
    (Arguments.reading program d args).undebugged =
      (Arguments.reading program d args').undebugged := by
  unfold Arguments.reading
  rcases cases_of_map_eq_map h with
    ⟨e, hread, hread'⟩ | ⟨a, a', hread, hread', hsame⟩
  · rw [hread, hread']
  · rw [hread, hread']
    dsimp only
    have hhelp : a.undebugged.help = a'.undebugged.help := by rw [hsame]
    replace hhelp : a.help = a'.help := hhelp
    rw [hhelp]
    cases a'.help with
    | true => rfl
    | false =>
      rw [if_neg Bool.false_ne_true, if_neg Bool.false_ne_true]
      rcases cases_of_map_eq_map (request_congr hsame d) with
        ⟨refusal, hr, hr'⟩ | ⟨r, r', hr, hr', hrequest⟩
      · rw [hr, hr']
      · rw [hr, hr']
        exact congrArg Reading.request hrequest

/-- Flags of the setting change nothing else, wherever they stand. -/
theorem sameButDebug_withoutDebug (program : String) (d : Disk)
    (env env' : Environment) (args : List String) :
    SameButDebug (.own program) d env env' args (Arguments.withoutDebug args) :=
  undebugged_reading_congr program d
    (Arguments.readFrom_withoutDebug .empty args).symm

/-! ### Runs that do the same work -/

theorem SameButDebugVariable.settings (h : SameButDebugVariable env env') :
    (Settings.ofEnvironment env).onServer =
        (Settings.ofEnvironment env').onServer ∧
      (Settings.ofEnvironment env).templateDir =
        (Settings.ofEnvironment env').templateDir := by
  have hnode : env.lookup Settings.onServerVariable =
      env'.lookup Settings.onServerVariable := h _ (by decide)
  have htemplates : env.lookup Settings.templateDirVariable =
      env'.lookup Settings.templateDirVariable := h _ (by decide)
  simp only [Settings.ofEnvironment, Settings.isOn, hnode, htemplates,
    and_self]

/-- Requests that differ in the debug setting only ask for the same work. -/
theorem work_congr (tools : Tools) (h : SameButDebugVariable env env')
    {r r' : Request}
    (hr : { r with debug := none } = { r' with debug := none }) :
    r.work tools d env = r'.work tools d env' := by
  obtain ⟨source, output, node, debug, templateDir⟩ := r
  obtain ⟨source', output', node', debug', templateDir'⟩ := r'
  simp only [Request.mk.injEq] at hr
  obtain ⟨rfl, rfl, rfl, -, rfl⟩ := hr
  obtain ⟨hnode, htemplates⟩ := h.settings
  simp only [Request.work, settingsOf, hnode, htemplates]

/-- An outcome without a log is the same whether or not it is asked for. -/
theorem sameButLog_of_complaint {complaint : String → Prop} {o : Outcome}
    (h : complaint o.errors) (on on' : Bool) :
    SameButLog complaint on on' o o := by
  have hnone : ∀ on, logText on [] = "" := by
    intro on
    cases on <;> rfl
  refine ⟨rfl, rfl, rfl, rfl, [], o.errors, h, ?_, ?_⟩
  · rw [hnone, String.empty_append]
  · rw [hnone, String.empty_append]

/-- The outcomes of the same work differ in nothing but the log. -/
theorem sameButLog_ofWork (tools : Tools) (env : Environment)
    (args : List String) (on on' : Bool) (out : Path) (w : Work) :
    SameButLog (Complaint tools d env args) on on' (.ofWork tools.shown on out w)
      (.ofWork tools.shown on' out w) := by
  cases hresult : w.result with
  | ok made =>
    rw [Outcome.ofWork_of_ok _ on out hresult, Outcome.ofWork_of_ok _ on' out hresult]
    refine ⟨rfl, rfl, rfl, rfl, w.log, "", .nothing, ?_, ?_⟩
    · rw [String.append_empty]
    · rw [String.append_empty]
  | error f =>
    cases hreport : f.report? with
    | none =>
      rw [Outcome.ofWork_of_uncaught _ on out hresult hreport,
        Outcome.ofWork_of_uncaught _ on' out hresult hreport]
      refine ⟨rfl, rfl, rfl, rfl, w.log, "", .nothing, ?_, ?_⟩
      · rw [String.append_empty]
      · rw [String.append_empty]
    | some report =>
      rw [Outcome.ofWork_of_report _ on out hresult hreport,
        Outcome.ofWork_of_report _ on' out hresult hreport]
      refine ⟨rfl, rfl, rfl, rfl, w.log, _, .failure report, ?_, ?_⟩
      · exact String.append_assoc
      · exact String.append_assoc

/-- Arguments that come to the same but for the debug setting come to the same,
or to requests that differ in it only. -/
theorem SameButDebug.cases {tools : Tools} (h : SameButDebug tools d env env' args args') :
    (tools.arguments d env args = tools.arguments d env' args' ∧
      ∀ r, tools.arguments d env args ≠ .request r) ∨
    ∃ r r', tools.arguments d env args = .request r ∧
      tools.arguments d env' args' = .request r' ∧
      { r with debug := none } = { r' with debug := none } := by
  unfold SameButDebug at h
  cases hread : tools.arguments d env args with
  | request r =>
    cases hread' : tools.arguments d env' args' with
    | request r' =>
      rw [hread, hread'] at h
      exact Or.inr ⟨r, r', rfl, rfl, Reading.request.inj h⟩
    | _ =>
      rw [hread, hread'] at h
      cases h
  | _ =>
    cases hread' : tools.arguments d env' args' <;> rw [hread, hread'] at h <;>
      cases h
    exact Or.inl ⟨rfl, nofun⟩

/-- The arguments of the pet with a flag of the setting among them. -/
def debuggedArgs : List String :=
  ["pet.yml", "--debug", "-o", "out", "--node"]

end ClientGen.CommandLine
