import ClientGen.Generate
import ClientGen.Proofs.Identifier

/-!
# The files of a client

A file is written exactly if it can be named and rendered and the disk takes it
(`writeOne_eq_ok`). A generation that succeeds has written every file of its
plan, in order (`paths_of_run`), so that the paths that it returns are those of
the plan. The file of a model lies in the directory of the models under the
name of the model in lower case (`path_model`), as long as that name has no
slash in it.
-/

namespace ClientGen

namespace Path

/-- A text without slashes is the path of one name. -/
theorem ofText_of_slash_notMem {s : String} (hslash : '/' ∉ s.toList)
    (hempty : s ≠ "") (hdot : s ≠ ".") : ofText s = ⟨"", [s]⟩ := by
  have hroot : rootOf s.toList = "" := by
    unfold rootOf
    split
    · next h => exact absurd (by rw [h]; exact List.mem_cons_self) hslash
    · next h => exact absurd (by rw [h]; exact List.mem_cons_self) hslash
    · next h => exact absurd (by rw [h]; exact List.mem_cons_self) hslash
    · rfl
  rw [ofText, List.splitOn_eq_singleton hslash, hroot]
  simp [String.ofList_toList, hempty, hdot]

/-- A text without slashes becomes the last name of a path. -/
theorem child_of_slash_notMem (p : Path) {s : String} (hslash : '/' ∉ s.toList)
    (hempty : s ≠ "") (hdot : s ≠ ".") :
    p.child s = ⟨p.root, p.names ++ [s]⟩ := by
  rw [child, ofText_of_slash_notMem hslash hempty hdot]
  rfl

end Path

namespace Output

/-- The file of a model module, given its name up to the endings. -/
def modelPath (out : Path) (module : String) : Path :=
  ⟨out.root, out.names ++ ["models", module ++ ".model.ts"]⟩

theorem modelsDir_eq (out : Path) :
    modelsDir out = ⟨out.root, out.names ++ ["models"]⟩ := by
  have hslash : '/' ∉ "models".toList := by decide
  exact out.child_of_slash_notMem hslash (by decide) (by decide)

/-- The path of the file of a model that has a name. -/
theorem path_of_name (set : TemplateSet) (out : Path) {d : Definition}
    {n : String} (hname : d.name = some n) :
    (model set out d).path = .ok ((modelsDir out).child (modelFile n)) := by
  rw [model, hname]

/-- A model whose file has a path has a name. -/
theorem name_of_path {set : TemplateSet} {out p : Path} {d : Definition}
    (h : (model set out d).path = .ok p) :
    ∃ n, d.name = some n ∧ p = (modelsDir out).child (modelFile n) := by
  cases hname : d.name with
  | none => simp [model, hname] at h
  | some n =>
    rw [path_of_name set out hname] at h
    exact ⟨n, rfl, (Except.ok.inj h).symm⟩

/-- The file of a model whose name has no slash. -/
theorem path_model (set : TemplateSet) (out : Path) {d : Definition}
    {n : String} (hname : d.name = some n) (hslash : '/' ∉ n.toList) :
    (model set out d).path = .ok (modelPath out (Text.lower n)) := by
  have hchars : (modelFile n).toList =
      (Text.lower n).toList ++ ".model.ts".toList := by
    rw [modelFile, String.toList_append]
  have hfree : '/' ∉ (modelFile n).toList := by
    rw [hchars, List.mem_append]
    rintro (h | h)
    · exact Text.slash_notMem_lower hslash h
    · exact absurd h (by decide)
  have hlength : 9 ≤ (modelFile n).toList.length := by
    have hending : ".model.ts".toList.length = 9 := rfl
    rw [hchars, List.length_append]
    omega
  have hempty : modelFile n ≠ "" := by
    intro h
    rw [h] at hlength
    exact absurd hlength (by decide)
  have hdot : modelFile n ≠ "." := by
    intro h
    rw [h] at hlength
    exact absurd hlength (by decide)
  rw [path_of_name set out hname, Path.child_of_slash_notMem _ hfree hempty hdot, modelsDir_eq,
    List.append_assoc]
  rfl

/-- The files of a plan are that of the service, those of its models and the one
that exports them, each in its turn. -/
theorem mem_plan {sets : Nat → TemplateSet} {s : Service} {out : Path}
    {o : Output} :
    o ∈ plan sets s out ↔
      o = service (sets 0) s out ∨
      (∃ i, ∃ h : i < s.definitions.length,
        o = model (sets (i + 1)) out s.definitions[i]) ∨
      o = barrel (sets (s.definitions.length + 1)) s out := by
  rw [plan, List.mem_cons, List.mem_append, List.mem_mapIdx, List.mem_singleton]
  simp only [eq_comm]

/-- The file of each model is planned. -/
theorem exists_model_mem_plan (sets : Nat → TemplateSet) (out : Path)
    {s : Service} {d : Definition} (hd : d ∈ s.definitions) :
    ∃ turn, model (sets turn) out d ∈ plan sets s out := by
  obtain ⟨i, hi, rfl⟩ := List.mem_iff_getElem.1 hd
  exact ⟨i + 1, mem_plan.2 (Or.inr (Or.inl ⟨i, hi, rfl⟩))⟩

/-- A plan around the file of one model: the files of later models follow it, and
then the one that exports them. -/
theorem plan_of_split (sets : Nat → TemplateSet) (out : Path) {s : Service}
    {earlier later : List Definition} {own : Definition}
    (h : s.definitions = earlier ++ own :: later) :
    ∃ before after, plan sets s out =
        before ++ model (sets (earlier.length + 1)) out own :: after ∧
      ∀ o ∈ after, (∃ turn, ∃ other ∈ later, o = model (sets turn) out other) ∨
        ∃ turn, o = barrel (sets turn) s out := by
  refine ⟨service (sets 0) s out ::
      earlier.mapIdx (fun i d => model (sets (i + 1)) out d),
    later.mapIdx (fun i d =>
        model (sets (i + 1 + earlier.length + 1)) out d) ++
      [barrel (sets (s.definitions.length + 1)) s out], ?_, ?_⟩
  · rw [plan, h, List.mapIdx_append, List.mapIdx_cons, Nat.zero_add]
    simp only [List.cons_append, List.append_assoc]
  · intro o ho
    rcases List.mem_append.1 ho with ho | ho
    · obtain ⟨i, hi, rfl⟩ := List.mem_mapIdx.1 ho
      exact Or.inl ⟨_, later[i], List.getElem_mem hi, rfl⟩
    · exact Or.inr ⟨_, List.mem_singleton.1 ho⟩

end Output

namespace Generation

/-- A file is written exactly if it can be named and rendered and the disk
takes it. -/
theorem writeOne_eq_ok {d d' : Disk} {o : Output} {p : Path} :
    writeOne d o = .ok (p, d') ↔
      ∃ text, o.path = .ok p ∧ o.text = .ok text ∧
        d.writeFile p text.toUTF8 = .ok d' := by
  unfold writeOne
  cases o.path with
  | error f => simp [bind, Except.bind]
  | ok q =>
    cases o.text with
    | error f =>
      simp only [bind, Except.bind]
      constructor
      · intro h
        cases f with
        | notEncodable =>
          simp only at h
          split at h <;> cases h
        | _ => cases h
      · rintro ⟨text', -, ht, -⟩
        cases ht
    | ok text =>
      cases hdisk : d.writeFile q text.toUTF8 with
      | error t =>
        simp only [bind, Except.bind, hdisk]
        constructor
        · intro h
          cases h
        · rintro ⟨text', hp, ht, hd⟩
          cases hp
          cases ht
          rw [hdisk] at hd
          cases hd
      | ok made =>
        simp only [bind, Except.bind, hdisk]
        constructor
        · intro h
          cases h
          exact ⟨text, rfl, rfl, hdisk⟩
        · rintro ⟨text', hp, ht, hd⟩
          cases hp
          cases ht
          rw [hdisk] at hd
          cases hd
          rfl

/-- Files that are all written have the paths that they were planned at. -/
theorem paths_of_writeAll {d : Disk} {os : List Output} {paths : List Path}
    (h : (writeAll d os).result = .ok paths) :
    os.map (·.path) = paths.map .ok := by
  induction os generalizing d paths with
  | nil =>
    cases h
    rfl
  | cons o os ih =>
    cases hone : writeOne d o with
    | error f =>
      rw [writeAll_cons_error hone] at h
      cases h
    | ok written =>
      obtain ⟨p, d'⟩ := written
      rw [writeAll_cons_ok hone] at h
      change ((writeAll d' os).result.map (p :: ·)) = _ at h
      cases hrest : (writeAll d' os).result with
      | error f => rw [hrest] at h; cases h
      | ok rest =>
        rw [hrest] at h
        cases h
        obtain ⟨text, hpath, -, -⟩ := writeOne_eq_ok.1 hone
        rw [List.map_cons, List.map_cons, ih hrest, hpath]

variable {engine : Engine} {s : Service} {out : Path} {disk : Disk}
  {paths : List Path}

/-- A generation that succeeds returns the paths of its plan. -/
theorem paths_of_run (h : (run engine none s out disk).result = .ok paths) :
    (Output.plan (fun _ => .packaged) s out).map (·.path) = paths.map .ok := by
  unfold run at h
  split at h
  · cases h
  · next d' _ =>
    have hfinish : ∀ g : Generation, g.finish.result = g.result := by
      intro g
      unfold finish
      split <;> rfl
    exact paths_of_writeAll ((hfinish _).symm.trans h)

/-- A generation that succeeds returns the path of each model. -/
theorem modelPath_mem_of_run
    (h : (run engine none s out disk).result = .ok paths) {d : Definition}
    (hd : d ∈ s.definitions) {n : String} (hname : d.name = some n)
    (hslash : '/' ∉ n.toList) :
    Output.modelPath out (Text.lower n) ∈ paths := by
  obtain ⟨turn, hplanned⟩ :=
    Output.exists_model_mem_plan (fun _ => .packaged) out hd
  have hpath := Output.path_model .packaged out hname hslash
  have hmem : Except.ok (Output.modelPath out (Text.lower n)) ∈
      (Output.plan (fun _ => .packaged) s out).map (·.path) :=
    List.mem_map.2 ⟨_, hplanned, hpath⟩
  rw [paths_of_run h] at hmem
  obtain ⟨p, hp, hsame⟩ := List.mem_map.1 hmem
  cases hsame
  exact hp

end Generation

end ClientGen
