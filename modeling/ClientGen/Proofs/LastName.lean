import ClientGen.Proofs.Disk
import ClientGen.Proofs.Output

/-!
# The last name of a path

How the files of a client are told apart on a disk: by the ends of their names.
A path leads to a place with the last name that the path has
(`Disk.exists_of_resolve`), so that files whose names end differently lie at
different places (`Disk.ne_of_resolve`), whatever the directories are. All files
of a client are scripts (`Output.lastEndsIn_of_mem_plan`).
-/

namespace ClientGen

/-- The last of some names has an ending. -/
def LastEndsIn (names : List String) (ending : String) : Prop :=
  ∃ init last, names = init ++ [last] ∧ ending.toList <:+ last.toList

/-- Names with different endings of the same length are different. -/
theorem LastEndsIn.ne {names names' : List String} {a b : String}
    (h : LastEndsIn names a) (h' : LastEndsIn names' b)
    (hlength : a.toList.length = b.toList.length) (hab : a ≠ b) :
    names ≠ names' := by
  rintro rfl
  obtain ⟨init, last, rfl, ha⟩ := h
  obtain ⟨init', last', hsame, hb⟩ := h'
  obtain ⟨-, hlast⟩ := List.append_inj' hsame rfl
  cases hlast
  have hshorter := List.suffix_of_suffix_length_le ha hb (Nat.le_of_eq hlength)
  exact hab (String.toList_inj.1 (hshorter.eq_of_length hlength))

theorem LastEndsIn.append {names : List String} {ending : String}
    (h : LastEndsIn names ending) (before : List String) :
    LastEndsIn (before ++ names) ending := by
  obtain ⟨init, last, rfl, hlast⟩ := h
  exact ⟨before ++ init, last, (List.append_assoc _ _ _).symm, hlast⟩

/-- The last piece of a text takes what comes after the text, if that has no
delimiter. -/
theorem exists_splitOn_append {c : Char} {ending : List Char}
    (hending : c ∉ ending) (cs : List Char) :
    ∃ init last, cs.splitOn c = init ++ [last] ∧
      (cs ++ ending).splitOn c = init ++ [last ++ ending] := by
  induction cs with
  | nil => exact ⟨[], [], List.splitOn_nil c, List.splitOn_eq_singleton hending⟩
  | cons x cs ih =>
    obtain ⟨init, last, hpieces, hsplit⟩ := ih
    rw [List.cons_append, List.splitOn_cons_eq_if_modifyHead,
      List.splitOn_cons_eq_if_modifyHead, hpieces, hsplit]
    by_cases hx : (x == c) = true
    · rw [if_pos hx, if_pos hx]
      exact ⟨[] :: init, last, rfl, rfl⟩
    · rw [if_neg hx, if_neg hx]
      cases init with
      | nil => exact ⟨[], x :: last, rfl, rfl⟩
      | cons piece init => exact ⟨(x :: piece) :: init, last, rfl, rfl⟩

/-- The path of a text has the ending of the text. -/
theorem lastEndsIn_ofText {s ending : String}
    (hs : ending.toList <:+ s.toList) (hslash : '/' ∉ ending.toList)
    (hlength : 1 < ending.toList.length) :
    LastEndsIn (Path.ofText s).names ending := by
  obtain ⟨cs, hcs⟩ := hs
  obtain ⟨init, last, -, hsplit⟩ := exists_splitOn_append hslash cs
  obtain ⟨name, hname⟩ : ∃ name, name = String.ofList (last ++ ending.toList) :=
    ⟨_, rfl⟩
  have hchars : name.toList = last ++ ending.toList := by
    rw [hname, String.toList_ofList]
  have hlong : 1 < name.toList.length := by
    rw [hchars, List.length_append]
    omega
  have hempty : name ≠ "" := by
    rintro rfl
    exact absurd hlong (by decide)
  have hdot : name ≠ "." := by
    rintro rfl
    exact absurd hlong (by decide)
  refine ⟨(init.map String.ofList).filter fun n => n != "" && n != ".", name,
    ?_, ?_⟩
  · have hpieces : (s.toList.splitOn '/').map String.ofList =
        init.map String.ofList ++ [name] := by
      rw [← hcs, hsplit, hname, List.map_append, List.map_singleton]
    simp [Path.ofText, hpieces, hempty, hdot]
  · rw [hchars]
    exact List.suffix_append _ _

theorem lastEndsIn_child (p : Path) {s ending : String}
    (hs : ending.toList <:+ s.toList) (hslash : '/' ∉ ending.toList)
    (hlength : 1 < ending.toList.length) :
    LastEndsIn (p.child s).names ending := by
  have hend := lastEndsIn_ofText hs hslash hlength
  unfold Path.child Path.join
  split
  · exact hend
  · exact hend.append p.names

/-- A path leads to a place with its last name. -/
theorem Disk.exists_of_resolve {d : Disk} {p : Path} {q : Place}
    {init : List String} {last : String} (hnames : p.names = init ++ [last])
    (hup : last ≠ "..") (hq : d.resolve p = .ok q) :
    ∃ names, q.names = names ++ [last] := by
  obtain ⟨-, hfollow⟩ := Disk.resolve_eq_ok.1 hq
  rw [hnames] at hfollow
  obtain ⟨m, -, hm⟩ := Disk.follow_append_eq_ok.1 hfollow
  obtain ⟨-, -, hend⟩ := Disk.follow_cons_eq_ok.1 hm
  rw [Place.next, if_neg hup] at hend
  cases hend
  exact ⟨m.names, rfl⟩

/-- Paths that lead to one place have the same last name. -/
theorem Disk.last_eq_of_resolve {d : Disk} {p p' : Path} {q : Place}
    {init init' : List String} {last last' : String}
    (hnames : p.names = init ++ [last]) (hnames' : p'.names = init' ++ [last'])
    (hup : last ≠ "..") (hup' : last' ≠ "..") (hq : d.resolve p = .ok q)
    (hq' : d.resolve p' = .ok q) : last = last' := by
  obtain ⟨names, hplace⟩ := Disk.exists_of_resolve hnames hup hq
  obtain ⟨names', hplace'⟩ := Disk.exists_of_resolve hnames' hup' hq'
  obtain ⟨-, hlast⟩ := List.append_inj' (hplace.symm.trans hplace') rfl
  exact List.cons.inj hlast |>.1

theorem lastEndsIn_of_resolve {d : Disk} {p : Path} {q : Place}
    {ending : String} (h : LastEndsIn p.names ending)
    (hlength : 2 < ending.toList.length) (hq : d.resolve p = .ok q) :
    LastEndsIn q.names ending := by
  obtain ⟨init, last, hnames, hlast⟩ := h
  have hup : last ≠ ".." := by
    rintro rfl
    have hle := hlast.length_le
    have htwo : "..".toList.length = 2 := rfl
    omega
  obtain ⟨names, hplace⟩ := Disk.exists_of_resolve hnames hup hq
  exact ⟨names, last, hplace, hlast⟩

/-- Paths with different endings of the same length lead to different places. -/
theorem Disk.ne_of_resolve {d : Disk} {p p' : Path} {q q' : Place}
    {a b : String} (h : LastEndsIn p.names a) (h' : LastEndsIn p'.names b)
    (hlength : a.toList.length = b.toList.length) (hlong : 2 < a.toList.length)
    (hab : a ≠ b) (hq : d.resolve p = .ok q) (hq' : d.resolve p' = .ok q') :
    q ≠ q' := by
  have hends := lastEndsIn_of_resolve h hlong hq
  have hends' := lastEndsIn_of_resolve h' (hlength ▸ hlong) hq'
  exact fun hsame => hends.ne hends' hlength hab (by rw [hsame])

namespace Output

/-- The file of a model has an ending of its own. -/
theorem modelEnding_suffix (n : String) :
    ".model.ts".toList <:+ (modelFile n).toList := by
  rw [modelFile, String.toList_append]
  exact List.suffix_append _ _

/-- The file of a model lies at another place than the file that exports the
models. -/
theorem place_ne_barrel {d : Disk} {out directory : Path} {n : String}
    {q q' : Place} (hq : d.resolve (directory.child (modelFile n)) = .ok q)
    (hq' : d.resolve (out.child "models.ts") = .ok q') : q ≠ q' := by
  have hmodel := lastEndsIn_child directory (modelEnding_suffix n) (by decide)
    (by decide)
  have hbarrel : LastEndsIn (out.child "models.ts").names "models.ts" :=
    lastEndsIn_child out (List.suffix_refl _) (by decide) (by decide)
  exact Disk.ne_of_resolve hmodel hbarrel (by decide) (by decide) (by decide) hq hq'

/-- The file of a model lies at another place than that of the service. -/
theorem place_ne_service {d : Disk} {out directory : Path} {n : String}
    {q q' : Place} (hq : d.resolve (directory.child (modelFile n)) = .ok q)
    (hq' : d.resolve (out.child "index.ts") = .ok q') : q ≠ q' := by
  have hending : "model.ts".toList <:+ (modelFile n).toList :=
    List.IsSuffix.trans (by decide) (modelEnding_suffix n)
  have hmodel := lastEndsIn_child directory hending (by decide) (by decide)
  have hservice : LastEndsIn (out.child "index.ts").names "index.ts" :=
    lastEndsIn_child out (List.suffix_refl _) (by decide) (by decide)
  exact Disk.ne_of_resolve hmodel hservice (by decide) (by decide) (by decide) hq hq'

/-- Model files that lie at one place are named alike. -/
theorem module_eq_of_resolve {d : Disk} {out : Path} {m m' : String}
    {q : Place} (hq : d.resolve (modelPath out m) = .ok q)
    (hq' : d.resolve (modelPath out m') = .ok q) : m = m' := by
  have hnames : ∀ module, (modelPath out module).names =
      (out.names ++ ["models"]) ++ [module ++ ".model.ts"] :=
    fun module => (List.append_assoc out.names ["models"] _).symm
  have hup : ∀ module : String, module ++ ".model.ts" ≠ ".." := by
    intro module h
    have hlength := congrArg (fun s => s.toList.length) h
    simp only [String.toList_append, List.length_append] at hlength
    have hending : ".model.ts".toList.length = 9 := rfl
    have hdots : "..".toList.length = 2 := rfl
    omega
  have hlast := Disk.last_eq_of_resolve (hnames m) (hnames m') (hup m) (hup m')
    hq hq'
  exact String.append_left_inj _ |>.1 hlast

/-- All files of a client are scripts. -/
theorem lastEndsIn_of_mem_plan {sets : Nat → TemplateSet} {s : Service}
    {out : Path} {o : Output} (ho : o ∈ plan sets s out) {p : Path}
    (hp : o.path = .ok p) : LastEndsIn p.names ".ts" := by
  have hscript : ∀ (directory : Path) {file : String},
      ".ts".toList <:+ file.toList →
      LastEndsIn (directory.child file).names ".ts" :=
    fun directory _ hfile =>
      lastEndsIn_child directory hfile (by decide) (by decide)
  rcases mem_plan.1 ho with rfl | ⟨i, hi, rfl⟩ | rfl
  · obtain rfl : out.child "index.ts" = p := Except.ok.inj hp
    exact hscript out (by decide)
  · obtain ⟨n, -, rfl⟩ := name_of_path hp
    exact hscript _ (List.IsSuffix.trans (by decide) (modelEnding_suffix n))
  · obtain rfl : out.child "models.ts" = p := Except.ok.inj hp
    exact hscript out (by decide)

end Output

end ClientGen
