import ClientGen.Proofs.Generation
import ClientGen.Proofs.Reference
import ClientGen.Proofs.Spelling

/-!
# Where the files of a client lie

The file of a model is named by the identifier of a key, and a key may be any
text. An identifier has no dots, so that no name of a path can lead back up.
But it may start with a slash, and then the path of the file is absolute and
has nothing to do with the output directory.

So a run stays in its output directory but for the files of *rooted* keys,
those whose first character is a slash once delimiters are left out
(`run_stays_under`). Documents have such keys (`exists_stray_file`).
-/

namespace ClientGen

/-! ### Texts that start with a slash -/

namespace Text

/-- A text in lower case starts with a slash exactly if the text does. -/
private theorem head?_lowerChars (s : List Char) :
    (lowerChars s).head? = some '/' ↔ s.head? = some '/' := by
  cases s with
  | nil => exact Iff.rfl
  | cons c rest =>
    by_cases hsigma : c = capitalSigma
    · rw [lowerChars, lowerAfter, if_pos hsigma, hsigma]
      constructor <;> intro h <;> cases h
    · rw [lowerChars, lowerAfter, if_neg hsigma]
      cases hlower : lowerChar c with
      | nil => exact absurd hlower (lowerChar_ne_nil c)
      | cons u more =>
        rw [List.cons_append, List.head?_cons, List.head?_cons,
          Option.some_inj, Option.some_inj]
        constructor
        · rintro rfl
          exact (eq_of_mem_lowerChar (by decide)
            (hlower ▸ List.mem_cons_self)).symm
        · rintro rfl
          have hslash : lowerChar '/' = ['/'] := by decide
          rw [hslash] at hlower
          exact (List.cons.inj hlower).1.symm

private theorem head?_joinFrom (divides : Char → Bool) (capital : Bool)
    (s : List Char) :
    (joinFrom divides capital s).head? = some '/' ↔
      (s.dropWhile divides).head? = some '/' := by
  induction s generalizing capital with
  | nil => exact Iff.rfl
  | cons c rest ih =>
    rw [joinFrom, List.dropWhile_cons]
    cases divides c with
    | true => exact ih true
    | false =>
      rw [if_neg Bool.false_ne_true, if_neg Bool.false_ne_true,
        List.head?_cons, Option.some_inj]
      cases capital with
      | false =>
        rw [if_neg Bool.false_ne_true, List.singleton_append, List.head?_cons,
          Option.some_inj]
      | true =>
        obtain ⟨u, more, hupper, -⟩ := upperChar_eq_cons c
        rw [if_pos rfl, hupper, List.cons_append, List.head?_cons,
          Option.some_inj]
        constructor
        · rintro rfl
          exact (eq_of_mem_upperChar (by decide)
            (hupper ▸ List.mem_cons_self)).symm
        · rintro rfl
          have hslash : upperChar '/' = ['/'] := by decide
          rw [hslash] at hupper
          exact (List.cons.inj hupper).1.symm

/-- An identifier starts with a slash exactly if the name does after any
delimiters. -/
theorem head?_identifierChars (s : List Char) :
    (identifierChars s).head? = some '/' ↔
      (s.dropWhile isDelimiter).head? = some '/' := by
  rw [identifierChars_eq_joinFrom]
  exact head?_joinFrom isDelimiter false s

end Text

/-! ### Paths below a directory -/

namespace Path

/-- A path lies under another one: it leads on from there and never back
up. -/
def Under (base p : Path) : Prop :=
  p.root = base.root ∧
    ∃ names, p.names = base.names ++ names ∧ names ≠ [] ∧ ".." ∉ names

theorem Under.trans {p q r : Path} (h : Under p q) (h' : Under q r) :
    Under p r := by
  obtain ⟨hroot, names, hnames, hne, hup⟩ := h
  obtain ⟨hroot', names', hnames', hne', hup'⟩ := h'
  refine ⟨hroot'.trans hroot, names ++ names', ?_, ?_, ?_⟩
  · rw [hnames', hnames, List.append_assoc]
  · exact fun h => hne (List.append_eq_nil_iff.1 h).1
  · rw [List.mem_append]
    exact fun h => h.elim hup hup'

/-- The path of a text is absolute exactly if the text starts with a slash. -/
theorem isAbsolute_ofText {s : String} :
    (ofText s).isAbsolute = true ↔ s.toList.head? = some '/' := by
  rw [isAbsolute, bne_iff_ne]
  change rootOf s.toList ≠ "" ↔ _
  generalize s.toList = cs
  unfold rootOf
  split
  · simp
  · simp
  · simp
  · next hslash =>
    cases cs with
    | nil => simp
    | cons c rest =>
      have hc : c ≠ '/' := by
        rintro rfl
        exact hslash rest rfl
      simp [hc]

/-- Seen from a directory, a text that starts with a slash is a path of its
own. -/
theorem child_of_absolute (p : Path) {s : String}
    (h : (ofText s).isAbsolute = true) : p.child s = ofText s := by
  rw [child, join, if_pos h]

/-- A text that does not start with a slash leads on from a directory. -/
theorem child_of_relative (p : Path) {s : String}
    (h : (ofText s).isAbsolute = false) :
    p.child s = ⟨p.root, p.names ++ (ofText s).names⟩ := by
  rw [child, join, h]
  rfl

theorem under_child (p : Path) {s : String}
    (h : (ofText s).isAbsolute = false) (hne : (ofText s).names ≠ [])
    (hup : ".." ∉ (ofText s).names) : p.Under (p.child s) := by
  rw [child_of_relative p h]
  exact ⟨rfl, (ofText s).names, rfl, hne, hup⟩

/-- A text that has dots only in an ending of three characters or more names
something, and leads nowhere up. -/
private theorem names_ofText {s : String} {cs ending : List Char}
    (hs : s.toList = cs ++ ending) (hdot : '.' ∉ cs) (hslash : '/' ∉ ending)
    (hlength : 2 < ending.length) :
    (ofText s).names ≠ [] ∧ ".." ∉ (ofText s).names := by
  obtain ⟨init, last, hpieces, hsplit⟩ := exists_splitOn_append hslash cs
  obtain ⟨name, hname⟩ : ∃ name, name = String.ofList (last ++ ending) :=
    ⟨_, rfl⟩
  have hshort : ∀ n ∈ ["", ".", ".."], n.toList.length ≤ 2 := by decide
  have hlast : ∀ n ∈ ["", ".", ".."], name ≠ n := by
    rintro n hn rfl
    have hlong := hshort name hn
    rw [hname, String.toList_ofList, List.length_append] at hlong
    omega
  have hinit : ∀ piece ∈ init, String.ofList piece ≠ ".." := by
    intro piece hpiece hup
    have hmem : piece ∈ cs.splitOn '/' := by
      rw [hpieces]
      exact List.mem_append_left _ hpiece
    have hdots : '.' ∈ piece := by
      rw [← String.toList_ofList (l := piece), hup]
      decide
    exact hdot (Text.mem_of_mem_splitOn hmem hdots).1
  have hnames : (ofText s).names =
      (init.map String.ofList).filter (fun n => n != "" && n != ".") ++
        [name] := by
    have hempty := hlast "" (by decide)
    have hsingle := hlast "." (by decide)
    simp only [ofText, hs, hsplit, List.map_append, List.filter_append,
      List.map_singleton, ← hname]
    rw [List.filter_cons_of_pos (by simp [hempty, hsingle]), List.filter_nil]
  rw [hnames]
  refine ⟨by simp, ?_⟩
  rw [List.mem_append, List.mem_singleton]
  rintro (hmem | hmem)
  · obtain ⟨piece, hpiece, hup⟩ := List.mem_map.1 (List.mem_filter.1 hmem).1
    exact hinit piece hpiece hup
  · exact hlast ".." (by decide) hmem.symm

end Path

/-! ### The files of a plan -/

namespace Definition

/-- A key is rooted if its first character that is no delimiter is a slash. -/
def IsRooted (key : Value) : Prop :=
  (key.text.toList.dropWhile Text.isDelimiter).head? = some '/'

instance (key : Value) : Decidable (IsRooted key) := by
  unfold IsRooted
  infer_instance

/-- The file that the identifier of a key names by itself, wherever the client
is written. -/
def ownFile (key : Value) : Path :=
  Path.ofText (Output.modelFile (Text.identifier key.text))

/-- The name of a rooted key makes an absolute path, and no other one does. -/
theorem isAbsolute_ownFile {key : Value} :
    (ownFile key).isAbsolute = true ↔ IsRooted key := by
  have hfile : (Output.modelFile (Text.identifier key.text)).toList =
      Text.lowerChars (Text.identifierChars key.text.toList) ++
        ".model.ts".toList := by
    rw [Output.modelFile, String.toList_append, Text.toList_lower,
      Text.toList_identifier]
  rw [ownFile, Path.isAbsolute_ofText, hfile, List.head?_append, IsRooted,
    ← Text.head?_identifierChars, ← Text.head?_lowerChars]
  cases Text.lowerChars (Text.identifierChars key.text.toList) with
  | nil => decide
  | cons c rest => rfl

end Definition

namespace Output

open Definition

/-- The file of a model is that of its key if the key is rooted, and lies in
the directory of the models otherwise. -/
theorem modelFile_cases (out : Path) (key : Value) :
    (IsRooted key ∧
        (modelsDir out).child (modelFile (Text.identifier key.text)) =
          ownFile key) ∨
      (¬ IsRooted key ∧
        (modelsDir out).Under
          ((modelsDir out).child (modelFile (Text.identifier key.text)))) := by
  by_cases hrooted : IsRooted key
  · have habsolute := isAbsolute_ownFile.2 hrooted
    exact Or.inl ⟨hrooted, Path.child_of_absolute _ habsolute⟩
  · have hrelative : (ownFile key).isAbsolute = false := by
      rw [← Bool.not_eq_true, isAbsolute_ownFile]
      exact hrooted
    have hfile : (modelFile (Text.identifier key.text)).toList =
        (Text.lower (Text.identifier key.text)).toList ++
          ".model.ts".toList := by
      rw [modelFile, String.toList_append]
    have hdot : '.' ∉ (Text.lower (Text.identifier key.text)).toList := by
      rw [Text.toList_lower, Text.toList_identifier]
      intro hmem
      exact Text.dot_notMem_identifierChars _
        (Text.mem_of_mem_lowerChars (by decide) hmem)
    obtain ⟨hne, hup⟩ := Path.names_ofText hfile hdot (by decide) (by decide)
    exact Or.inr ⟨hrooted, Path.under_child _ hrelative hne hup⟩

theorem under_modelsDir (out : Path) : out.Under (modelsDir out) := by
  rw [modelsDir_eq]
  exact ⟨rfl, ["models"], rfl, by decide, by decide⟩

/-- Every model is called by the identifier of a key that is not null. -/
private theorem exists_key_of_name {document : Fields} {d : Definition}
    (hd : d ∈ readAll document) {n : String} (hname : d.name = some n) :
    ∃ key ∈ keys document, n = Text.identifier key.text := by
  obtain ⟨key, hkey, hidentifier⟩ := exists_key_of_mem hd
  rw [hname] at hidentifier
  exact ⟨key, hkey, (Value.identifier?_eq_some_iff.1 hidentifier.symm).2.symm⟩

/-- Every file of a client lies under the output directory, or it is that of a
rooted key. -/
theorem path_cases {document : Fields} {s : Service}
    (hmodels : s.definitions = readAll document) {sets : Nat → TemplateSet}
    {out : Path} {o : Output} (ho : o ∈ plan sets s out) {p : Path}
    (hp : o.path = .ok p) :
    out.Under p ∨ ∃ key ∈ keys document, IsRooted key ∧ p = ownFile key := by
  have hown : ∀ {file : String}, '/' ∉ file.toList → file ≠ "" → file ≠ "." →
      file ≠ ".." → out.Under (out.child file) := by
    intro file hslash hempty hdot hup
    rw [Path.child_of_slash_notMem out hslash hempty hdot]
    refine ⟨rfl, [file], rfl, List.cons_ne_nil _ _, ?_⟩
    rw [List.mem_singleton]
    exact hup.symm
  rcases mem_plan.1 ho with rfl | ⟨i, hi, rfl⟩ | rfl
  · obtain rfl : out.child "index.ts" = p := Except.ok.inj hp
    exact Or.inl (hown (by decide) (by decide) (by decide) (by decide))
  · obtain ⟨n, hname, rfl⟩ := name_of_path hp
    have hd : s.definitions[i] ∈ readAll document := by
      rw [← hmodels]
      exact List.getElem_mem hi
    obtain ⟨key, hkey, rfl⟩ := exists_key_of_name hd hname
    rcases modelFile_cases out key with ⟨hrooted, hfile⟩ | ⟨-, hunder⟩
    · exact Or.inr ⟨key, hkey, hrooted, hfile⟩
    · exact Or.inl ((under_modelsDir out).trans hunder)
  · obtain rfl : out.child "models.ts" = p := Except.ok.inj hp
    exact Or.inl (hown (by decide) (by decide) (by decide) (by decide))

/-- The file of a rooted key is planned. -/
theorem exists_output_of_isRooted {document : Fields} {s : Service}
    (hmodels : s.definitions = readAll document) (sets : Nat → TemplateSet)
    (out : Path) {key : Value} (hkey : key ∈ keys document)
    (hrooted : IsRooted key) :
    ∃ o ∈ plan sets s out, o.path = .ok (ownFile key) := by
  have hnull : key ≠ .null := by
    rintro rfl
    exact absurd hrooted (by decide)
  obtain ⟨d, hd, hname⟩ := exists_model_of_key hkey
  rw [Value.identifier?_eq_some_iff.2 ⟨hnull, rfl⟩] at hname
  rw [← hmodels] at hd
  obtain ⟨turn, hplanned⟩ := exists_model_mem_plan sets out hd
  refine ⟨model (sets turn) out d, hplanned, ?_⟩
  rcases modelFile_cases out key with ⟨-, hfile⟩ | ⟨hnot, -⟩
  · rw [path_of_name _ out hname, hfile]
  · exact absurd hrooted hnot

end Output

namespace Generation

open Definition

section

variable {document : Fields} {s : Service}
  (hmodels : s.definitions = readAll document) (engine : Engine)
  (templateDir : Option Path)
include hmodels

/-- Where a run changes the disk it has made a directory on the way to the
models, or put a file there that lies under the output directory or is that of a
rooted key. -/
private theorem changed_cases (out : Path) (d : Disk) {q : Place}
    (hq : (run engine templateDir s out d).disk.at? q ≠ d.at? q) :
    (d.at? q = none ∧ (opened out d).at? q = some .directory ∧
      (opened out d).LeadsThrough (Output.modelsDir out) q) ∨
    ∃ p, (opened out d).resolve p = .ok q ∧
      (out.Under p ∨ ∃ key ∈ keys document, IsRooted key ∧ p = ownFile key) := by
  obtain ⟨os, ws, hfirst, hput, hreceives, -⟩ :=
    exists_written engine templateDir s out d
  by_cases hplace : ∃ w ∈ ws, w.place = q
  · obtain ⟨w, hw, rfl⟩ := hplace
    obtain ⟨o, ho, hone⟩ := Traced.exists_of_mem_right hput hw
    exact Or.inr ⟨w.path, hone.place,
      Output.path_cases hmodels (hfirst.subset ho) hone.path⟩
  · have hsame := hreceives.rest q fun w hw hwq => hplace ⟨w, hw, hwq⟩
    rw [hsame] at hq
    rcases Disk.grows_ensureDirectories d (Output.modelsDir out) q with
      hkept | hmade
    · exact absurd hkept hq
    · exact Or.inl hmade

/-- A run that succeeds has written all files under the output directory exactly
if those of rooted keys lie there. -/
private theorem forall_under_iff {out : Path} {d : Disk} {paths : List Path}
    (hresult : (run engine templateDir s out d).result = .ok paths) :
    (∀ p ∈ paths, out.Under p) ↔
      ∀ key ∈ keys document, IsRooted key → out.Under (ownFile key) := by
  obtain ⟨os, ws, -, hput, -, hall⟩ := exists_written engine templateDir s out d
  obtain ⟨rfl, rfl, -⟩ := hall paths hresult
  constructor
  · intro hunder key hkey hrooted
    obtain ⟨o, ho, hpath⟩ := Output.exists_output_of_isRooted hmodels
      (TemplateSet.ofDirectory engine (opened out d) s out templateDir) out hkey
      hrooted
    obtain ⟨w, hw, hone⟩ := Traced.exists_of_mem_right hput.flip ho
    have hsame : w.path = ownFile key :=
      Except.ok.inj (hone.path.symm.trans hpath)
    rw [← hsame]
    exact hunder w.path (List.mem_map.2 ⟨w, hw, rfl⟩)
  · intro hrooted p hp
    obtain ⟨w, hw, rfl⟩ := List.mem_map.1 hp
    obtain ⟨o, ho, hone⟩ := Traced.exists_of_mem_right hput hw
    rcases Output.path_cases hmodels ho hone.path with
      hunder | ⟨key, hkey, hroot, hpath⟩
    · exact hunder
    · rw [hpath]
      exact hrooted key hkey hroot

end

/-- The file of a rooted key does not lie under a relative directory. -/
private theorem not_under_ownFile {out : Path} (hout : out.isAbsolute = false)
    {key : Value} (hrooted : IsRooted key) : ¬ out.Under (ownFile key) := by
  intro hunder
  have habsolute := isAbsolute_ownFile.2 hrooted
  rw [Path.isAbsolute, hunder.1] at habsolute
  rw [Path.isAbsolute, habsolute] at hout
  cases hout

/-- **A run stays in its output directory** but for the files of rooted keys,
whatever its templates are. Each file that it has to write lies under the output
directory or is that of a rooted key. Where a run changes the disk, whether it
succeeds or not, it has made a directory on the way to the models or put such a
file there. If it succeeds, all files that it has written lie under the output
directory exactly if those of rooted keys do, which they never do if the output
directory is relative. -/
theorem run_stays_under {document : Fields} {onServer : Bool} {s : Service}
    (h : (Service.build (.map document) onServer).outcome = .ok s)
    (engine : Engine) (templateDir : Option Path) (out : Path) (d : Disk) :
    (∀ o ∈ planned engine templateDir s out d, ∀ p, o.path = .ok p →
      out.Under p ∨ ∃ key ∈ keys document, IsRooted key ∧ p = ownFile key) ∧
    (∀ q, (run engine templateDir s out d).disk.at? q ≠ d.at? q →
      (d.at? q = none ∧ (opened out d).at? q = some .directory ∧
        (opened out d).LeadsThrough (Output.modelsDir out) q) ∨
      ∃ p, (opened out d).resolve p = .ok q ∧
        (out.Under p ∨ ∃ key ∈ keys document, IsRooted key ∧ p = ownFile key)) ∧
    (∀ paths, (run engine templateDir s out d).result = .ok paths →
      ((∀ p ∈ paths, out.Under p) ↔
        ∀ key ∈ keys document, IsRooted key → out.Under (ownFile key))) ∧
    (out.isAbsolute = false →
      ∀ key, IsRooted key → ¬ out.Under (ownFile key)) := by
  obtain ⟨methods, domain, -, -, rfl⟩ := Service.build_outcome_eq_ok.1 h
  generalize hservice : Service.of document onServer methods domain = s
  have hmodels : s.definitions = readAll document := by
    rw [← hservice]
    rfl
  refine ⟨?_, ?_, ?_, ?_⟩
  · exact fun _ ho _ hp => Output.path_cases hmodels ho hp
  · exact fun _ hq => changed_cases hmodels engine templateDir out d hq
  · exact fun _ hresult => forall_under_iff hmodels engine templateDir hresult
  · exact fun hout _ hrooted => not_under_ownFile hout hrooted

/-- No key of the shop is rooted, and all its files lie where they belong. -/
theorem run_stays_under_shop :
    ∃ s, (Service.build (.map Service.shop) false).outcome = .ok s ∧
      ∃ paths, (run .literal none s ⟨"", ["out"]⟩ .empty).result = .ok paths ∧
        paths.length = 4 ∧ ∀ p ∈ paths, Path.Under ⟨"", ["out"]⟩ p := by
  obtain ⟨s, hs⟩ :
      ∃ s, (Service.build (.map Service.shop) false).outcome = .ok s := ⟨_, rfl⟩
  have hwritten :
      ((Service.build (.map Service.shop) false).outcome.toOption.all fun s =>
        (run .literal none s ⟨"", ["out"]⟩ .empty).result.toOption.any fun paths =>
          paths.length == 4) = true := by
    decide +kernel
  rw [hs] at hwritten
  obtain ⟨-, -, hsucceeded, -⟩ := run_stays_under hs .literal none ⟨"", ["out"]⟩ .empty
  cases hrun : (run .literal none s ⟨"", ["out"]⟩ .empty).result with
  | error f => simp [Except.toOption, hrun] at hwritten
  | ok paths =>
    have hlength : paths.length = 4 := by
      simpa [Except.toOption, hrun] using hwritten
    have hfree : ∀ key ∈ keys Service.shop, ¬ IsRooted key := by
      decide +kernel
    refine ⟨s, hs, paths, hrun, hlength, (hsucceeded paths hrun).2 ?_⟩
    exact fun key hkey hrooted => absurd hrooted (hfree key hkey)

/-- A document with a key that starts with a slash. -/
def rooted : Fields :=
  [(.str "definitions", .map [(.str "/pet", .map [])])]

/-- A run may write a file outside of its output directory. -/
theorem exists_stray_file :
    ¬ ∀ (document : Fields) (onServer : Bool) (s : Service) (out : Path)
        (d : Disk) (paths : List Path),
      (Service.build (.map document) onServer).outcome = .ok s →
      (run .literal none s out d).result = .ok paths → ∀ p ∈ paths, out.Under p := by
  intro h
  obtain ⟨s, hs⟩ :
      ∃ s, (Service.build (.map rooted) false).outcome = .ok s := ⟨_, rfl⟩
  have hwritten :
      ((Service.build (.map rooted) false).outcome.toOption.all fun s =>
        (run .literal none s ⟨"", ["out"]⟩ .empty).result.toOption.any fun paths =>
          paths.contains ⟨"/", ["pet.model.ts"]⟩) = true := by
    decide +kernel
  rw [hs] at hwritten
  cases hrun : (run .literal none s ⟨"", ["out"]⟩ .empty).result with
  | error f => simp [Except.toOption, hrun] at hwritten
  | ok paths =>
    have hmem : (⟨"/", ["pet.model.ts"]⟩ : Path) ∈ paths := by
      simpa [Except.toOption, hrun] using hwritten
    have hunder := h rooted false s ⟨"", ["out"]⟩ .empty paths hs hrun _ hmem
    exact absurd hunder.1 (by decide)

end Generation

end ClientGen
