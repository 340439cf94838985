import Mathlib.Data.List.Forall2
import ClientGen.Proofs.Disk
import ClientGen.Proofs.DiskEntries
import ClientGen.Proofs.LastName
import ClientGen.Proofs.Service

/-!
# What a generation leaves on a disk

A run makes its directories and then writes the files of its plan, one after
another, up to the first that fails. `run_leaves` says what the disk is then,
entry by entry, and that a run that succeeded can be repeated without changing
anything. It is about templates without marks, as they are written by every
engine that renders such texts plainly (`run_eq_literal`).

Two things make a repetition the same run. Writing files leaves all directories
as they are, so that paths lead to the same places (`IsWrittenAs.on`). And no
file that is written is one of the templates: the names of the one end in
`.ts`, those of the other in `.j2` (`ofDirectory_congr`).
-/

namespace ClientGen

/-! ### Templates -/

/-- A template is read alike on two disks with the same directories, if only
scripts differ. -/
private theorem Disk.readFile_template_iff {d d' : Disk}
    (hsame : d.SameDirectories d')
    (hrest : ∀ q, ¬ LastEndsIn q.names ".ts" → d'.at? q = d.at? q)
    (directory : Path) (t : Template) (bytes : ByteArray) :
    d'.readFile (directory.child t.fileName) = .ok bytes ↔
      d.readFile (directory.child t.fileName) = .ok bytes := by
  have hname : ".j2".toList <:+ t.fileName.toList := by
    cases t <;> decide
  have hend : LastEndsIn (directory.child t.fileName).names ".j2" :=
    lastEndsIn_child directory hname (by decide) (by decide)
  have hat : ∀ q, d.resolve (directory.child t.fileName) = .ok q →
      d'.at? q = d.at? q := by
    intro q hq
    have hplace := lastEndsIn_of_resolve hend (by decide) hq
    exact hrest q fun hts => hts.ne hplace (by decide) (by decide) rfl
  simp only [Disk.readFile_eq_ok, ← hsame.resolve_iff]
  constructor
  · rintro ⟨q, hq, hfile⟩
    exact ⟨q, hq, hat q hq ▸ hfile⟩
  · rintro ⟨q, hq, hfile⟩
    exact ⟨q, hq, (hat q hq).trans hfile⟩

namespace Engine

/-- Templates that are written as they are give the same on disks where they are
read alike. -/
private theorem literal_congr {d d' : Disk} {directory : Path} {v : View}
    (hread : ∀ bytes,
      d'.readFile (directory.child v.template.fileName) = .ok bytes ↔
        d.readFile (directory.child v.template.fileName) = .ok bytes)
    (s : Service) (out : Path) (turn : Nat) :
    literal ⟨d', directory, s, out, turn⟩ v =
      literal ⟨d, directory, s, out, turn⟩ v := by
  unfold literal
  dsimp only
  generalize directory.child v.template.fileName = p at hread ⊢
  cases hd : d.readFile p with
  | ok bytes => rw [(hread bytes).2 hd]
  | error e =>
    cases hd' : d'.readFile p with
    | ok bytes =>
      rw [(hread bytes).1 hd'] at hd
      cases hd
    | error e' => rfl

/-- A template that is written as it is can be encoded. -/
private theorem literal_ne_notEncodable (o : Occasion) (v : View) :
    literal o v ≠ .error .notEncodable := by
  unfold literal
  split
  · nofun
  · split <;> nofun

/-- The marks of the language that templates are written in. -/
def marks : List String := ["\x7b\x7b", "\x7b%", "\x7b#"]

/-- An engine renders templates without marks as they are, and says which
template is missing. -/
structure RendersPlainly (engine : Engine) : Prop where
  missing : ∀ o v, (∀ bytes,
      o.disk.readFile (o.directory.child v.template.fileName) ≠ .ok bytes) →
    engine o v = literal o v
  plain : ∀ o v bytes text,
    o.disk.readFile (o.directory.child v.template.fileName) = .ok bytes →
    Text.readBytes? bytes = some text →
    (∀ m ∈ marks, ¬ m.toList <:+: text.toList) → engine o v = .ok text

theorem rendersPlainly_literal : RendersPlainly literal where
  missing := fun _ _ _ => rfl
  plain := by
    intro o v bytes text hbytes htext _
    unfold literal
    rw [hbytes]
    dsimp only
    rw [htext]

end Engine

namespace TemplateSet

/-- A set has no text that cannot be encoded. -/
def Encodes : TemplateSet → Prop
  | packaged => True
  | replaced render => ∀ v, render v ≠ .error .notEncodable

theorem encodes_packaged : packaged.Encodes := trivial

/-- What templates that are written as they are give is the same on another disk
with the same directories, if only scripts differ. -/
private theorem ofDirectory_congr {d d' : Disk} (hsame : d.SameDirectories d')
    (hrest : ∀ q, ¬ LastEndsIn q.names ".ts" → d'.at? q = d.at? q)
    (templateDir : Option Path) (s : Service) (out : Path) :
    ofDirectory .literal d' s out templateDir =
      ofDirectory .literal d s out templateDir := by
  funext turn
  cases templateDir with
  | none => rfl
  | some directory =>
    refine congrArg replaced (funext fun v => ?_)
    exact congrArg _ (Engine.literal_congr
      (Disk.readFile_template_iff hsame hrest directory v.template) s out turn)

private theorem encodes_literal (d : Disk) (s : Service) (out : Path)
    (templateDir : Option Path) (turn : Nat) :
    (ofDirectory .literal d s out templateDir turn).Encodes := by
  cases templateDir with
  | none => exact encodes_packaged
  | some directory =>
    intro v
    dsimp only
    cases hfault : Engine.literal ⟨d, directory, s, out, turn⟩ v with
    | ok text => nofun
    | error f =>
      cases f with
      | notEncodable =>
        exact absurd hfault (Engine.literal_ne_notEncodable _ v)
      | _ => nofun

end TemplateSet

/-- The files of a plan can be encoded if those of its sets can. -/
private theorem Output.encodes_of_mem_plan {sets : Nat → TemplateSet}
    {s : Service} {out : Path} (hsets : ∀ turn, (sets turn).Encodes) {o : Output}
    (ho : o ∈ Output.plan sets s out) : o.text ≠ .error .notEncodable := by
  have hchoose : ∀ (turn : Nat) (v : View) {own : Except Failure String},
      own ≠ .error .notEncodable →
      (sets turn).choose v own ≠ .error .notEncodable := by
    intro turn v own hown
    have hset := hsets turn
    cases hkind : sets turn with
    | packaged => exact hown
    | replaced render =>
      rw [hkind] at hset
      exact hset v
  rcases Output.mem_plan.1 ho with rfl | ⟨i, hi, rfl⟩ | rfl
  · refine hchoose 0 _ ?_
    split <;> nofun
  · exact hchoose _ _ nofun
  · exact hchoose _ _ nofun

/-! ### Files that are written -/

/-- A file that is written: its path, the place where that leads, and its
text. -/
structure Written where
  path : Path
  place : Place
  text : String

/-- What lies at the place of a file that is written. -/
def Written.entry (w : Written) : Place × Entry :=
  (w.place, .file w.text.toUTF8)

/-- A file of a client is named, and its path leads to a place of a disk where
no directory lies. -/
structure Output.IsPutAs (d : Disk) (o : Output) (w : Written) : Prop where
  path : o.path = .ok w.path
  place : d.resolve w.path = .ok w.place
  free : d.at? w.place ≠ some .directory

/-- Such a file is rendered, too. -/
structure Output.IsWrittenAs (d : Disk) (o : Output) (w : Written) : Prop extends
    o.IsPutAs d w where
  text : o.text = .ok w.text

/-- Only the directories of a disk decide on a place for a file. -/
theorem Output.IsPutAs.on {d d' : Disk} {o : Output} {w : Written}
    (h : o.IsPutAs d w) (hsame : d.SameDirectories d') : o.IsPutAs d' w where
  path := h.path
  place := hsame.resolve_iff.1 h.place
  free := mt (hsame w.place).2 h.free

/-- Only the directories of a disk decide on a file that is written. -/
theorem Output.IsWrittenAs.on {d d' : Disk} {o : Output} {w : Written}
    (h : o.IsWrittenAs d w) (hsame : d.SameDirectories d') :
    o.IsWrittenAs d' w where
  toIsPutAs := h.toIsPutAs.on hsame
  text := h.text

namespace Generation

variable {d : Disk} {os : List Output} {ws : List Written}

private theorem forall₂_on {d' : Disk}
    (h : List.Forall₂ (Output.IsWrittenAs d) os ws)
    (hsame : d.SameDirectories d') :
    List.Forall₂ (Output.IsWrittenAs d') os ws :=
  h.imp fun _ _ hw => hw.on hsame

private theorem forall₂_put (h : List.Forall₂ (Output.IsWrittenAs d) os ws) :
    List.Forall₂ (Output.IsPutAs d) os ws :=
  h.imp fun _ _ hw => hw.toIsPutAs

/-- One file is written where its path leads. -/
private theorem exists_isWrittenAs {d' : Disk} {o : Output} {p : Path}
    (h : writeOne d o = .ok (p, d')) :
    ∃ w, o.IsWrittenAs d w ∧ p = w.path ∧
      d' = d.put w.place (.file w.text.toUTF8) := by
  obtain ⟨text, hpath, htext, hdisk⟩ := writeOne_eq_ok.1 h
  obtain ⟨place, hplace, hfree, hput⟩ := Disk.writeFile_eq_ok.1 hdisk
  exact ⟨⟨p, place, text⟩, ⟨⟨hpath, hplace, hfree⟩, htext⟩, rfl, hput⟩

private theorem writeOne_of_isWrittenAs {o : Output} {w : Written}
    (hw : o.IsWrittenAs d w) :
    writeOne d o = .ok (w.path, d.put w.place (.file w.text.toUTF8)) := by
  have hdisk : d.writeFile w.path w.text.toUTF8 =
      .ok (d.put w.place (.file w.text.toUTF8)) :=
    Disk.writeFile_eq_ok.2 ⟨w.place, hw.place, hw.free, rfl⟩
  exact writeOne_eq_ok.2 ⟨w.text, hw.path, hw.text, hdisk⟩

/-- A file that fails leaves the disk as it is, unless its text cannot be
encoded. -/
private theorem spoil_of_ne {o : Output} (h : o.text ≠ .error .notEncodable) :
    spoil d o = d := by
  unfold spoil
  split
  · next htext => exact absurd htext h
  · rfl

/-- A file that fails leaves the disk as it is or empties its place. -/
private theorem spoil_cases (d : Disk) (o : Output) :
    spoil d o = d ∨
      ∃ w, o.IsPutAs d w ∧ spoil d o = d.put w.place (.file w.text.toUTF8) := by
  unfold spoil
  split
  · next path hpath htext =>
    split
    · next d' hdisk =>
      obtain ⟨place, hplace, hfree, rfl⟩ := Disk.writeFile_eq_ok.1 hdisk
      exact Or.inr ⟨⟨path, place, ""⟩, ⟨hpath, hplace, hfree⟩, rfl⟩
    · exact Or.inl rfl
  · exact Or.inl rfl

/-- Writing files leaves the directories as they are. -/
private theorem sameDirectories_putAll
    (h : List.Forall₂ (Output.IsPutAs d) os ws) :
    d.SameDirectories (d.putAll (ws.map Written.entry)) := by
  induction ws generalizing d os with
  | nil => exact fun _ => Iff.rfl
  | cons w ws ih =>
    obtain ⟨o, os', hw, hrest, -⟩ := List.forall₂_cons_right_iff.1 h
    have hput := Disk.sameDirectories_put hw.free w.text.toUTF8
    exact hput.trans (ih (hrest.imp fun _ _ hv => hv.on hput))

/-- Files that can all be written are written, in order. -/
private theorem writeAll_of_forall₂
    (h : List.Forall₂ (Output.IsWrittenAs d) os ws) :
    writeAll d os = ⟨d.putAll (ws.map Written.entry),
      os.map Output.announcement, .ok (ws.map Written.path)⟩ := by
  induction os generalizing d ws with
  | nil =>
    cases h
    rfl
  | cons o os ih =>
    obtain ⟨w, ws', hw, hrest, rfl⟩ := List.forall₂_cons_left_iff.1 h
    have hput := Disk.sameDirectories_put hw.free w.text.toUTF8
    rw [writeAll_cons_ok (writeOne_of_isWrittenAs hw),
      ih (forall₂_on hrest hput)]
    rfl

/-- Files are written one after another, either all of them or all before the
first that cannot be written. -/
private theorem writeAll_cases (d : Disk) (os : List Output) :
    (∃ ws, List.Forall₂ (Output.IsWrittenAs d) os ws) ∨
    ∃ before o after ws f, os = before ++ o :: after ∧
      List.Forall₂ (Output.IsWrittenAs d) before ws ∧
      (writeAll d os).disk = spoil (d.putAll (ws.map Written.entry)) o ∧
      (writeAll d os).result = .error f ∧
      writeOne (d.putAll (ws.map Written.entry)) o = .error f := by
  induction os generalizing d with
  | nil => exact Or.inl ⟨[], List.Forall₂.nil⟩
  | cons o os ih =>
    cases hone : writeOne d o with
    | error f =>
      right
      rw [writeAll_cons_error hone]
      exact ⟨[], o, os, [], f, rfl, List.Forall₂.nil, rfl, rfl, hone⟩
    | ok written =>
      obtain ⟨p, d'⟩ := written
      obtain ⟨w, hw, rfl, rfl⟩ := exists_isWrittenAs hone
      have hback := (Disk.sameDirectories_put hw.free w.text.toUTF8).symm
      rw [writeAll_cons_ok hone]
      rcases ih (d.put w.place (.file w.text.toUTF8)) with ⟨ws, hws⟩ |
        ⟨before, o', after, ws, f, rfl, hws, hdisk, hresult, hlast⟩
      · exact Or.inl ⟨w :: ws, List.Forall₂.cons hw (forall₂_on hws hback)⟩
      · right
        refine ⟨o :: before, o', after, w :: ws, f, rfl,
          List.Forall₂.cons hw (forall₂_on hws hback), hdisk, ?_, hlast⟩
        show Except.map _ _ = _
        rw [hresult]
        rfl

/-! ### Runs -/

/-- The disk once the directories of a run are made, as far as they can be. -/
def opened (out : Path) (d : Disk) : Disk :=
  (d.ensureDirectories (Output.modelsDir out)).1

/-- The files that a run has to write, in order. -/
def planned (engine : Engine) (templateDir : Option Path) (s : Service)
    (out : Path) (d : Disk) : List Output :=
  Output.plan (TemplateSet.ofDirectory engine (opened out d) s out templateDir) s
    out

private theorem run_of_error (engine : Engine) (templateDir : Option Path)
    (s : Service) {out : Path} {t : Trouble}
    (h : (d.ensureDirectories (Output.modelsDir out)).2 = .error t) :
    run engine templateDir s out d =
      ⟨opened out d, [], .error (.trouble t)⟩ := by
  unfold run opened
  split
  · next d' t' hmade =>
    rw [hmade] at h ⊢
    cases h
    rfl
  · next d' hmade =>
    rw [hmade] at h
    cases h

private theorem run_of_ok (engine : Engine) (templateDir : Option Path)
    (s : Service) {out : Path}
    (h : (d.ensureDirectories (Output.modelsDir out)).2 = .ok ()) :
    run engine templateDir s out d =
      (writeAll (opened out d) (planned engine templateDir s out d)).finish := by
  unfold run planned opened
  split
  · next d' t hmade =>
    rw [hmade] at h
    cases h
  · next d' hmade => rw [hmade]

private theorem disk_finish (g : Generation) : g.finish.disk = g.disk := by
  unfold finish
  split <;> rfl

private theorem result_finish (g : Generation) :
    g.finish.result = g.result := by
  unfold finish
  split <;> rfl

/-- A disk is another one with files written on it, one after another: the last
text at each place can be read, and all else is as it was. -/
structure Receives (d : Disk) (ws : List Written) (after : Disk) : Prop where
  disk : after = d.putAll (ws.map Written.entry)
  directories : d.SameDirectories after
  last : ∀ before w later, ws = before ++ w :: later →
    (∀ v ∈ later, v.place ≠ w.place) →
    after.readFile w.path = .ok w.text.toUTF8
  rest : ∀ q, (∀ w ∈ ws, w.place ≠ q) → after.at? q = d.at? q

private theorem receives_putAll
    (h : List.Forall₂ (Output.IsPutAs d) os ws) :
    Receives d ws (d.putAll (ws.map Written.entry)) := by
  have hsame := sameDirectories_putAll h
  refine { disk := rfl, directories := hsame, last := ?_, rest := ?_ }
  · rintro before w later rfl hlater
    have hmem : w ∈ before ++ w :: later :=
      List.mem_append_right _ List.mem_cons_self
    obtain ⟨o, -, hw⟩ := Traced.exists_of_mem_right h hmem
    have hlast : (d.putAll ((before ++ w :: later).map Written.entry)).at?
        w.place = some w.entry.2 := by
      rw [List.map_append, List.map_cons]
      exact d.at?_putAll_last _ (Disk.names_ne_nil hw.free)
        (List.forall_mem_map.2 hlater)
    exact Disk.readFile_eq_ok.2
      ⟨w.place, hsame.resolve_iff.1 hw.place, hlast⟩
  · intro q hq
    exact d.at?_putAll_of_forall_ne (List.forall_mem_map.2 hq)

/-- Where something in a list has a property, there is a last one. -/
private theorem exists_last {α : Type} {P : α → Prop} {as : List α}
    (h : ∃ a ∈ as, P a) :
    ∃ before a after, as = before ++ a :: after ∧ P a ∧ ∀ b ∈ after, ¬ P b := by
  induction as with
  | nil =>
    obtain ⟨a, ha, -⟩ := h
    cases ha
  | cons x as ih =>
    by_cases hrest : ∃ a ∈ as, P a
    · obtain ⟨before, a, after, rfl, ha, hafter⟩ := ih hrest
      exact ⟨x :: before, a, after, rfl, ha, hafter⟩
    · obtain ⟨a, ha, hP⟩ := h
      rcases List.mem_cons.1 ha with rfl | ha
      · exact ⟨[], a, as, rfl, hP, fun b hb hPb => hrest ⟨b, hb, hPb⟩⟩
      · exact absurd ⟨a, ha, hP⟩ hrest

/-- What lies at the path of a file that is written is a file that is written
there, if not earlier then later. -/
theorem Receives.exists_read {after : Disk}
    (hafter : Receives d ws after)
    (h : List.Forall₂ (Output.IsPutAs d) os ws) {w : Written} (hw : w ∈ ws) :
    ∃ v ∈ ws, v.place = w.place ∧ after.readFile w.path = .ok v.text.toUTF8 := by
  have hputs : ∀ v ∈ ws, after.resolve v.path = .ok v.place := by
    intro v hv
    obtain ⟨o, -, hput⟩ := Traced.exists_of_mem_right h hv
    exact hafter.directories.resolve_iff.1 hput.place
  obtain ⟨before, v, later, hsplit, hplace, hlater⟩ :=
    exists_last (P := fun v : Written => v.place = w.place) ⟨w, hw, rfl⟩
  have hv : v ∈ ws := by
    rw [hsplit]
    exact List.mem_append_right _ List.mem_cons_self
  have hread := hafter.last before v later hsplit fun u hu hsame =>
    hlater u hu (hsame.trans hplace)
  obtain ⟨q, hq, hfile⟩ := Disk.readFile_eq_ok.1 hread
  obtain rfl := Except.ok.inj ((hputs v hv).symm.trans hq)
  refine ⟨v, hv, hplace, Disk.readFile_eq_ok.2 ⟨w.place, hputs w hw, ?_⟩⟩
  rw [← hplace]
  exact hfile

/-- A run makes its directories and then puts files of its plan on the disk, in
order, up to some point. If it succeeds, that is the end, and all files are
written. -/
theorem exists_written (engine : Engine) (templateDir : Option Path)
    (s : Service) (out : Path) (d : Disk) :
    ∃ os ws, os <+: planned engine templateDir s out d ∧
      List.Forall₂ (Output.IsPutAs (opened out d)) os ws ∧
      Receives (opened out d) ws (run engine templateDir s out d).disk ∧
      ∀ paths, (run engine templateDir s out d).result = .ok paths →
        os = planned engine templateDir s out d ∧
          paths = ws.map Written.path ∧
          List.Forall₂ (Output.IsWrittenAs (opened out d)) os ws := by
  cases hmade : (d.ensureDirectories (Output.modelsDir out)).2 with
  | error t =>
    have hreceives : Receives (opened out d) [] (opened out d) :=
      receives_putAll List.Forall₂.nil
    rw [run_of_error engine templateDir s hmade]
    refine ⟨[], [], List.nil_prefix, List.Forall₂.nil, hreceives, ?_⟩
    intro paths h
    cases h
  | ok u =>
    rw [run_of_ok engine templateDir s hmade, disk_finish, result_finish]
    rcases writeAll_cases (opened out d) (planned engine templateDir s out d) with
      ⟨ws, hws⟩ | ⟨before, o, after, ws, f, hsplit, hws, hdisk, hresult, -⟩
    · refine ⟨_, ws, List.prefix_refl _, forall₂_put hws, ?_, ?_⟩
      · rw [writeAll_of_forall₂ hws]
        exact receives_putAll (forall₂_put hws)
      · intro paths h
        rw [writeAll_of_forall₂ hws] at h
        exact ⟨rfl, (Except.ok.inj h).symm, hws⟩
    · have hfailed : ∀ paths : List Path,
          (writeAll (opened out d) (planned engine templateDir s out d)).result ≠
            .ok paths := by
        intro paths h
        rw [hresult] at h
        cases h
      rcases spoil_cases ((opened out d).putAll (ws.map Written.entry)) o with
        hsame | ⟨w, hw, hput⟩
      · refine ⟨before, ws, hsplit ▸ List.prefix_append _ _, forall₂_put hws, ?_,
          fun paths h => absurd h (hfailed paths)⟩
        rw [hdisk, hsame]
        exact receives_putAll (forall₂_put hws)
      · -- The file that failed is left empty, so that it has been put, too.
        have hback := (sameDirectories_putAll (forall₂_put hws)).symm
        have hall : List.Forall₂ (Output.IsPutAs (opened out d)) (before ++ [o])
            (ws ++ [w]) :=
          List.rel_append (forall₂_put hws)
            (List.Forall₂.cons (hw.on hback) List.Forall₂.nil)
        refine ⟨before ++ [o], ws ++ [w], ?_, hall, ?_,
          fun paths h => absurd h (hfailed paths)⟩
        · rw [hsplit]
          exact ⟨after, List.append_assoc _ _ _⟩
        · have hlast : (opened out d).putAll ((ws ++ [w]).map Written.entry) =
              ((opened out d).putAll (ws.map Written.entry)).put w.place
                (.file w.text.toUTF8) := by
            rw [List.map_append, Disk.putAll_append]
            rfl
          rw [hdisk, hput, ← hlast]
          exact receives_putAll hall

/-- The files that a run has to write are the same once they are written: they
lie in directories that are there and beside the templates. -/
private theorem planned_of_receives {templateDir : Option Path} {s : Service}
    {out : Path} {after : Disk}
    (hdir : (opened out d).entryAt (Output.modelsDir out) = .ok .directory)
    (h : List.Forall₂ (Output.IsWrittenAs (opened out d))
      (planned .literal templateDir s out d) ws)
    (hafter : Receives (opened out d) ws after) :
    after.ensureDirectories (Output.modelsDir out) = (after, .ok ()) ∧
      planned .literal templateDir s out after =
        planned .literal templateDir s out d := by
  have hmade := Disk.ensureDirectories_of_directory
    (Disk.directory_of_keeps hafter.directories.keeps hdir)
  have hscripts : ∀ q, ¬ LastEndsIn q.names ".ts" →
      after.at? q = (opened out d).at? q := by
    intro q hq
    refine hafter.rest q fun w hw hplace => hq ?_
    obtain ⟨o, ho, hwritten⟩ := Traced.exists_of_mem_right h hw
    have hpath := Output.lastEndsIn_of_mem_plan ho hwritten.path
    rw [← hplace]
    exact lastEndsIn_of_resolve hpath (by decide) hwritten.place
  refine ⟨hmade, ?_⟩
  unfold planned
  rw [opened, hmade, TemplateSet.ofDirectory_congr hafter.directories hscripts]

/-- What a run leaves if its directories can be made and all of its files can
be written. -/
private theorem run_of_forall₂ {templateDir : Option Path} {s : Service}
    {out : Path}
    (hmade : (d.ensureDirectories (Output.modelsDir out)).2 = .ok ())
    (h : List.Forall₂ (Output.IsWrittenAs (opened out d))
      (planned .literal templateDir s out d) ws) :
    Receives (opened out d) ws (run .literal templateDir s out d).disk ∧
      (run .literal templateDir s out d).result = .ok (ws.map Written.path) ∧
      run .literal templateDir s out (run .literal templateDir s out d).disk =
        run .literal templateDir s out d := by
  have hrun := run_of_ok .literal templateDir s hmade
  have hdisk : (run .literal templateDir s out d).disk =
      (opened out d).putAll (ws.map Written.entry) := by
    rw [hrun, disk_finish, writeAll_of_forall₂ h]
  have hreceives := receives_putAll (forall₂_put h)
  rw [← hdisk] at hreceives
  refine ⟨hreceives, by rw [hrun, result_finish, writeAll_of_forall₂ h], ?_⟩
  obtain ⟨hagain, hplanned⟩ := planned_of_receives
    (Disk.directory_of_ensureDirectories hmade) h hreceives
  have hopened : opened out (run .literal templateDir s out d).disk =
      (run .literal templateDir s out d).disk := by rw [opened, hagain]
  have hwritten := forall₂_on h hreceives.directories
  rw [run_of_ok .literal templateDir s (by rw [hagain]), hplanned, hopened,
    writeAll_of_forall₂ hwritten, hdisk, Disk.putAll_putAll,
    ← writeAll_of_forall₂ h, ← hrun]

theorem exists_split_of_forall₂ {α β : Type} {R : α → β → Prop}
    {before after : List α} {a : α} {bs : List β}
    (h : List.Forall₂ R (before ++ a :: after) bs) :
    ∃ bs' b bs'', bs = bs' ++ b :: bs'' ∧ R a b ∧
      List.Forall₂ R after bs'' := by
  induction before generalizing bs with
  | nil =>
    obtain ⟨b, bs'', hb, hrest, rfl⟩ := List.forall₂_cons_left_iff.1 h
    exact ⟨[], b, bs'', rfl, hb, hrest⟩
  | cons x before ih =>
    obtain ⟨y, ys, -, hrest, rfl⟩ := List.forall₂_cons_left_iff.1 h
    obtain ⟨bs', b, bs'', rfl, hb, hafter⟩ := ih hrest
    exact ⟨y :: bs', b, bs'', rfl, hb, hafter⟩

/-- The file of a definition is not overwritten, unless a later definition has
its file at the same place. -/
private theorem exists_read_model {sets : Nat → TemplateSet} {s : Service}
    {out : Path} {after : Disk} (h : List.Forall₂ (Output.IsWrittenAs d)
      (Output.plan sets s out) ws)
    (hafter : Receives d ws after) {earlier later : List Definition}
    {own : Definition} {n : String}
    (hsplit : s.definitions = earlier ++ own :: later)
    (hname : own.name = some n)
    (hlast : ∀ other ∈ later, ∀ n', other.name = some n' →
      d.resolve ((Output.modelsDir out).child (Output.modelFile n')) ≠
        d.resolve ((Output.modelsDir out).child (Output.modelFile n))) :
    ∃ text, (sets (earlier.length + 1)).model own = .ok text ∧
      after.readFile ((Output.modelsDir out).child (Output.modelFile n)) =
        .ok text.toUTF8 := by
  obtain ⟨before, after', hplan, hkinds⟩ := Output.plan_of_split sets out hsplit
  rw [hplan] at h
  obtain ⟨before, w, after', rfl, hw, hrest⟩ := exists_split_of_forall₂ h
  have hpath : w.path = (Output.modelsDir out).child (Output.modelFile n) :=
    Except.ok.inj (hw.path.symm.trans (Output.path_of_name _ out hname))
  refine ⟨w.text, hw.text, ?_⟩
  rw [← hpath]
  refine hafter.last before w after' rfl fun v hv hplace => ?_
  obtain ⟨o, ho, hv⟩ := Traced.exists_of_mem_right hrest hv
  rcases hkinds o ho with ⟨turn, other, hother, rfl⟩ | ⟨turn, rfl⟩
  · obtain ⟨n', hname', hpath'⟩ := Output.name_of_path hv.path
    refine hlast other hother n' hname' ?_
    rw [← hpath, ← hpath', hv.place, hw.place, hplace]
  · -- The file that exports the models is named otherwise than any of theirs.
    have hbarrel : v.path = out.child "models.ts" :=
      (Except.ok.inj hv.path).symm
    exact Output.place_ne_barrel (hpath ▸ hw.place) (hbarrel ▸ hv.place)
      hplace.symm

/-- A run that succeeded: its directories are there, the files of its plan are
written in order, and the same run once more leaves everything as it is. -/
structure Completed (engine : Engine) (templateDir : Option Path) (s : Service)
    (out : Path) (d : Disk) (paths : List Path) : Prop where
  outDirectory : (opened out d).entryAt out = .ok .directory
  modelsDirectory :
    (opened out d).entryAt (Output.modelsDir out) = .ok .directory
  written : ∃ ws, List.Forall₂ (Output.IsWrittenAs (opened out d))
      (planned engine templateDir s out d) ws ∧
    Receives (opened out d) ws (run engine templateDir s out d).disk ∧
    paths = ws.map Written.path
  /-- Of definitions that have one file the text of the last one remains. -/
  newest : ∀ earlier own later n, s.definitions = earlier ++ own :: later →
    own.name = some n →
    (∀ other ∈ later, ∀ n', other.name = some n' →
      (opened out d).resolve
          ((Output.modelsDir out).child (Output.modelFile n')) ≠
        (opened out d).resolve
          ((Output.modelsDir out).child (Output.modelFile n))) →
    ∃ text, (TemplateSet.ofDirectory engine (opened out d) s out templateDir
        (earlier.length + 1)).model own = .ok text ∧
      (run engine templateDir s out d).disk.readFile
        ((Output.modelsDir out).child (Output.modelFile n)) = .ok text.toUTF8
  again : run engine templateDir s out (run engine templateDir s out d).disk =
    run engine templateDir s out d

/-- A run that failed: either its directories could not be made and no file is
written, or the files before the first that fails are written, and neither that
one nor a later one. -/
def Stopped (engine : Engine) (templateDir : Option Path) (s : Service)
    (out : Path) (d : Disk) (f : Failure) : Prop :=
  ((run engine templateDir s out d).disk = opened out d ∧
    ∃ t, (d.ensureDirectories (Output.modelsDir out)).2 = .error t ∧
      f = .trouble t) ∨
  ∃ before o after ws,
    planned engine templateDir s out d = before ++ o :: after ∧
    List.Forall₂ (Output.IsWrittenAs (opened out d)) before ws ∧
    Receives (opened out d) ws (run engine templateDir s out d).disk ∧
    writeOne (run engine templateDir s out d).disk o = .error f

private theorem completed_of_forall₂ {templateDir : Option Path} {s : Service}
    {out : Path}
    (hmade : (d.ensureDirectories (Output.modelsDir out)).2 = .ok ())
    (h : List.Forall₂ (Output.IsWrittenAs (opened out d))
      (planned .literal templateDir s out d) ws) :
    Completed .literal templateDir s out d (ws.map Written.path) := by
  obtain ⟨hreceives, -, hagain⟩ := run_of_forall₂ hmade h
  have hdir := Disk.directory_of_ensureDirectories hmade
  have hout : (opened out d).entryAt out = .ok .directory := by
    rw [Output.modelsDir_eq] at hdir
    exact Disk.directory_of_child hdir
  exact
    { outDirectory := hout
      modelsDirectory := hdir
      written := ⟨ws, h, hreceives, rfl⟩
      newest := fun _ _ _ _ => exists_read_model h hreceives
      again := hagain }

/-- **What a run leaves**, with the packaged views or with templates that are
written as they are. First the directories are made that lead to the models, and
nothing else. On that disk the files of the plan are written in order, all of
them if the run succeeds and those before the first that fails if it does
not. -/
theorem run_leaves (templateDir : Option Path) (s : Service) (out : Path)
    (d : Disk) :
    d.Grows (Output.modelsDir out) (opened out d) ∧
    (∀ paths, (run .literal templateDir s out d).result = .ok paths →
      Completed .literal templateDir s out d paths) ∧
    (∀ f, (run .literal templateDir s out d).result = .error f →
      Stopped .literal templateDir s out d f) := by
  refine ⟨Disk.grows_ensureDirectories d _, ?_⟩
  cases hmade : (d.ensureDirectories (Output.modelsDir out)).2 with
  | error t =>
    have hrun := run_of_error .literal templateDir s hmade
    refine ⟨fun paths h => ?_, fun f h => ?_⟩
    · rw [hrun] at h
      cases h
    · rw [hrun] at h
      cases h
      exact Or.inl ⟨by rw [hrun], t, hmade, rfl⟩
  | ok u =>
    have hrun := run_of_ok .literal templateDir s hmade
    rcases writeAll_cases (opened out d) (planned .literal templateDir s out d) with
      ⟨ws, hws⟩ | ⟨before, o, after, ws, f, hsplit, hws, hdisk, hresult, hlast⟩
    · obtain ⟨-, hresult, -⟩ := run_of_forall₂ hmade hws
      refine ⟨fun paths h => ?_, fun f h => ?_⟩
      · rw [hresult] at h
        cases h
        exact completed_of_forall₂ hmade hws
      · rw [hresult] at h
        cases h
    · have hplanned : o ∈ planned .literal templateDir s out d := by
        rw [hsplit]
        exact List.mem_append_right _ List.mem_cons_self
      rw [spoil_of_ne (Output.encodes_of_mem_plan
        (TemplateSet.encodes_literal _ s out templateDir) hplanned)] at hdisk
      rw [← hdisk, ← disk_finish, ← hrun] at hlast
      rw [← disk_finish, ← hrun] at hdisk
      rw [← result_finish, ← hrun] at hresult
      refine ⟨fun paths h => ?_, fun f' h => ?_⟩
      · rw [hresult] at h
        cases h
      · rw [hresult] at h
        cases h
        have hreceives := receives_putAll (forall₂_put hws)
        rw [← hdisk] at hreceives
        exact Or.inr ⟨before, o, after, ws, hsplit, hws, hreceives, hlast⟩

/-- Where templates have no marks of their language, every engine that renders
such texts plainly leaves the same. -/
theorem run_eq_literal {engine : Engine} (h : engine.RendersPlainly)
    (templateDir : Option Path) (s : Service) (out : Path) (d : Disk)
    (hplain : ∀ directory, templateDir = some directory →
      ∀ (t : Template) (bytes : ByteArray),
        (opened out d).readFile (directory.child t.fileName) = .ok bytes →
        ∃ text, Text.readBytes? bytes = some text ∧
          ∀ m ∈ Engine.marks, ¬ m.toList <:+: text.toList) :
    run engine templateDir s out d = run .literal templateDir s out d := by
  have hplanned : planned engine templateDir s out d =
      planned .literal templateDir s out d := by
    refine congrArg (fun sets => Output.plan sets s out) (funext fun turn => ?_)
    cases templateDir with
    | none => rfl
    | some directory =>
      refine congrArg TemplateSet.replaced (funext fun v => congrArg _ ?_)
      obtain ⟨o, ho⟩ : ∃ o : Occasion, o = ⟨opened out d, directory, s, out, turn⟩ :=
        ⟨_, rfl⟩
      have hdisk : o.disk.readFile (o.directory.child v.template.fileName) =
          (opened out d).readFile (directory.child v.template.fileName) := by
        rw [ho]
      rw [← ho]
      cases hread : (opened out d).readFile
          (directory.child v.template.fileName) with
      | error t =>
        refine h.missing o v fun bytes hbytes => ?_
        rw [hdisk, hread] at hbytes
        cases hbytes
      | ok bytes =>
        obtain ⟨text, htext, hmarks⟩ := hplain directory rfl v.template bytes hread
        rw [hread] at hdisk
        rw [h.plain o v bytes text hdisk htext hmarks,
          Engine.rendersPlainly_literal.plain o v bytes text hdisk htext hmarks]
  cases hmade : (d.ensureDirectories (Output.modelsDir out)).2 with
  | error t => rw [run_of_error _ _ _ hmade, run_of_error _ _ _ hmade]
  | ok u => rw [run_of_ok _ _ _ hmade, run_of_ok _ _ _ hmade, hplanned]

/-- The shop is written into a directory that is missing, and once more without
a change. -/
theorem run_leaves_shop :
    ∃ s, (Service.build (.map Service.shop) false).outcome = .ok s ∧
      ∃ paths, (run .literal none s ⟨"", ["out"]⟩ .empty).result = .ok paths ∧
        (opened ⟨"", ["out"]⟩ .empty).entryAt ⟨"", ["out"]⟩ = .ok .directory ∧
        run .literal none s ⟨"", ["out"]⟩ (run .literal none s ⟨"", ["out"]⟩ .empty).disk =
          run .literal none s ⟨"", ["out"]⟩ .empty := by
  obtain ⟨s, hs⟩ :
      ∃ s, (Service.build (.map Service.shop) false).outcome = .ok s := ⟨_, rfl⟩
  have hwritten :
      ((Service.build (.map Service.shop) false).outcome.toOption.all fun s =>
        (run .literal none s ⟨"", ["out"]⟩ .empty).result.toBool) = true := by
    decide +kernel
  rw [hs] at hwritten
  change (run .literal none s ⟨"", ["out"]⟩ .empty).result.toBool = true at hwritten
  obtain ⟨-, hsucceeded, -⟩ := run_leaves none s ⟨"", ["out"]⟩ .empty
  cases hrun : (run .literal none s ⟨"", ["out"]⟩ .empty).result with
  | error f => rw [hrun] at hwritten; cases hwritten
  | ok paths =>
    have hcompleted := hsucceeded paths hrun
    exact ⟨s, hs, paths, hrun, hcompleted.outDirectory, hcompleted.again⟩

end Generation

end ClientGen
