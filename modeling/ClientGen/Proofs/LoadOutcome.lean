import Mathlib.Tactic.ByContra
import ClientGen.Source
import ClientGen.Proofs.Disk
import ClientGen.Proofs.LongInteger

/-!
# How loading a document ends

A document is loaded, or the failure to load it is reported, or a failure
escapes that is not. What escapes is laid out in `Escape`: a path that no file
can have, a file that is not UTF-8, an integer of too many digits, a text that
there is no room for, and whatever the reader of YAML raises that is no complaint
about its text.

`load_outcome` says that nothing else escapes, whatever the readers of texts do,
and when each of these does. So a failure to load is not always reported
(`exists_escape`).
-/

namespace ClientGen

namespace Disk

/-- Following a path fails for the character that no path can hold exactly if the
path holds it. -/
theorem resolve_eq_nulInPath {d : Disk} {p : Path} :
    d.resolve p = .error .nulInPath ↔ Char.ofNat 0 ∈ p.text.toList := by
  have hfollow : ∀ (names : List String) (q : Place),
      d.follow q names ≠ .error .nulInPath := by
    intro names
    induction names with
    | nil =>
      intro q h
      cases h
    | cons n rest ih =>
      intro q h
      rw [follow] at h
      split at h
      · cases h
      · cases h
      · split at h
        · exact ih _ h
        · split at h
          · cases h
          · exact ih _ h
  rw [← List.contains_iff_mem]
  unfold resolve
  constructor
  · intro h
    by_contra hnul
    rw [if_neg hnul] at h
    split at h
    · cases h
    · exact hfollow _ _ h
  · intro hnul
    rw [if_pos hnul]

theorem readFile_eq_nulInPath {d : Disk} {p : Path} :
    d.readFile p = .error .nulInPath ↔ Char.ofNat 0 ∈ p.text.toList := by
  have hresolve : d.readFile p = .error .nulInPath ↔
      d.resolve p = .error .nulInPath := by
    unfold readFile entryAt
    cases hplace : d.resolve p with
    | error t => simp [bind, Except.bind]
    | ok q =>
      cases hentry : d.at? q with
      | none => simp [bind, Except.bind, hentry]
      | some e => cases e <;> simp [bind, Except.bind, hentry, pure, Except.pure]
  rw [hresolve, resolve_eq_nulInPath]

end Disk

namespace Source

variable {readers : Readers} {d : Disk} {p : Path}

/-- The failures to load a document that are not reported as such. -/
inductive Escape (readers : Readers) (d : Disk) (p : Path) : Failure → Prop where
  /-- The path holds the character that no path can hold. -/
  | nul (h : Char.ofNat 0 ∈ p.text.toList) :
    Escape readers d p (.trouble .nulInPath)
  /-- The file is not UTF-8. -/
  | notUtf8 {bytes : ByteArray} (hbytes : d.readFile p = .ok bytes)
    (h : ¬ bytes.IsValidUTF8) : Escape readers d p .notUtf8
  /-- There is an integer of too many digits in a JSON file. -/
  | longInteger {text : String} (hjson : isYaml p = false)
    (htext : read d p = .ok text) (h : Json.HasLongInteger text.toList) :
    Escape readers d p .integerTooLong
  /-- There is no room for a JSON file. -/
  | room {text kind : String} (hjson : isYaml p = false)
    (htext : read d p = .ok text) (h : readers.room text = some kind) :
    Escape readers d p (.escaped kind)
  /-- The reader of YAML fails, and not for the grammar of the text. -/
  | yaml {text kind : String} (hyaml : isYaml p = true)
    (htext : read d p = .ok text)
    (h : readers.yaml text = .error (.escaped kind)) :
    Escape readers d p (.escaped kind)

/-! ### The steps of loading -/

/-- What goes wrong where the text of a file is read. -/
theorem read_eq_error {f : Failure} (h : read d p = .error f) :
    (∃ t, f = .load p (.trouble t)) ∨
      (f = .trouble .nulInPath ∧ Char.ofNat 0 ∈ p.text.toList) ∨
      (f = .notUtf8 ∧
        ∃ bytes, d.readFile p = .ok bytes ∧ ¬ bytes.IsValidUTF8) := by
  unfold read at h
  split at h
  · next hnul =>
    cases h
    exact Or.inr (Or.inl ⟨rfl, Disk.readFile_eq_nulInPath.1 hnul⟩)
  · next t _ _ =>
    cases h
    exact Or.inl ⟨t, rfl⟩
  · next bytes hbytes =>
    split at h
    · cases h
    · next hnone =>
      cases h
      refine Or.inr (Or.inr ⟨rfl, bytes, hbytes, ?_⟩)
      intro hvalid
      unfold Text.readBytes? String.fromUTF8? at hnone
      rw [dif_pos hvalid] at hnone
      cases hnone

/-- The reader of a text fails in a way that is known by its kind only. -/
def EndsIn (readers : Readers) (p : Path) (text kind : String) : Prop :=
  (isYaml p = true ∧ readers.yaml text = .error (.escaped kind)) ∨
    (isYaml p = false ∧ readers.room text = some kind)

/-- What goes wrong where a text is parsed. -/
theorem parse_eq_error {text : String} {f : Failure}
    (h : parse readers p text = .error f) :
    (∃ cause, f = .load p cause) ∨
      (f = .integerTooLong ∧ isYaml p = false ∧ readers.room text = none ∧
        ∃ e, Json.read text = .error e ∧ e.cause = .integerTooLong) ∨
      ∃ kind, f = .escaped kind ∧ EndsIn readers p text kind := by
  unfold parse at h
  cases hyaml : isYaml p with
  | true =>
    rw [hyaml, if_pos rfl] at h
    split at h
    · cases h
    · next complaint _ =>
      cases h
      exact Or.inl ⟨.yaml complaint, rfl⟩
    · next kind hread =>
      cases h
      exact Or.inr (Or.inr ⟨kind, rfl, Or.inl ⟨hyaml, hread⟩⟩)
  | false =>
    rw [hyaml, if_neg Bool.false_ne_true] at h
    split at h
    · next kind hroom =>
      cases h
      exact Or.inr (Or.inr ⟨kind, rfl, Or.inr ⟨hyaml, hroom⟩⟩)
    · next hroom =>
      split at h
      · split at h <;> cases h
      · next e hread =>
        split at h
        · next hcause =>
          cases h
          exact Or.inr (Or.inl ⟨rfl, rfl, hroom, e, hread, hcause⟩)
        · cases h
          exact Or.inl ⟨.json e, rfl⟩

/-- Loading fails where the text is read, where it is parsed, or because the
document is no mapping. -/
theorem load_eq_error_iff {f : Failure} :
    load readers d p = .error f ↔
      read d p = .error f ∨
      (∃ text, read d p = .ok text ∧ parse readers p text = .error f) ∨
      (f = .load p .notMapping ∧ ∃ text document, read d p = .ok text ∧
        parse readers p text = .ok document ∧ document.isMapping = false) := by
  unfold load
  cases hread : read d p with
  | error e => simp [bind, Except.bind]
  | ok text =>
    cases hparse : parse readers p text with
    | error e => simp [bind, Except.bind, hparse]
    | ok document =>
      cases hmapping : document.isMapping with
      | true => simp [bind, Except.bind, hparse, hmapping, pure, Except.pure]
      | false =>
        simpa [bind, Except.bind, hparse, hmapping] using eq_comm

/-- What is loaded is a mapping. -/
theorem isMapping_of_load {document : Document}
    (h : load readers d p = .ok document) : document.isMapping = true := by
  unfold load at h
  cases hread : read d p with
  | error e => simp [bind, Except.bind, hread] at h
  | ok text =>
    cases hparse : parse readers p text with
    | error e => simp [bind, Except.bind, hread, hparse] at h
    | ok made =>
      simp only [bind, Except.bind, hread, hparse] at h
      split at h
      · next hmapping =>
        cases h
        exact hmapping
      · cases h

/-! ### What escapes -/

/-- Loading ends with the trouble of a path that no file can have exactly if the
path is one. -/
theorem load_eq_nulInPath_iff :
    load readers d p = .error (.trouble .nulInPath) ↔
      Char.ofNat 0 ∈ p.text.toList := by
  rw [load_eq_error_iff]
  constructor
  · rintro (h | ⟨text, -, h⟩ | ⟨h, -⟩)
    · rcases read_eq_error h with ⟨t, ht⟩ | ⟨-, hnul⟩ | ⟨ht, -⟩
      · cases ht
      · exact hnul
      · cases ht
    · rcases parse_eq_error h with ⟨cause, hf⟩ | ⟨hf, -⟩ | ⟨kind, hf, -⟩ <;> cases hf
    · cases h
  · intro hnul
    left
    rw [read, Disk.readFile_eq_nulInPath.2 hnul]

/-- Loading ends with the failure to decode a file exactly if there is a file
and it is not UTF-8. -/
theorem load_eq_notUtf8_iff :
    load readers d p = .error .notUtf8 ↔
      ∃ bytes, d.readFile p = .ok bytes ∧ ¬ bytes.IsValidUTF8 := by
  rw [load_eq_error_iff]
  constructor
  · rintro (h | ⟨text, -, h⟩ | ⟨h, -⟩)
    · rcases read_eq_error h with ⟨t, ht⟩ | ⟨ht, -⟩ | ⟨-, hbytes⟩
      · cases ht
      · cases ht
      · exact hbytes
    · rcases parse_eq_error h with ⟨cause, hf⟩ | ⟨hf, -⟩ | ⟨kind, hf, -⟩ <;> cases hf
    · cases h
  · rintro ⟨bytes, hbytes, hinvalid⟩
    left
    rw [read, hbytes]
    simp only
    rw [Text.readBytes?, String.fromUTF8?, dif_neg hinvalid]
    rfl

/-- Loading ends with an integer of too many digits exactly if the reader of
JSON comes upon one. -/
theorem load_eq_integerTooLong_iff :
    load readers d p = .error .integerTooLong ↔
      isYaml p = false ∧ ∃ text e, read d p = .ok text ∧
        readers.room text = none ∧ Json.read text = .error e ∧
        e.cause = .integerTooLong := by
  rw [load_eq_error_iff]
  constructor
  · rintro (h | ⟨text, htext, h⟩ | ⟨h, -⟩)
    · rcases read_eq_error h with ⟨t, ht⟩ | ⟨ht, -⟩ | ⟨ht, -⟩ <;> cases ht
    · rcases parse_eq_error h with
        ⟨cause, hf⟩ | ⟨-, hjson, hroom, e, he⟩ | ⟨kind, hf, -⟩
      · cases hf
      · exact ⟨hjson, text, e, htext, hroom, he⟩
      · cases hf
    · cases h
  · rintro ⟨hjson, text, e, htext, hroom, hread, hcause⟩
    refine Or.inr (Or.inl ⟨text, htext, ?_⟩)
    rw [parse, hjson, if_neg Bool.false_ne_true, hroom]
    dsimp only
    rw [hread]
    exact if_pos hcause

/-- Loading ends with a failure that is known by its kind only exactly if the
reader of the text does. -/
theorem load_eq_escaped_iff {kind : String} :
    load readers d p = .error (.escaped kind) ↔
      ∃ text, read d p = .ok text ∧ EndsIn readers p text kind := by
  rw [load_eq_error_iff]
  constructor
  · rintro (h | ⟨text, htext, h⟩ | ⟨h, -⟩)
    · rcases read_eq_error h with ⟨t, ht⟩ | ⟨ht, -⟩ | ⟨ht, -⟩ <;> cases ht
    · rcases parse_eq_error h with ⟨cause, hf⟩ | ⟨hf, -⟩ | ⟨kind', hf, hends⟩
      · cases hf
      · cases hf
      · cases hf
        exact ⟨text, htext, hends⟩
    · cases h
  · rintro ⟨text, htext, ⟨hyaml, hread⟩ | ⟨hjson, hroom⟩⟩
    · refine Or.inr (Or.inl ⟨text, htext, ?_⟩)
      rw [parse, hyaml, if_pos rfl, hread]
    · refine Or.inr (Or.inl ⟨text, htext, ?_⟩)
      rw [parse, hjson, if_neg Bool.false_ne_true, hroom]

/-- A failure to load is reported or escapes. -/
theorem reported_or_escape {f : Failure} (h : load readers d p = .error f) :
    (∃ cause, f = .load p cause) ∨ Escape readers d p f := by
  rcases load_eq_error_iff.1 h with hread | ⟨text, htext, hparse⟩ | ⟨rfl, -⟩
  · rcases read_eq_error hread with ⟨t, rfl⟩ | ⟨rfl, hnul⟩ | ⟨rfl, bytes, hbytes, hinvalid⟩
    · exact Or.inl ⟨.trouble t, rfl⟩
    · exact Or.inr (.nul hnul)
    · exact Or.inr (.notUtf8 hbytes hinvalid)
  · rcases parse_eq_error hparse with
      ⟨cause, rfl⟩ | ⟨rfl, hjson, -, e, hread, hcause⟩ |
      ⟨kind, rfl, ⟨hyaml, hread⟩ | ⟨hjson, hroom⟩⟩
    · exact Or.inl ⟨cause, rfl⟩
    · exact Or.inr (.longInteger hjson htext
        (Json.hasLongInteger_of_read hread hcause))
    · exact Or.inr (.yaml hyaml htext hread)
    · exact Or.inr (.room hjson htext hroom)
  · exact Or.inl ⟨.notMapping, rfl⟩

/-- **How loading ends.** Whatever texts are read by, a document is loaded and is
a mapping, or the failure to load it is reported, or one of the listed failures
escapes. Each of these is the end exactly if there is cause for it: a path that
no file can have, a file that is not UTF-8, an integer that the reader of JSON
does not convert, a JSON text that there is no room for, a failure of the reader
of YAML that is no complaint about the text. -/
theorem load_outcome (readers : Readers) (d : Disk) (p : Path) :
    ((∃ entries, load readers d p = .ok (.tree (.map entries))) ∨
      (∃ f, load readers d p = .ok (.foreign f) ∧ f.isMapping = true) ∨
      (∃ cause, load readers d p = .error (.load p cause)) ∨
      ∃ f, load readers d p = .error f ∧ Escape readers d p f) ∧
    (load readers d p = .error (.trouble .nulInPath) ↔
      Char.ofNat 0 ∈ p.text.toList) ∧
    (load readers d p = .error .notUtf8 ↔
      ∃ bytes, d.readFile p = .ok bytes ∧ ¬ bytes.IsValidUTF8) ∧
    (load readers d p = .error .integerTooLong ↔
      isYaml p = false ∧ ∃ text e, read d p = .ok text ∧
        readers.room text = none ∧ Json.read text = .error e ∧
        e.cause = .integerTooLong) ∧
    (∀ kind, load readers d p = .error (.escaped kind) ↔
      ∃ text, read d p = .ok text ∧
        ((isYaml p = true ∧ readers.yaml text = .error (.escaped kind)) ∨
          (isYaml p = false ∧ readers.room text = some kind))) := by
  refine ⟨?_, load_eq_nulInPath_iff, load_eq_notUtf8_iff,
    load_eq_integerTooLong_iff, fun _ => load_eq_escaped_iff⟩
  cases hload : load readers d p with
  | ok document =>
    have hmapping := isMapping_of_load hload
    cases document with
    | tree v =>
      obtain ⟨entries, hentries⟩ := Option.isSome_iff_exists.1 hmapping
      cases v with
      | map fields => exact Or.inl ⟨fields, rfl⟩
      | _ => cases hentries
    | foreign f => exact Or.inr (Or.inl ⟨f, rfl, hmapping⟩)
  | error f =>
    rcases reported_or_escape hload with ⟨cause, rfl⟩ | hescape
    · exact Or.inr (Or.inr (Or.inl ⟨cause, rfl⟩))
    · exact Or.inr (Or.inr (Or.inr ⟨f, rfl, hescape⟩))

/-- A disk with a file that is not UTF-8. -/
def unreadable : Disk :=
  ⟨[(⟨false, 0, ["api.json"]⟩, .file ⟨#[0xff]⟩)]⟩

/-- A failure to load a document is not always reported. -/
theorem exists_escape :
    ¬ ∀ (readers : Readers) (d : Disk) (p : Path),
      (∃ document, load readers d p = .ok document ∧
        document.isMapping = true) ∨
      ∃ cause, load readers d p = .error (.load p cause) := by
  intro h
  have hload : load .own unreadable (.ofText "api.json") = .error .notUtf8 := by
    refine load_eq_notUtf8_iff.2 ⟨⟨#[0xff]⟩, ?_, by decide +kernel⟩
    rfl
  rcases h .own unreadable (.ofText "api.json") with
    ⟨document, hok, -⟩ | ⟨cause, herror⟩
  · rw [hload] at hok
    cases hok
  · rw [hload] at herror
    cases herror

end Source

end ClientGen
