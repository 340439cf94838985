import ClientGen.Proofs.Case
import ClientGen.Proofs.Service
import ClientGen.Proofs.ServiceFile
import ClientGen.Proofs.StringLiteral

/-!
# Names between quotes

The files of a client have names from the document between single quotes: those
of parameters and properties, and the values of enumerations. Each file is cut
at these literals (`ServiceFile.textOf_parts`, `ModelFile.textOf_parts`), and a
list of all of them goes with it. Nothing in such a name is escaped, and so the
literals of a file read back if all its names are plain and only then
(`literals_read_back_iff`). With a quote in it a name goes on as code after its
literal (`exists_literal_left`).
-/

namespace ClientGen.TypeScript

/-! ### Upper case -/

/-- Whether a run maps to no separator of lines or of paragraphs. -/
def missesSeparators (r : Text.CaseRun) : Bool :=
  (r.last : Int) + r.delta < 0x2028 || 0x2029 < (r.first : Int) + r.delta

theorem missesSeparators_of_mem_upperRuns :
    ∀ r ∈ Text.upperRuns, missesSeparators r = true := by
  decide +kernel

theorem ne_separator_of_mem_upperExpansions :
    ∀ e ∈ Text.upperExpansions, ∀ n ∈ e.2, n ≠ 0x2028 ∧ n ≠ 0x2029 := by
  decide

/-- A number that stands for a separator is its code point. -/
theorem eq_of_isSeparator_ofNat {n : Nat} (h : isSeparator (Char.ofNat n) = true) :
    n = 0x2028 ∨ n = 0x2029 := by
  by_cases hvalid : n.isValidChar
  · simpa [isSeparator, Text.toNat_ofNat_of_isValidChar hvalid] using h
  · rw [Text.ofNat_of_not_isValidChar hvalid] at h
    exact absurd h (by decide)

/-- The upper case of a character has no separator but the character itself. -/
theorem eq_of_mem_upperChar_of_isSeparator {c d : Char}
    (hd : isSeparator d = true) (h : d ∈ Text.upperChar c) : d = c := by
  unfold Text.upperChar at h
  split at h
  · next hascii =>
    have hfree : isSeparator c.toUpper = false :=
      Text.forall_ascii (P := fun c => isSeparator c.toUpper = false)
        (by decide) hascii
    rw [List.mem_singleton] at h
    rw [h, hfree] at hd
    cases hd
  · rcases Text.mem_mapChar h with
      hsame | ⟨r, hr, hcontains, rfl⟩ | ⟨e, he, n, hn, rfl⟩
    · exact hsame
    · have hmiss := missesSeparators_of_mem_upperRuns r hr
      have hpoint := eq_of_isSeparator_ofNat hd
      simp only [missesSeparators, Bool.or_eq_true, decide_eq_true_eq] at hmiss
      simp only [Text.CaseRun.contains, Bool.and_eq_true, decide_eq_true_eq]
        at hcontains
      have htarget : r.target c.toNat = ((c.toNat : Int) + r.delta).toNat := rfl
      omega
    · have hmiss := ne_separator_of_mem_upperExpansions e he n hn
      have hpoint := eq_of_isSeparator_ofNat hd
      omega

/-- Putting a text in upper case adds no mark and no separator. -/
theorem mem_of_mem_upper {d : Char} (hd : Text.IsMark d ∨ isSeparator d = true)
    {s : String} (h : d ∈ (Text.upper s).toList) : d ∈ s.toList := by
  rw [Text.toList_upper, Text.upperChars, List.mem_flatMap] at h
  obtain ⟨c, hc, hdc⟩ := h
  rcases hd with hd | hd
  · rwa [Text.eq_of_mem_upperChar hd hdc]
  · rwa [eq_of_mem_upperChar_of_isSeparator hd hdc]

/-- Putting a text in upper case leaves it plain. -/
theorem isPlain_upper {strict : Bool} {s : String}
    (h : (Reader.single strict).IsPlain s.toList) :
    (Reader.single strict).IsPlain (Text.upper s).toList := by
  intro d hd
  have hold (hmark : Text.IsMark d ∨ isSeparator d = true) :=
    h d (mem_of_mem_upper hmark hd)
  refine ⟨?_, ?_, ?_⟩
  · rintro rfl
    have hquote : Text.IsMark '\'' := by
      decide
    exact (hold (Or.inl hquote)).1 rfl
  · rintro rfl
    exact (hold (Or.inl (by decide))).2.1 rfl
  · rw [Bool.eq_false_iff]
    intro hline
    have hmark : Text.IsMark d ∨ isSeparator d = true := by
      simp only [Reader.endsLine, Bool.or_eq_true, Bool.and_eq_true,
        decide_eq_true_eq] at hline
      rcases hline with (rfl | rfl) | ⟨-, hseparator⟩
      · exact Or.inl (by decide)
      · exact Or.inl (by decide)
      · exact Or.inr hseparator
    exact absurd (hold hmark).2.2 (by simp [hline])

/-! ### Parts -/

/-- A part of a file: a text that is no literal in question, or the literal of a
name. -/
inductive Part where
  | verbatim (s : String)
  | literal (name : String)
  deriving DecidableEq, Repr

namespace Part

/-- The text of a part. -/
def text : Part → String
  | .verbatim s => s
  | .literal name => singleQuoted name

/-- The name between the quotes of a literal. -/
def name? : Part → Option String
  | .verbatim _ => none
  | .literal name => some name

/-- The text of parts in order. -/
def textOf (ps : List Part) : String := String.join (ps.map text)

/-- The names of the literals among parts, in order. -/
def names (ps : List Part) : List String := ps.filterMap name?

@[simp] theorem textOf_nil : textOf [] = "" := rfl

@[simp] theorem textOf_cons (p : Part) (ps : List Part) :
    textOf (p :: ps) = p.text ++ textOf ps := by
  simp [textOf]

@[simp] theorem textOf_singleton (p : Part) : textOf [p] = p.text := by
  simp [textOf]

@[simp] theorem textOf_append (ps qs : List Part) :
    textOf (ps ++ qs) = textOf ps ++ textOf qs := by
  simp [textOf]

/-- The text of many things is the texts of all of them. -/
theorem textOf_flatMap {α : Type} {parts : α → List Part} {text : α → String}
    (h : ∀ a, textOf (parts a) = text a) (as : List α) :
    textOf (as.flatMap parts) = String.join (as.map text) := by
  induction as with
  | nil => rfl
  | cons a as ih => simp [ih, h]

@[simp] theorem names_nil : names [] = [] := rfl

@[simp] theorem names_verbatim (s : String) (ps : List Part) :
    names (.verbatim s :: ps) = names ps := rfl

@[simp] theorem names_literal (name : String) (ps : List Part) :
    names (.literal name :: ps) = name :: names ps := rfl

@[simp] theorem names_append (ps qs : List Part) :
    names (ps ++ qs) = names ps ++ names qs := by
  simp [names]

theorem names_flatMap {α : Type} {parts : α → List Part} {own : α → List String}
    (h : ∀ a, names (parts a) = own a) (as : List α) :
    names (as.flatMap parts) = as.flatMap own := by
  induction as with
  | nil => rfl
  | cons a as ih => simp [ih, h]

theorem mem_names {name : String} {ps : List Part} :
    name ∈ names ps ↔ Part.literal name ∈ ps := by
  rw [names, List.mem_filterMap]
  constructor
  · rintro ⟨p, hp, hname⟩
    cases p with
    | verbatim s => cases hname
    | literal n =>
      cases hname
      exact hp
  · intro h
    exact ⟨_, h, rfl⟩

/-- Each literal, read from its opening quote, ends at its own closing quote and
denotes its name. -/
def ReadBack (strict : Bool) (ps : List Part) : Prop :=
  ∀ before name after, ps = before ++ .literal name :: after →
    (Reader.single strict).read? (textOf (.literal name :: after)).toList =
      some (units name.toList, (textOf after).toList)

/-- Literals read back exactly if their names are plain. -/
theorem readBack_iff {strict : Bool} {ps : List Part} :
    ReadBack strict ps ↔
      ∀ name ∈ names ps, (Reader.single strict).IsPlain name.toList := by
  have hiff (name : String) (after : List Part) :
      (Reader.single strict).read? (textOf (.literal name :: after)).toList =
          some (units name.toList, (textOf after).toList) ↔
        (Reader.single strict).IsPlain name.toList := by
    have htext : (textOf (.literal name :: after)).toList =
        '\'' :: (name.toList ++ '\'' :: (textOf after).toList) := by
      simp [text, singleQuoted, String.toList_append]
    rw [htext]
    exact Reader.read?_iff
  constructor
  · intro h name hname
    obtain ⟨before, after, hsplit⟩ := List.append_of_mem (mem_names.1 hname)
    exact (hiff name after).1 (h before name after hsplit)
  · rintro h before name after rfl
    refine (hiff name after).2 (h name (mem_names.2 ?_))
    exact List.mem_append_right before List.mem_cons_self

end Part

/-! ### The parts of files -/

open TypeScript.Part

namespace EnumDecl

/-- The parts of the line of a member. -/
def memberParts (m : String × String) (isLast : Bool) : List Part :=
  [.verbatim "    ", .literal m.1, .verbatim " = ", .literal m.2,
    .verbatim ((if isLast then "" else ",") ++ "\n")]

/-- The parts of the lines of members. -/
def memberLineParts : List (String × String) → List Part
  | [] => []
  | [m] => memberParts m true
  | m :: rest => memberParts m false ++ memberLineParts rest

/-- The parts of a declaration. -/
def parts (d : EnumDecl) : List Part :=
  .verbatim ("\nexport enum " ++ d.name ++ " \x7b\n") ::
    (memberLineParts d.members ++ [.verbatim "\x7d\n"])

theorem textOf_memberParts (m : String × String) (isLast : Bool) :
    textOf (memberParts m isLast) = memberLine m isLast := by
  unfold memberParts memberLine
  rw [textOf_cons, textOf_cons, textOf_cons, textOf_cons, textOf_singleton]
  simp only [Part.text, String.append_assoc]

theorem textOf_memberLineParts (ms : List (String × String)) :
    textOf (memberLineParts ms) = memberLines ms := by
  fun_induction memberLines ms with
  | case1 => rfl
  | case2 m => exact textOf_memberParts m true
  | case3 m rest hrest ih =>
    rw [memberLineParts, textOf_append, textOf_memberParts, ih]
    exact hrest

theorem textOf_parts (d : EnumDecl) : textOf d.parts = d.text := by
  rw [parts, textOf_cons, textOf_append, textOf_singleton, textOf_memberLineParts]
  unfold EnumDecl.text Part.text
  simp only [String.append_assoc, -String.reduceAppend]

theorem names_memberLineParts (ms : List (String × String)) :
    names (memberLineParts ms) = ms.flatMap fun m => [m.1, m.2] := by
  fun_induction memberLineParts ms with
  | case1 => rfl
  | case2 m => rfl
  | case3 m rest hrest ih => simp [memberParts, ih]

theorem names_parts (d : EnumDecl) :
    names d.parts = d.members.flatMap fun m => [m.1, m.2] := by
  simp [parts, names_memberLineParts]

/-- The names that the declaration of an enumeration has between quotes. -/
def namesOf (e : Enumeration) : List String :=
  e.values.flatMap fun v => [Text.upper v.text, v.text]

/-- The names that the declarations of enumerations have between quotes. -/
theorem names_enums (es : List Enumeration) :
    names ((es.map ofEnumeration).flatMap parts) = es.flatMap namesOf := by
  rw [List.flatMap_map]
  refine names_flatMap (fun e => ?_) es
  rw [names_parts, ofEnumeration, List.flatMap_map]
  rfl

end EnumDecl

namespace Setter

/-- The parts of a setter. -/
def parts (s : Setter) : List Part :=
  [.verbatim ("        if (" ++ s.argument ++ " !== undefined) \x7b\n" ++
      "            " ++ variableOf s.target ++ ".set("),
    .literal s.key,
    .verbatim (", String(" ++ s.argument ++ "));\n" ++ "        \x7d\n")]

theorem textOf_parts (s : Setter) : textOf s.parts = s.text := by
  rw [parts, textOf_cons, textOf_cons, textOf_singleton]
  unfold Setter.text Part.text
  simp only [String.append_assoc, -String.reduceAppend]

end Setter

namespace MethodDecl

/-- The parts of a method. -/
def parts (m : MethodDecl) : List Part :=
  .verbatim m.start :: (m.setters.flatMap Setter.parts ++
    [.verbatim ((if m.isSecure then tokenUse else "") ++ m.finish)])

theorem textOf_parts (m : MethodDecl) : textOf m.parts = m.text := by
  rw [text_eq, parts, textOf_cons, textOf_append, textOf_singleton,
    textOf_flatMap Setter.textOf_parts]
  simp only [Part.text, String.append_assoc]

theorem names_parts (m : MethodDecl) : names m.parts = m.setters.map (·.key) := by
  simp only [parts, names_verbatim, names_append, names_nil, List.append_nil]
  rw [List.map_eq_flatMap]
  exact names_flatMap (fun s => rfl) m.setters

/-- The names that a method has between quotes. -/
def namesOf (m : Method) : List String :=
  (m.parameters.filterMap Setter.ofParameter?).map (·.key)

theorem names_methods {ms : List Method} {ds : List MethodDecl}
    (h : List.Forall₂ (fun m d => ∃ arguments, d = of m arguments) ms ds) :
    names (ds.flatMap parts) = ms.flatMap namesOf := by
  rw [names_flatMap names_parts]
  induction h with
  | nil => rfl
  | cons hd _ ih =>
    obtain ⟨arguments, rfl⟩ := hd
    rw [List.flatMap_cons, List.flatMap_cons, ih]
    rfl

end MethodDecl

namespace Field

/-- The parts of a field. -/
def parts (f : Field) : List Part :=
  [.verbatim ((match f.doc with
      | some d => "    /** " ++ d ++ " */\n"
      | none => "") ++ "    "),
    .literal f.name, .verbatim ("?: " ++ f.type ++ ";\n")]

theorem textOf_parts (f : Field) : textOf f.parts = f.text := by
  rw [parts, textOf_cons, textOf_cons, textOf_singleton]
  unfold Field.text Part.text
  cases f.doc <;> simp only [String.append_assoc, -String.reduceAppend]

end Field

namespace ServiceFile

/-- The parts of a service file. -/
def parts (f : ServiceFile) : List Part :=
  .verbatim f.start :: (f.enums.flatMap EnumDecl.parts ++
    .verbatim (f.classOpening ++ (if f.isSecure then tokenField else "") ++
      f.constructorLines ++ (if f.isSecure then tokenSetter else "")) ::
    (f.methods.flatMap MethodDecl.parts ++ [.verbatim "\x7d\n"]))

theorem textOf_parts (f : ServiceFile) : textOf f.parts = f.text := by
  rw [text_eq, parts, textOf_cons, textOf_append, textOf_cons, textOf_append,
    textOf_singleton, textOf_flatMap EnumDecl.textOf_parts,
    textOf_flatMap MethodDecl.textOf_parts]
  simp only [Part.text, String.append_assoc]

/-- The names that the file of a service has between quotes. -/
def namesOf (s : Service) : List String :=
  s.enums.entries.flatMap EnumDecl.namesOf ++ s.methods.flatMap MethodDecl.namesOf

theorem names_parts {s : Service} {f : ServiceFile} (h : ofService s = .ok f) :
    names f.parts = namesOf s := by
  obtain ⟨ds, rfl, hds⟩ := exists_of_ofService h
  simp only [parts, names_verbatim, names_append, names_nil, List.append_nil]
  exact congrArg₂ _ (EnumDecl.names_enums s.enums.entries)
    (MethodDecl.names_methods hds)

end ServiceFile

namespace ModelFile

/-- The text of a file in front of its enumerations. -/
def start (f : ModelFile) : String :=
  "/* tslint:disable */\n" ++ String.join (f.imports.map importLine)

/-- The lines that open the interface. -/
def opening (f : ModelFile) : String :=
  "\n" ++
    (match f.doc with
      | some d => "/**\n * " ++ d ++ "\n */\n"
      | none => "") ++
    "export interface " ++ f.name ++ " \x7b\n"

/-- The parts of the file of a model. -/
def parts (f : ModelFile) : List Part :=
  .verbatim f.start :: (f.enums.flatMap EnumDecl.parts ++
    .verbatim f.opening :: (f.fields.flatMap Field.parts ++
      [.verbatim "\x7d\n"]))

theorem textOf_parts (f : ModelFile) : textOf f.parts = f.text := by
  rw [parts, textOf_cons, textOf_append, textOf_cons, textOf_append,
    textOf_singleton, textOf_flatMap EnumDecl.textOf_parts,
    textOf_flatMap Field.textOf_parts]
  unfold ModelFile.text start opening Part.text
  cases f.doc <;> simp only [String.append_assoc, -String.reduceAppend]

/-- The names that the file of a model has between quotes. -/
def namesOf (d : Definition) : List String :=
  d.enums.entries.flatMap EnumDecl.namesOf ++
    (d.properties ++ d.refs).map (·.name.text)

theorem names_parts (d : Definition) :
    names (ofDefinition d).parts = namesOf d := by
  have hfields : names ((ofDefinition d).fields.flatMap Field.parts) =
      (d.properties ++ d.refs).map (·.name.text) := by
    show names (((d.properties ++ d.refs).map Field.ofProperty).flatMap _) = _
    rw [List.flatMap_map, List.map_eq_flatMap]
    exact names_flatMap (fun p => rfl) _
  simp only [parts, names_verbatim, names_append, names_nil, List.append_nil]
  exact congrArg₂ _ (EnumDecl.names_enums d.enums.entries) hfields

end ModelFile

/-! ### Plain names -/

section PlainNames

variable {strict : Bool}

/-- A name that reads back between single quotes. -/
def IsPlainName (strict : Bool) (name : String) : Prop :=
  (Reader.single strict).IsPlain name.toList

/-- All values of enumerations are plain. -/
def PlainValues (strict : Bool) (t : EnumTable) : Prop :=
  ∀ e ∈ t.entries, ∀ v ∈ e.values, IsPlainName strict v.text

/-- Whether a request has a parameter set under its name. -/
def IsSet (p : Parameter) : Prop :=
  p.location = some .query ∨ p.location = some .header ∨ p.location = some .form

theorem plainValues_iff (t : EnumTable) :
    (∀ n ∈ t.entries.flatMap EnumDecl.namesOf, IsPlainName strict n) ↔
      PlainValues strict t := by
  have hvalue (v : Value) : (∀ n ∈ [Text.upper v.text, v.text],
      IsPlainName strict n) ↔ IsPlainName strict v.text := by
    simp only [List.forall_mem_cons]
    exact ⟨fun h => h.2.1, fun h => ⟨isPlain_upper h, h, List.forall_mem_nil _⟩⟩
  simp only [PlainValues, EnumDecl.namesOf, List.forall_mem_flatMap, hvalue]

/-- A setter has the name of its parameter for a key. -/
theorem forall_setter_key_iff (P : String → Prop) (p : Parameter) :
    (∀ s, Setter.ofParameter? p = some s → P s.key) ↔ (IsSet p → P p.name.text) := by
  unfold Setter.ofParameter? IsSet
  rcases p.location with _ | l
  · simp
  · cases l <;> simp

theorem plain_methodNames_iff (m : Method) :
    (∀ n ∈ MethodDecl.namesOf m, IsPlainName strict n) ↔
      ∀ p ∈ m.parameters, IsSet p → IsPlainName strict p.name.text := by
  simp only [MethodDecl.namesOf, List.forall_mem_map, List.forall_mem_filterMap,
    forall_setter_key_iff (IsPlainName strict)]

theorem plain_serviceNames_iff (s : Service) :
    (∀ n ∈ ServiceFile.namesOf s, IsPlainName strict n) ↔
      PlainValues strict s.enums ∧
        ∀ m ∈ s.methods, ∀ p ∈ m.parameters, IsSet p →
          IsPlainName strict p.name.text := by
  rw [ServiceFile.namesOf, List.forall_mem_append, plainValues_iff,
    List.forall_mem_flatMap]
  simp only [plain_methodNames_iff]

theorem plain_modelNames_iff (d : Definition) :
    (∀ n ∈ ModelFile.namesOf d, IsPlainName strict n) ↔
      PlainValues strict d.enums ∧
        ∀ p ∈ d.properties ++ d.refs, IsPlainName strict p.name.text := by
  simp only [ModelFile.namesOf, List.forall_mem_append, plainValues_iff,
    List.forall_mem_map]

end PlainNames

end ClientGen.TypeScript

namespace ClientGen.Service

open TypeScript TypeScript.Part

/-- **Names between quotes.** The literals of a service file are those of the
values of its enumerations, once in upper case, and of the parameters that
requests have set; those of the file of a model are the values of its
enumerations and its properties. They all read back, each up to the quote that
closes it, exactly if the names are plain. -/
theorem literals_read_back_iff (strict : Bool) (s : Service) :
    (∀ f, ServiceFile.ofService s = .ok f →
      textOf f.parts = f.text ∧ names f.parts = ServiceFile.namesOf s ∧
        (ReadBack strict f.parts ↔
          PlainValues strict s.enums ∧
            ∀ m ∈ s.methods, ∀ p ∈ m.parameters, IsSet p →
              IsPlainName strict p.name.text)) ∧
    ∀ d ∈ s.definitions,
      textOf (ModelFile.ofDefinition d).parts = (ModelFile.ofDefinition d).text ∧
        names (ModelFile.ofDefinition d).parts = ModelFile.namesOf d ∧
        (ReadBack strict (ModelFile.ofDefinition d).parts ↔
          PlainValues strict d.enums ∧
            ∀ p ∈ d.properties ++ d.refs, IsPlainName strict p.name.text) := by
  constructor
  · intro f hf
    refine ⟨ServiceFile.textOf_parts f, ServiceFile.names_parts hf, ?_⟩
    rw [readBack_iff, ServiceFile.names_parts hf]
    exact plain_serviceNames_iff s
  · intro d _
    refine ⟨ModelFile.textOf_parts _, ModelFile.names_parts d, ?_⟩
    rw [readBack_iff, ModelFile.names_parts d]
    exact plain_modelNames_iff d

/-- A document with a model of one property. -/
def described (property : String) : Fields :=
  [ (.str "definitions", .map
      [ (.str "Pet", .map
          [ (.str "properties", .map
              [(.str property, .map [(.str "type", .str "string")])]) ]) ]) ]

/-- A model with a property whose name is plain reads back. -/
theorem literals_read_back_described :
    ∃ s, (build (.map (described "owner")) false).outcome = .ok s ∧
      ∃ d ∈ s.definitions, names (ModelFile.ofDefinition d).parts = ["owner"] ∧
        ReadBack true (ModelFile.ofDefinition d).parts := by
  obtain ⟨s, hs, d, hd, hnames, hplain⟩ :
      ∃ s, (build (.map (described "owner")) false).outcome = .ok s ∧
        ∃ d ∈ s.definitions, names (ModelFile.ofDefinition d).parts = ["owner"] ∧
          PlainValues true d.enums ∧
            ∀ p ∈ d.properties ++ d.refs, IsPlainName true p.name.text := by
    refine ⟨_, rfl, _, List.mem_cons_self, by decide, ?_, ?_⟩
    · intro e he
      cases he
    · intro p hp
      obtain rfl := List.mem_singleton.1 hp
      show (Reader.single true).IsPlain "owner".toList
      decide
  have hread := ((literals_read_back_iff true s).2 d hd).2.2.2 hplain
  exact ⟨s, hs, d, hd, hnames, hread⟩

/-- A name may leave its literal, however separators are read: a property has a
quote in its name. -/
theorem exists_literal_left :
    ¬ ∃ strict, ∀ (document : Fields) (onServer : Bool) (s : Service),
      (build (.map document) onServer).outcome = .ok s →
      (∀ f, ServiceFile.ofService s = .ok f → ReadBack strict f.parts) ∧
      ∀ d ∈ s.definitions, ReadBack strict (ModelFile.ofDefinition d).parts := by
  rintro ⟨strict, h⟩
  have hread := (h (described "owner's") false _ rfl).2 _ List.mem_cons_self
  have hplain := readBack_iff.1 hread "owner's" (by decide)
  exact absurd rfl (hplain '\'' (by decide)).1

end ClientGen.Service
