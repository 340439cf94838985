import Mathlib.Data.List.Forall2
import ClientGen.Proofs.EnumTable
import ClientGen.Definition

/-!
# Enumerations of definitions

A definition declares an enumeration for each of its properties that is no
array and is restricted to values. The names that all definitions of a document
declare (`declaredNames`) are what the events of the definitions shadow
(`applyAll_allEvents`).
-/

namespace ClientGen

namespace Property

/-- Whether a schema declares an enumeration: it is no array and restricted to
values. -/
def declares (schema : Value) : Bool :=
  let fields := schema.fields?.getD []
  !(fields.get "type").isText "array" &&
    !((fields.get "enum").items?.getD []).isEmpty

/-- The values that a schema is restricted to. -/
def allowedValues (schema : Value) : List Value :=
  (((schema.fields?.getD []).get "enum").items?).getD []

theorem snd_read (name schema : Value) :
    (read name schema).2 =
      if declares schema then some ⟨.str name.enumName, allowedValues schema⟩
      else none := rfl

theorem isRef_read (name schema : Value) :
    (read name schema).1.isRef = pointsAtModel (schema.fields?.getD []) := rfl

theorem isArray_read (name schema : Value) :
    (read name schema).1.isArray =
      ((schema.fields?.getD []).get "type").isText "array" := rfl

theorem isEnum_read (name schema : Value) :
    (read name schema).1.isEnum = declares schema := rfl

theorem type_read (name schema : Value) :
    (read name schema).1.type =
      if ((schema.fields?.getD []).get "type").isText "array" then
        .str (elementType ((schema.fields?.getD []).inner "items"))
      else if declares schema then .str name.enumName
      else
        match (schema.fields?.getD []).get? "$ref" with
        | some ref => .str (Schema.referenceType ref)
        | none => (schema.fields?.getD []).get "type" := rfl

theorem typescriptType_read (name schema : Value) :
    (read name schema).1.typescriptType =
      Schema.propertyType (read name schema).1.type := rfl

/-- An array declares no enumeration. -/
theorem isText_array_of_declares {schema : Value} (h : declares schema = true) :
    ((schema.fields?.getD []).get "type").isText "array" = false := by
  rw [declares, Bool.and_eq_true, Bool.not_eq_true'] at h
  exact h.1

end Property

namespace Definition

/-- The names that the properties of a definition declare, repeated ones
included. -/
def declaredIn (schema : Fields) : List String :=
  ((sources schema).filter fun p => Property.declares p.2).map fun p =>
    p.1.enumName

/-- The names that the definitions of a document declare, in its order. -/
def declaredNames (document : Fields) : List String :=
  (schemasOf document).flatMap fun e => declaredIn (e.2.fields?.getD [])

/-- The properties of a definition, each read from its source. -/
theorem map_fst_parsed (schema : Fields) :
    (parsed schema).map (·.1) =
      (sources schema).map fun p => (Property.read p.1 p.2).1 := by
  rw [parsed, List.map_map]
  rfl

theorem declarations_eq (schema : Fields) :
    declarations schema =
      ((sources schema).filter fun p => Property.declares p.2).map fun p =>
        ⟨.str p.1.enumName, Property.allowedValues p.2⟩ := by
  rw [declarations, parsed]
  induction sources schema with
  | nil => rfl
  | cons p ps ih =>
    obtain ⟨name, s⟩ := p
    rw [List.map_cons, List.filterMap_cons, Property.snd_read, ih]
    cases hs : Property.declares s with
    | false => rw [List.filter_cons_of_neg (by simp [hs])]; rfl
    | true => rw [List.filter_cons_of_pos (by exact hs)]; rfl

/-- Declared enumerations are named by texts. -/
theorem textual_declarations (schema : Fields) :
    ∀ e ∈ declarations schema, e.Textual := by
  intro e he
  rw [declarations_eq, List.mem_map] at he
  obtain ⟨p, -, rfl⟩ := he
  exact ⟨_, rfl⟩

theorem names_declarations (schema : Fields) :
    (declarations schema).map (·.name.text) = declaredIn schema := by
  rw [declarations_eq, List.map_map]
  rfl

/-- A definition has each name that it declares once, in the order in which
they first occur. -/
theorem names_enums_read (name : Value) (schema : Fields) :
    (read name schema).enums.names = (declaredIn schema).eraseDups := by
  rw [← names_declarations]
  exact EnumTable.names_registerAll_empty (textual_declarations schema)

/-- A definition has the names that it declares. -/
theorem has_enums_read (name : Value) (schema : Fields) (v : Value) :
    (read name schema).enums.has v =
      (declaredIn schema).any fun n => v.equals (.str n) := by
  have htextual : ∀ e ∈ (read name schema).enums.entries, e.Textual := by
    intro e he
    have hentries := EnumTable.entries_registerAll_empty (declarations schema)
    have hmem : e ∈ (EnumTable.empty.registerAll (declarations schema)).entries :=
      he
    rw [hentries] at hmem
    exact textual_declarations schema e
      ((FirstOfEach.eraseDupsBy_sublist _).mem hmem)
  rw [EnumTable.has_eq_any_names htextual, names_enums_read, Bool.eq_iff_iff]
  simp only [List.any_eq_true, List.mem_eraseDups]

/-- The properties of a definition are those of its sources, in another
order. -/
theorem perm_properties (name : Value) (schema : Fields) :
    ((read name schema).properties ++ (read name schema).refs).Perm
      ((sources schema).map fun p => (Property.read p.1 p.2).1) := by
  rw [← map_fst_parsed]
  have hsplit := List.filter_append_perm (fun p : Property => !p.isRef)
    ((parsed schema).map (·.1))
  simpa [read] using hsplit

/-! ### What definitions leave in a table -/

/-- Declaring shadows every name, whether or not it is declared again. -/
theorem applyAll_declareEvents (owner : Option String) (own : EnumTable)
    (es : List Enumeration) (t : EnumTable) :
    t.applyAll (declareEvents owner own es) =
      t.shadowAll (es.map (·.name)) := by
  induction es generalizing own t with
  | nil => rfl
  | cons e es ih =>
    have hagain : t.applyAll
        (if own.has e.name then [.declaredAgain e.name owner] else []) = t := by
      split <;> rfl
    rw [declareEvents, EnumTable.applyAll_append, hagain,
      EnumTable.applyAll_cons, ih]
    rfl

/-- A definition shadows the names that it declares. -/
theorem applyAll_events (name : Value) (schema : Fields) (t : EnumTable) :
    t.applyAll (events name schema) =
      t.shadowAll ((declaredIn schema).map .str) := by
  rw [events, applyAll_declareEvents, declarations_eq, declaredIn,
    List.map_map, List.map_map]
  rfl

/-- The definitions of a document shadow the names that they declare. -/
theorem applyAll_allEvents (document : Fields) (t : EnumTable) :
    t.applyAll (allEvents document) =
      t.shadowAll ((declaredNames document).map .str) := by
  rw [allEvents, declaredNames]
  induction schemasOf document generalizing t with
  | nil => rfl
  | cons e es ih =>
    rw [List.flatMap_cons, List.flatMap_cons, EnumTable.applyAll_append,
      applyAll_events, ih, List.map_append, EnumTable.shadowAll_append]

/-! ### The records of a document -/

/-- Marking the last record changes nothing but its mark. -/
theorem forall₂_markLast (ds : List Definition) :
    List.Forall₂ (fun d d' => ∃ last, d' = { d with isLast := last }) ds
      (markLast ds) := by
  fun_induction markLast ds with
  | case1 => exact List.Forall₂.nil
  | case2 d => exact List.Forall₂.cons ⟨true, rfl⟩ List.Forall₂.nil
  | case3 d rest _ ih => exact List.Forall₂.cons ⟨d.isLast, rfl⟩ ih

/-- The records of a document are those of its entries, in order. -/
theorem forall₂_readAll (document : Fields) :
    List.Forall₂
      (fun e d => ∃ last,
        d = { read e.1 (e.2.fields?.getD []) with isLast := last })
      (schemasOf document) (readAll document) := by
  have hread : readAll document = markLast ((schemasOf document).map fun e =>
    read e.1 (e.2.fields?.getD [])) := rfl
  have h := forall₂_markLast ((schemasOf document).map fun e =>
    read e.1 (e.2.fields?.getD []))
  rwa [← hread, List.forall₂_map_left_iff] at h

end Definition

end ClientGen
