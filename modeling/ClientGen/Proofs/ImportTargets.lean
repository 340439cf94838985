import ClientGen.Proofs.DefinitionRecord

/-!
# What a model imports

Whether a property points at a model and what its type is are decided by two
chains of conditions. A property with a reference always points at a model. Its
type is the name that the reference points at only if it is neither an array of
something else nor an enumeration, for these come first in the other chain: they
*override* the reference (`Property.overriding?`).

So a model imports the names that its references point at, and for a reference
that is overridden the declared type of an array's items or the name of one of
its own enumerations. `imports_targets_iff` says so of each record, and that the
imports are all targets of references exactly if each overriding type happens to
be one. An enumeration that is none gets imported
(`exists_enumeration_imported`).
-/

namespace ClientGen

namespace Property

/-- The references of a schema, its own one and that of its items. -/
def references (schema : Value) : List Value :=
  ((schema.fields?.getD []).get? "$ref").toList ++
    (((schema.fields?.getD []).inner "items").get? "$ref").toList

/-- The type that takes the place of a reference: that of the elements of an
array that is none of references, or an enumeration. -/
def overriding? (name schema : Value) : Option String :=
  let fields := schema.fields?.getD []
  if fields.has "$ref" then
    if (fields.get "type").isText "array" then
      if (fields.inner "items").has "$ref" then none
      else some (elementType (fields.inner "items"))
    else if declares schema then some name.enumName
    else none
  else none

/-- An overridden reference is one, and its type is the one that overrides it. -/
theorem type_read_of_overriding {name schema : Value} {t : String}
    (h : overriding? name schema = some t) :
    (read name schema).1.isRef = true ∧ (read name schema).1.type = .str t ∧
      ((read name schema).1.isArray = true ∨
        (read name schema).1.isEnum = true) := by
  unfold overriding? at h
  rw [type_read, isRef_read, isArray_read, isEnum_read, pointsAtModel]
  cases hown : (schema.fields?.getD []).has "$ref" with
  | false => simp [hown] at h
  | true =>
    cases harray : ((schema.fields?.getD []).get "type").isText "array" with
    | true =>
      cases hitems : ((schema.fields?.getD []).inner "items").has "$ref" with
      | true => simp [hown, harray, hitems] at h
      | false => simpa [hown, harray, hitems] using h
    | false =>
      cases hdeclares : declares schema with
      | true => simpa [hown, harray, hdeclares] using h
      | false => simp [hown, harray, hdeclares] at h

/-- A reference that is not overridden gives its property the type. -/
theorem exists_reference_of_isRef {name schema : Value}
    (h : (read name schema).1.isRef = true)
    (hnone : overriding? name schema = none) :
    ∃ ref ∈ references schema,
      (read name schema).1.type = .str (Schema.referenceType ref) := by
  rw [isRef_read] at h
  unfold overriding? at hnone
  rw [type_read, references]
  cases harray : ((schema.fields?.getD []).get "type").isText "array" with
  | true =>
    have hitems : ((schema.fields?.getD []).inner "items").has "$ref" = true := by
      cases hown : (schema.fields?.getD []).has "$ref" with
      | true => simpa [hown, harray] using hnone
      | false => simpa [pointsAtModel, hown, harray, Fields.inner] using h
    obtain ⟨ref, href⟩ := Option.isSome_iff_exists.1 hitems
    exact ⟨ref, by simp [href], by simp [elementType, href]⟩
  | false =>
    have hown : (schema.fields?.getD []).has "$ref" = true := by
      simpa [pointsAtModel, harray] using h
    have hplain : declares schema = false := by
      simpa [hown, harray] using hnone
    obtain ⟨ref, href⟩ := Option.isSome_iff_exists.1 hown
    exact ⟨ref, by simp [href], by simp [hplain, href]⟩

end Property

namespace Definition

/-- The names that the references of a definition point at. -/
def targets (schema : Fields) : List String :=
  (sources schema).flatMap fun p =>
    (Property.references p.2).map Schema.referenceType

/-- What the type of a property that points at a model comes from: a reference
of its schema, or else the elements of an array or an enumeration of the
definition. -/
def NamedBy (d : Definition) (name schema : Value) (q : Property) : Prop :=
  match Property.overriding? name schema with
  | none =>
    ∃ ref ∈ Property.references schema,
      q.type = .str (Schema.referenceType ref)
  | some t =>
    q.type = .str t ∧ (q.isArray = true ∨ q.isEnum = true ∧ t ∈ d.enums.names)

section Record

variable (name : Value) (schema : Fields)

theorem refs_read :
    (read name schema).refs =
      ((sources schema).filter fun p =>
        Property.pointsAtModel (p.2.fields?.getD [])).map fun p =>
          (Property.read p.1 p.2).1 := by
  show ((parsed schema).map (·.1)).filter (·.isRef) = _
  rw [map_fst_parsed, List.filter_map]
  rfl

/-- What a model imports is the type of a property that points at a model. -/
theorem mem_imports_read {n : String} :
    n ∈ (read name schema).imports ↔
      ∃ q ∈ (read name schema).refs, q.type = .str n := by
  show n ∈ ((read name schema).refs.map (·.type.text)).eraseDups ↔ _
  rw [List.mem_eraseDups, List.mem_map]
  refine exists_congr fun q => and_congr_right fun hq => ?_
  rw [refs_read, List.mem_map] at hq
  obtain ⟨p, hp, rfl⟩ := hq
  obtain ⟨s, hs⟩ := Property.exists_type_read_of_isRef (List.mem_filter.1 hp).2
  rw [hs, Value.text_str, Value.str.injEq]

/-- A property that points at a model is called after its reference, or after
what overrides it. -/
theorem namedBy_read {p : Value × Value} (hp : p ∈ sources schema)
    (hisRef : (Property.read p.1 p.2).1.isRef = true) :
    NamedBy (read name schema) p.1 p.2 (Property.read p.1 p.2).1 := by
  unfold NamedBy
  cases hover : Property.overriding? p.1 p.2 with
  | none => exact Property.exists_reference_of_isRef hisRef hover
  | some t =>
    obtain ⟨-, htype, hkind⟩ := Property.type_read_of_overriding hover
    refine ⟨htype, hkind.imp id fun hisEnum => ⟨hisEnum, ?_⟩⟩
    have hmem : (Property.read p.1 p.2).1 ∈ (parsed schema).map (·.1) := by
      rw [map_fst_parsed]
      exact List.mem_map.2 ⟨p, hp, rfl⟩
    obtain ⟨e, he, hname⟩ := exists_enum_of_isEnum name schema hmem hisEnum
    rw [htype] at hname
    exact List.mem_map.2 ⟨e, he, by rw [← hname, Value.text_str]⟩

/-- All imports are targets exactly if every type that overrides a reference is
the target of another one. -/
theorem forall_imports_mem_targets_iff :
    (∀ n ∈ (read name schema).imports, n ∈ targets schema) ↔
      ∀ p ∈ sources schema, ∀ t, Property.overriding? p.1 p.2 = some t →
        t ∈ targets schema := by
  constructor
  · intro h p hp t hover
    obtain ⟨hisRef, htype, -⟩ := Property.type_read_of_overriding hover
    refine h t ((mem_imports_read name schema).2
      ⟨(Property.read p.1 p.2).1, ?_, htype⟩)
    rw [refs_read]
    exact List.mem_map.2 ⟨p, List.mem_filter.2 ⟨hp, hisRef⟩, rfl⟩
  · intro h n hn
    obtain ⟨q, hq, htype⟩ := (mem_imports_read name schema).1 hn
    rw [refs_read, List.mem_map] at hq
    obtain ⟨p, hp, rfl⟩ := hq
    obtain ⟨hp, hisRef⟩ := List.mem_filter.1 hp
    cases hover : Property.overriding? p.1 p.2 with
    | some t =>
      obtain ⟨-, hover', -⟩ := Property.type_read_of_overriding hover
      obtain rfl := Value.str.inj (htype.symm.trans hover')
      exact h p hp n hover
    | none =>
      obtain ⟨ref, href, hname⟩ :=
        Property.exists_reference_of_isRef hisRef hover
      obtain rfl := Value.str.inj (htype.symm.trans hname)
      exact List.mem_flatMap.2 ⟨p, hp, List.mem_map.2 ⟨ref, href, rfl⟩⟩

/-- **What a model imports.** The records that point at models are those of the
properties that do, in order, each called after its reference or what overrides
it; their types are the imports. All of these are targets of references exactly
if every overriding type is the target of some reference as well. -/
theorem imports_targets_iff :
    ∃ d, (build name (.map schema)).outcome = .ok d ∧
      List.Forall₂ (fun p q => q = (Property.read p.1 p.2).1 ∧
          NamedBy d p.1 p.2 q)
        ((sources schema).filter fun p =>
          Property.pointsAtModel (p.2.fields?.getD [])) d.refs ∧
      (∀ n, n ∈ d.imports ↔ ∃ q ∈ d.refs, q.type = .str n) ∧
      ((∀ n ∈ d.imports, n ∈ targets schema) ↔
        ∀ p ∈ sources schema, ∀ t, Property.overriding? p.1 p.2 = some t →
          t ∈ targets schema) := by
  refine ⟨read name schema, rfl, ?_, fun _ => mem_imports_read name schema,
    forall_imports_mem_targets_iff name schema⟩
  rw [refs_read, List.forall₂_map_right_iff]
  refine List.forall₂_same.2 fun p hp => ⟨rfl, ?_⟩
  obtain ⟨hp, hisRef⟩ := List.mem_filter.1 hp
  exact namedBy_read name schema hp hisRef

end Record

/-- A property that is a reference and restricted to values. -/
def switch : Fields :=
  [ (.str "properties", .map
      [ (.str "state", .map
          [ (.str "$ref", .str "#/definitions/Mode"),
            (.str "enum", .list [.str "on", .str "off"]) ]) ]) ]

/-- What a model imports may be no target of a reference: it is the name of an
enumeration that is declared next to the model. -/
theorem exists_enumeration_imported :
    ¬ ∀ (name : Value) (schema : Fields) (d : Definition),
      (∀ p ∈ sources schema, ∀ ref ∈ Property.references p.2,
        ∃ s, ref = .str s) →
      (build name (.map schema)).outcome = .ok d →
      ∀ n ∈ d.imports, n ∈ targets schema ∧ n ∉ d.enums.names := by
  intro h
  have hrefs : ∀ p ∈ sources switch, ∀ ref ∈ Property.references p.2,
      ∃ s, ref = .str s := by
    intro p hp ref href
    rcases List.mem_singleton.1 hp with rfl
    exact ⟨_, List.mem_singleton.1 href⟩
  have himports : (read (.str "Switch") switch).imports = ["State"] := by
    decide +kernel
  obtain ⟨htarget, -⟩ := h (.str "Switch") switch _ hrefs rfl "State"
    (by rw [himports]; exact List.mem_cons_self)
  exact absurd htarget (by decide +kernel)

end Definition

end ClientGen
