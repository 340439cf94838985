import Mathlib.Data.List.Nodup
import ClientGen.Proofs.ImportTargets
import ClientGen.Proofs.Output
import ClientGen.Proofs.ReferencedKeys

/-!
# The scope of a model file

A model file brings names of three origins into one scope: the models that it
imports, the enumerations that it declares, and the model itself. A name is
imported once and declared once, but the origins are not compared with each
other.

So `nodup_bound_iff` says which collisions are left, property by property: one
that imports the model itself, one that declares an enumeration called like the
model, and one that declares what some property imports. The first is what every
model does that refers to itself (`not_apart_of_refersTo`), be it a node of a
list or a tree, and its file then imports a name from where that very name is
declared (`exists_self_import`).
-/

namespace ClientGen

namespace TypeScript.ModelFile

/-- The names that the file brings into scope: those that it imports, those of
its enumerations, and that of its interface. -/
def bound (f : ModelFile) : List String :=
  f.imports ++ f.enums.map (·.name) ++ [f.name]

end TypeScript.ModelFile

/-! ### What a property imports -/

namespace Property

/-- The name that a property of a schema imports, if it points at a model: that
of its reference, unless the elements of an array or an enumeration come
first. -/
def imported? (name schema : Value) : Option String :=
  let fields := schema.fields?.getD []
  let items := fields.inner "items"
  if (fields.get "type").isText "array" then
    if fields.has "$ref" || items.has "$ref" then some (elementType items)
    else none
  else
    (fields.get? "$ref").map fun ref =>
      if declares schema then name.enumName else Schema.referenceType ref

/-- What is imported is the type of a property that points at a model. -/
theorem imported?_eq_some_iff {name schema : Value} {n : String} :
    imported? name schema = some n ↔
      (read name schema).1.isRef = true ∧
        (read name schema).1.type = .str n := by
  rw [isRef_read, pointsAtModel, type_read, imported?]
  cases harray : ((schema.fields?.getD []).get "type").isText "array" with
  | true => simp [Fields.inner]
  | false =>
    cases hown : (schema.fields?.getD []).get? "$ref" with
    | none => simp [hown, Fields.has]
    | some ref => cases hdeclares : declares schema <;> simp [hown, Fields.has]

variable {schema : Fields} {ref : String}

/-- A reference imports what it points at. -/
theorem imported?_of_isReference (h : Schema.IsReference schema ref)
    (name : Value) :
    imported? name (.map schema) = some (Schema.referenceType (.str ref)) := by
  refine imported?_eq_some_iff.2 ⟨?_, type_of_isReference h name⟩
  simp [isRef_read, pointsAtModel, Fields.has, Value.fields?,
    Fields.get?_of_get_eq_str h.ref]

/-- An array of references imports what they point at. -/
theorem imported?_of_isArrayOf (h : Schema.IsArrayOf schema ref)
    (name : Value) :
    imported? name (.map schema) = some (Schema.referenceType (.str ref)) := by
  have hitems : (schema.inner "items").get? "$ref" = some (.str ref) :=
    Fields.get?_of_get_eq_str h.items
  have harray : (schema.get "type").isText "array" = true := by
    rw [h.type]
    rfl
  simp [imported?, Value.fields?, harray, Fields.has, hitems, elementType]

/-- A property that is a reference to a key, or an array of such. -/
inductive RefersTo (k : String) : Value → Prop where
  | plain {schema : Fields}
    (h : Schema.IsReference schema ("#/definitions/" ++ k)) :
    RefersTo k (.map schema)
  | array {schema : Fields}
    (h : Schema.IsArrayOf schema ("#/definitions/" ++ k)) :
    RefersTo k (.map schema)

/-- What refers to a key without slashes imports the model of the key. -/
theorem imported?_of_refersTo {k : String} {schema : Value}
    (h : RefersTo k schema) (hk : Text.identifier k ≠ "")
    (hslash : '/' ∉ k.toList) (name : Value) :
    imported? name schema = some (Text.identifier k) := by
  have htarget := (Schema.referenceType_path_eq_iff hk).2 hslash
  cases h with
  | plain h => rw [imported?_of_isReference h, htarget]
  | array h => rw [imported?_of_isArrayOf h, htarget]

end Property

/-! ### What a model brings into scope -/

namespace Definition

open TypeScript

/-- No two of the three origins of names share one: the properties import and
declare neither the model nor what another one declares. -/
structure Apart (name : Value) (schema : Fields) : Prop where
  imported : ∀ p ∈ sources schema,
    Property.imported? p.1 p.2 ≠ some (nameText name.identifier?)
  declared : ∀ p ∈ sources schema, Property.declares p.2 = true →
    p.1.enumName ≠ nameText name.identifier?
  disjoint : ∀ p ∈ sources schema, Property.declares p.2 = true →
    ∀ q ∈ sources schema, Property.imported? q.1 q.2 ≠ some p.1.enumName

/-- The names that a model file brings into scope, by their origin. -/
structure Binds (name : Value) (schema : Fields) (f : ModelFile) : Prop where
  imports : ∀ n, n ∈ f.imports ↔
    ∃ p ∈ sources schema, Property.imported? p.1 p.2 = some n
  enums : ∀ n, n ∈ f.enums.map (·.name) ↔
    ∃ p ∈ sources schema, Property.declares p.2 = true ∧ p.1.enumName = n
  name : f.name = nameText name.identifier?
  nodup_imports : f.imports.Nodup
  nodup_enums : (f.enums.map (·.name)).Nodup

/-- A file has no name twice exactly if none has two origins. -/
theorem Binds.nodup_iff_apart {name : Value} {schema : Fields} {f : ModelFile}
    (h : Binds name schema f) : f.bound.Nodup ↔ Apart name schema := by
  rw [ModelFile.bound, List.nodup_append', List.nodup_append',
    List.disjoint_singleton, List.mem_append, h.name]
  constructor
  · rintro ⟨⟨-, -, hdisjoint⟩, -, hown⟩
    refine ⟨fun p hp himport => hown (Or.inl ((h.imports _).2 ⟨p, hp, himport⟩)),
      fun p hp hdeclares hname =>
        hown (Or.inr ((h.enums _).2 ⟨p, hp, hdeclares, hname⟩)), ?_⟩
    intro p hp hdeclares q hq himport
    exact hdisjoint ((h.imports _).2 ⟨q, hq, himport⟩)
      ((h.enums _).2 ⟨p, hp, hdeclares, rfl⟩)
  · intro hapart
    refine ⟨⟨h.nodup_imports, h.nodup_enums, ?_⟩, List.nodup_singleton _, ?_⟩
    · intro n himport henum
      obtain ⟨q, hq, himport⟩ := (h.imports n).1 himport
      obtain ⟨p, hp, hdeclares, rfl⟩ := (h.enums n).1 henum
      exact hapart.disjoint p hp hdeclares q hq himport
    · rintro (himport | henum)
      · obtain ⟨p, hp, himport⟩ := (h.imports _).1 himport
        exact hapart.imported p hp himport
      · obtain ⟨p, hp, hdeclares, hname⟩ := (h.enums _).1 henum
        exact hapart.declared p hp hdeclares hname

section Record

variable (name : Value) (schema : Fields)

/-- The enumerations of the file of a model are those of the model. -/
theorem names_enums_ofDefinition (d : Definition) :
    (ModelFile.ofDefinition d).enums.map (·.name) = d.enums.names := by
  rw [ModelFile.ofDefinition, List.map_map]
  rfl

theorem mem_imports_read_iff {n : String} :
    n ∈ (read name schema).imports ↔
      ∃ p ∈ sources schema, Property.imported? p.1 p.2 = some n := by
  rw [mem_imports_read, refs_read]
  constructor
  · rintro ⟨q, hq, htype⟩
    obtain ⟨p, hp, rfl⟩ := List.mem_map.1 hq
    obtain ⟨hp, hisRef⟩ := List.mem_filter.1 hp
    exact ⟨p, hp, Property.imported?_eq_some_iff.2 ⟨hisRef, htype⟩⟩
  · rintro ⟨p, hp, himport⟩
    obtain ⟨hisRef, htype⟩ := Property.imported?_eq_some_iff.1 himport
    exact ⟨_, List.mem_map.2 ⟨p, List.mem_filter.2 ⟨hp, hisRef⟩, rfl⟩, htype⟩

theorem mem_names_enums_read_iff {n : String} :
    n ∈ (read name schema).enums.names ↔
      ∃ p ∈ sources schema, Property.declares p.2 = true ∧
        p.1.enumName = n := by
  rw [names_enums_read, List.mem_eraseDups, declaredIn, List.mem_map]
  simp only [List.mem_filter, and_assoc]

theorem binds_read :
    Binds name schema (ModelFile.ofDefinition (read name schema)) where
  imports := fun _ => mem_imports_read_iff name schema
  enums := by
    intro n
    rw [names_enums_ofDefinition]
    exact mem_names_enums_read_iff name schema
  name := rfl
  nodup_imports := FirstOfEach.nodup_eraseDups _
  nodup_enums := by
    rw [names_enums_ofDefinition, names_enums_read]
    exact FirstOfEach.nodup_eraseDups _

/-- **The scope of a model file.** The file of a model imports and declares the
names of its properties, each once. It brings no name into scope twice exactly
if no name has two of its origins. It lies where a file looks for a module that
imports the name of the model, itself included. -/
theorem nodup_bound_iff :
    ∃ d f, (build name (.map schema)).outcome = .ok d ∧
      f = ModelFile.ofDefinition d ∧
      TemplateSet.packaged.model d = .ok f.text ∧
      Binds name schema f ∧
      (f.bound.Nodup ↔ Apart name schema) ∧
      ∀ n, name.identifier? = some n → ∀ set out,
        (Output.model set out d).path =
          .ok ((Output.modelsDir out).child (modelModule n ++ ".ts")) := by
  have hbinds := binds_read name schema
  refine ⟨read name schema, _, rfl, rfl, rfl, hbinds, hbinds.nodup_iff_apart, ?_⟩
  intro n hname set out
  have hfile : Output.modelFile n = modelModule n ++ ".ts" := by
    unfold Output.modelFile modelModule
    rw [String.append_assoc]
    rfl
  rw [← hfile]
  exact Output.path_of_name set out hname

end Record

/-- A model that refers to itself imports itself. -/
theorem not_apart_of_refersTo {k : String} {schema : Fields}
    (hk : Text.identifier k ≠ "") (hslash : '/' ∉ k.toList)
    (h : ∃ p ∈ sources schema, Property.RefersTo k p.2) :
    ¬ Apart (.str k) schema := by
  obtain ⟨p, hp, hrefers⟩ := h
  exact fun hapart => hapart.imported p hp
    (Property.imported?_of_refersTo hrefers hk hslash p.1)

/-- A list whose nodes point at the next one. -/
def linked : Fields :=
  [ (.str "properties", .map
      [ (.str "next", .map (Schema.pointer "#/definitions/Node")) ]) ]

/-- The file of a model that refers to itself has its own name twice. -/
theorem exists_self_import :
    ¬ ∀ (name : Value) (schema : Fields) (d : Definition) (n : String),
      name.identifier? = some n → n ≠ "" →
      (build name (.map schema)).outcome = .ok d →
      (ModelFile.ofDefinition d).bound.Nodup := by
  intro h
  have hname : Text.identifier "Node" = "Node" := by decide +kernel
  have hk : Text.identifier "Node" ≠ "" := by
    rw [hname]
    decide
  have hnodup := h (.str "Node") linked _ _ rfl hk rfl
  refine not_apart_of_refersTo hk (by decide) ?_
    ((binds_read (.str "Node") linked).nodup_iff_apart.1 hnodup)
  exact ⟨_, List.mem_singleton_self _,
    .plain (Schema.isReference_pointer "#/definitions/Node")⟩

end Definition

end ClientGen
