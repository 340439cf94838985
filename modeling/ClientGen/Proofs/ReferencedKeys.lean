import ClientGen.Proofs.Reference
import ClientGen.Proofs.TypeAgreement

/-!
# Keys that can be referred to

A reference to a definition is the path to its key, and a model is called by the
identifier of the key. A reference is divided at slashes and points at the last
of three pieces, so a key that has slashes itself cannot be reached: the path to
it has more pieces, and points at the first of them.

So a property that is a reference, a parameter that is an array of them and a
response that is one are all called like the model exactly if the key has no
slash (`named_by_path_iff`). There are keys that have one
(`exists_unreachable_key`).
-/

namespace ClientGen

/-! ### Arrays of references -/

namespace Schema

/-- A schema is an array of what a reference points at. -/
structure IsArrayOf (schema : Fields) (ref : String) : Prop where
  type : schema.get "type" = .str "array"
  items : (schema.inner "items").get "$ref" = .str ref

theorem IsArrayOf.exists_items {schema : Fields} {ref : String}
    (h : IsArrayOf schema ref) :
    ∃ items : Fields,
      schema.get "items" = .map items ∧ items.get "$ref" = .str ref := by
  have href := h.items
  rw [Fields.inner] at href
  cases hitems : schema.get "items" with
  | map items =>
    rw [hitems] at href
    exact ⟨items, rfl, href⟩
  | _ =>
    rw [hitems] at href
    cases href

/-- Arrays of what a reference points at are called after it. -/
theorem arrayType_of_ref {items : Fields} {ref : String}
    (h : items.get "$ref" = .str ref) :
    arrayType (.map items) (.str "array") =
      referenceType (.str ref) ++ arrayMark := by
  have hitem : itemType items = referenceType (.str ref) := by
    rw [itemType, Fields.get?_of_get_eq_str h]
  rw [arrayType_array, ← hitem]
  rfl

end Schema

namespace Parameter

/-- A parameter is an array of what a reference points at, by what it says itself
or by the schema of a body. -/
inductive IsArrayOf (p : Fields) (ref : String) : Prop where
  | own (hschema : (p.get "schema").fields? = none)
    (harray : Schema.IsArrayOf p ref) : IsArrayOf p ref
  | body {schema : Fields} (hschema : p.get "schema" = .map schema)
    (hplain : ∀ r, schema.get "$ref" ≠ .str r)
    (harray : Schema.IsArrayOf schema ref) : IsArrayOf p ref

theorem IsArrayOf.declaredType {p : Fields} {ref : String}
    (h : IsArrayOf p ref) :
    ∃ items : Fields, Parameter.declaredType p = (.str "array", .map items) ∧
      items.get "$ref" = .str ref := by
  cases h with
  | own hschema harray =>
    obtain ⟨items, hitems, href⟩ := harray.exists_items
    refine ⟨items, ?_, href⟩
    simp only [Parameter.declaredType, hschema, harray.type, hitems]
  | @body schema hschema hplain harray =>
    obtain ⟨items, hitems, href⟩ := harray.exists_items
    refine ⟨items, ?_, href⟩
    have hhas : schema.has "items" = true := by
      rw [Fields.has, Option.isSome_iff_ne_none]
      intro hnone
      rw [Fields.get, hnone] at hitems
      cases hitems
    rw [declaredType_of_type hschema hplain
      (Fields.get?_of_get_eq_str harray.type) (Or.inr hhas), hitems]

theorem typescriptType_of_isArrayOf {p : Fields} {ref : String}
    (h : IsArrayOf p ref) :
    (read p).typescriptType =
      Schema.referenceType (.str ref) ++ Schema.arrayMark := by
  obtain ⟨items, hdeclared, href⟩ := h.declaredType
  rw [typescriptType_read_of_not_promotes (promotes_of_array hdeclared),
    plainType_of_array hdeclared, Schema.arrayType_of_ref href]

end Parameter

theorem Response.schemaType_of_isArrayOf {schema : Fields} {ref : String}
    (h : Schema.IsArrayOf schema ref) :
    schemaType schema =
      Schema.referenceType (.str ref) ++ Schema.arrayMark := by
  obtain ⟨items, hitems, href⟩ := h.exists_items
  rw [schemaType_of_array h.type, hitems, Schema.arrayType_of_ref href]

/-! ### References to keys -/

namespace Schema

/-- The path to a key with slashes names nothing but the root of the
document. -/
theorem referenceType_path_of_slash_mem {k : String} (h : '/' ∈ k.toList) :
    referenceType (.str ("#/definitions/" ++ k)) = "#" := by
  have hroot : Text.identifier "#" = "#" := by decide
  rw [referenceType, referenceTarget_path_of_slash_mem h, hroot]
  exact if_neg (by decide)

/-- The path to a key names the model of the key exactly if the key has no
slash. -/
theorem referenceType_path_eq_iff {k : String} (hk : Text.identifier k ≠ "") :
    referenceType (.str ("#/definitions/" ++ k)) = Text.identifier k ↔
      '/' ∉ k.toList := by
  by_cases hslash : '/' ∈ k.toList
  · -- The identifier of the key still has the slash.
    have hkept : '/' ∈ (Text.identifier k).toList := by
      rw [Text.toList_identifier]
      exact Text.mem_identifierChars_of_mem (by decide) (by decide) hslash
    rw [referenceType_path_of_slash_mem hslash]
    refine iff_of_false (fun hsame => ?_) (not_not_intro hslash)
    rw [← hsame] at hkept
    exact absurd hkept (by decide)
  · rw [referenceType, referenceTarget_path hslash]
    exact iff_of_true (if_neg hk) hslash

/-- **References to keys.** The path to a key is called the same where a property
is the path and where a parameter or a response is an array of it. That is what
the model of the key is called exactly if the key has no slash, and otherwise it
is the first piece of the path. -/
theorem named_by_path_iff {k : String} {body : Fields} {d : Definition}
    (hk : Text.identifier k ≠ "")
    (hd : (Definition.build (.str k) (.map body)).outcome = .ok d) :
    ∃ n : String,
      (∀ name schema, IsReference schema ("#/definitions/" ++ k) →
        (Property.read name (.map schema)).1.type = .str n) ∧
      (∀ p, Parameter.IsArrayOf p ("#/definitions/" ++ k) →
        (Parameter.read p).typescriptType = n ++ arrayMark) ∧
      (∀ operation,
        IsArrayOf (Response.schemaOf operation) ("#/definitions/" ++ k) →
        Response.typeOf operation = n ++ arrayMark) ∧
      (d.name = some n ↔ '/' ∉ k.toList) ∧
      ('/' ∈ k.toList → n = "#") := by
  have hname : d.name = some (Text.identifier k) := by
    cases hd
    rfl
  refine ⟨referenceType (.str ("#/definitions/" ++ k)), ?_, ?_, ?_, ?_,
    referenceType_path_of_slash_mem⟩
  · intro name schema hschema
    exact Property.type_of_isReference hschema name
  · intro p hp
    exact Parameter.typescriptType_of_isArrayOf hp
  · intro operation hoperation
    rw [Response.typeOf_eq, Response.schemaType_of_isArrayOf hoperation]
  · rw [hname, Option.some_inj, eq_comm, referenceType_path_eq_iff hk]

/-- A key with dashes and a dot is referred to by its path. -/
theorem named_by_path_petTag :
    let ref := "#/definitions/pet-tag.v2"
    (Property.read (.str "tag") (.map (pointer ref))).1.type = .str "petTagV2" ∧
    (Parameter.read (listing (pointer ref))).typescriptType = "petTagV2[]" ∧
    (Parameter.read (carrying (listing (pointer ref)))).typescriptType =
      "petTagV2[]" ∧
    Response.typeOf (answering (listing (pointer ref))) = "petTagV2[]" := by
  intro ref
  obtain ⟨n, hproperty, hparameter, hresponse, hname, -⟩ :=
    @named_by_path_iff "pet-tag.v2" [] _ (by decide +kernel) rfl
  have hn : n = "petTagV2" := by
    have hmodel := hname.2 (by decide)
    have hidentifier : Text.identifier "pet-tag.v2" = "petTagV2" := by
      decide +kernel
    exact (Option.some.inj hmodel).symm.trans hidentifier
  have harray : IsArrayOf (listing (pointer ref)) ref := ⟨rfl, rfl⟩
  subst hn
  exact ⟨hproperty _ _ (isReference_pointer ref), hparameter _ (.own rfl harray),
    hparameter _ (.body rfl (fun _ h => by cases h) harray),
    hresponse _ harray⟩

/-- A key with a slash has a model that no path to it names. -/
theorem exists_unreachable_key :
    ¬ ∀ (k : String) (body : Fields) (d : Definition),
      k ≠ "" → Text.identifier k ≠ "" →
      (Definition.build (.str k) (.map body)).outcome = .ok d →
      ∃ n, d.name = some n ∧
        (∀ name schema, IsReference schema ("#/definitions/" ++ k) →
          (Property.read name (.map schema)).1.type = .str n) ∧
        (∀ p, Parameter.IsArrayOf p ("#/definitions/" ++ k) →
          (Parameter.read p).typescriptType = n ++ arrayMark) ∧
        ∀ operation,
          IsArrayOf (Response.schemaOf operation) ("#/definitions/" ++ k) →
          Response.typeOf operation = n ++ arrayMark := by
  intro h
  obtain ⟨n, hname, hproperty, -, -⟩ :=
    h "pets/dog" [] _ (by decide) (by decide +kernel) rfl
  have hmodel : n = "pets/dog" := by
    have hidentifier : Text.identifier "pets/dog" = "pets/dog" := by
      decide +kernel
    exact (Option.some.inj hname).symm.trans hidentifier
  have htype := hproperty (.str "friend") _ (isReference_pointer _)
  rw [hmodel, Property.type_of_isReference (isReference_pointer _),
    referenceType_path_of_slash_mem (by decide)] at htype
  exact absurd (Value.str.inj htype) (by decide)

end Schema

end ClientGen
