import ClientGen.Proofs.OutputTypes
import ClientGen.Proofs.ValueText
import ClientGen.TypeScript.ModelFile

/-!
# One type in three places

A schema may stand in the place of a parameter, of a response and of a property,
and each place has its own way to a type. A response takes the name that a
reference points at as it is, a parameter reads it once more as if it had been
declared (`Schema.scalarType`), and a property once more by a shorter table
(`Schema.propertyType`). So there are names that a place does not leave as they
are, and these are what the places differ in.

* A reference has the same type in all places exactly if the name that it
  points at is read as itself (`reference_types_agree_iff`).
* Arrays have the same type as a parameter and as a response
  (`array_types_agree`).
* As a property an array has the type that it has as a parameter exactly if
  both tables know its items alike (`array_property_agrees_iff`).
-/

namespace ClientGen

namespace Schema

/-! ### Names that are read again -/

/-- A name that is read as a declared type stays as it is: it is no scalar, in
no case of letters, or one of the two scalars that keep their names. -/
def ReadsAsItself (n : String) : Prop :=
  Text.lower n ∉ scalarNames.map (·.1) ∨ n ∈ ["string", "boolean"]

instance (n : String) : Decidable (ReadsAsItself n) := by
  unfold ReadsAsItself
  infer_instance

theorem lookup_eq_self_iff {n : String} :
    scalarNames.lookup (Text.lower n) = some n ↔ n ∈ ["string", "boolean"] := by
  have hkept : ∀ e ∈ scalarNames, Text.lower e.2 = e.1 →
      e.2 ∈ ["string", "boolean"] := by
    decide
  constructor
  · intro h
    obtain ⟨before, after, hsplit, -⟩ := List.lookup_eq_some_iff.1 h
    exact hkept (Text.lower n, n) (by rw [hsplit]; simp) rfl
  · intro h
    simp only [List.mem_cons, List.not_mem_nil, or_false] at h
    rcases h with rfl | rfl <;> decide

theorem lookup_eq_none_iff {n : String} :
    scalarNames.lookup n = none ↔ n ∉ scalarNames.map (·.1) := by
  rw [List.lookup_eq_none_iff, List.mem_map]
  constructor
  · rintro h ⟨e, he, rfl⟩
    simpa using h e he
  · intro h e he
    rw [bne_iff_ne]
    rintro rfl
    exact h ⟨e, he, rfl⟩

/-- An identifier is read as itself, or as the scalar that it is called like. -/
theorem scalarType_eq_self_iff {n : String} (hn : Text.identifier n = n)
    (hne : n ≠ "") : scalarType (.str n) = n ↔ ReadsAsItself n := by
  rw [scalarType, if_neg hne, hn, ReadsAsItself, ← lookup_eq_none_iff,
    ← lookup_eq_self_iff]
  cases scalarNames.lookup (Text.lower n) <;> simp

/-- A property keeps a type exactly if it is none of those that are renamed. -/
theorem renamed_eq_self_iff {t : String} : renamed t = t ↔ t ∉ renamedTypes := by
  have hother : ∀ t ∈ renamedTypes, renamed t ≠ t := by decide
  exact ⟨fun h hrenamed => hother t hrenamed h, renamed_of_notMem⟩

/-- A name that a parameter keeps is kept by a property. -/
theorem ReadsAsItself.notMem_renamedTypes {n : String} (h : ReadsAsItself n)
    (hne : n ≠ "") : n ∉ renamedTypes := by
  have hother : ∀ t ∈ renamedTypes, t ≠ "" → ¬ ReadsAsItself t := by decide
  exact fun hrenamed => hother n hrenamed hne h

/-! ### References -/

/-- The name of a reference is an identifier. -/
theorem identifier_referenceType (ref : Value) :
    Text.identifier (referenceType ref) = referenceType ref := by
  have hany : Text.identifier anyType = anyType := by decide
  cases ref with
  | str s =>
    rw [referenceType]
    split
    · exact hany
    · exact Text.identifier_identifier _
  | _ => exact hany

/-- A schema says nothing but what it refers to. -/
structure IsReference (schema : Fields) (ref : String) : Prop where
  ref : schema.get "$ref" = .str ref
  type : schema.get? "type" = none
  enum : schema.get? "enum" = none

end Schema

namespace Parameter

/-- The schema of a body decides by its reference, if it has one. -/
theorem declaredType_of_ref {p schema : Fields} {ref : String}
    (hschema : p.get "schema" = .map schema)
    (href : schema.get "$ref" = .str ref) :
    declaredType p =
      (.str (Schema.referenceType (.str ref)), p.get "items") := by
  simp only [declaredType, hschema, Value.fields?, href]

/-- A schema without a reference decides by its type, and by its items unless
only the body has some. -/
theorem declaredType_of_type {p schema : Fields} {t : Value}
    (hschema : p.get "schema" = .map schema)
    (href : ∀ ref, schema.get "$ref" ≠ .str ref)
    (htype : schema.get? "type" = some t)
    (hitems : p.get? "items" = none ∨ schema.has "items" = true) :
    declaredType p = (t, schema.get "items") := by
  have hsame : (schema.get? "items").getD (p.get "items") =
      schema.get "items" := by
    rw [Fields.get, Fields.get]
    rcases hitems with hnone | hsome
    · rw [hnone]
      rfl
    · obtain ⟨items, hfound⟩ := Option.isSome_iff_exists.1 hsome
      rw [hfound]
      rfl
  -- That the first case does not apply is `href`.
  simp only [declaredType, hschema, Value.fields?, htype, hsame]

/-- A parameter without an enumeration has the type that it declares. -/
theorem typescriptType_of_no_enum {p : Fields} (h : p.get? "enum" = none) :
    (read p).typescriptType = plainType p := by
  have hvalues : allowedValues p = [] := by
    rw [allowedValues, Fields.get, h]
    rfl
  exact typescriptType_read_of_not_promotes (by simp [promotes, hvalues])

/-- An array promotes no enumeration, whatever values it is restricted to. -/
theorem promotes_of_array {p : Fields} {items : Value}
    (h : declaredType p = (.str "array", items)) : promotes p = false := by
  simp [promotes, h, Value.isText]

/-- A parameter that promotes no enumeration leaves the table as it is. -/
theorem tableAfter_build_of_not_promotes {p : Fields} (h : promotes p = false)
    (t : EnumTable) : (build (.map p)).tableAfter t = t := by
  have hevents : (build (.map p)).events = [] := by
    simp [build, Value.fields?, promoted?_eq, h]
  rw [Traced.tableAfter, hevents, EnumTable.applyAll_nil]

end Parameter

namespace Schema

/-- The type of the items of an array. -/
def itemType (items : Fields) : String :=
  match items.get? "$ref" with
  | some ref => referenceType ref
  | none => scalarType (items.get "type")

/-- A type that is no text may be anything. -/
theorem scalarType_of_text?_eq_none {v : Value} (h : v.text? = none) :
    scalarType v = anyType := by
  cases v with
  | str s => cases h
  | _ => rfl

theorem scalarType_of_not_truthy {v : Value} (h : v.truthy = false) :
    scalarType v = anyType := by
  rcases v.text_or_none with ⟨s, rfl⟩ | hnone
  · have hempty : s = "" := by simpa [Value.truthy] using h
    rw [scalarType, if_pos hempty]
  · exact scalarType_of_text?_eq_none hnone

/-- Arrays are called after the type of their items. That of arrays of which
nothing is known comes to the same. -/
theorem arrayType_array (items : Value) :
    arrayType items (.str "array") =
      itemType (items.fields?.getD []) ++ arrayMark := by
  rw [arrayType, itemType]
  generalize items.fields?.getD [] = fields
  cases fields.get? "$ref" with
  | some ref => rfl
  | none =>
    cases htruthy : (fields.get "type").truthy with
    | true => simp [htruthy]
    | false =>
      have hany : scalarType (.str "array") = anyType ++ arrayMark := by decide
      simp [htruthy, scalarType_of_not_truthy htruthy, hany]

end Schema

namespace Response

/-- A response that is an array has the type of arrays of its items. -/
theorem schemaType_of_array {schema : Fields}
    (h : schema.get "type" = .str "array") :
    schemaType schema =
      Schema.arrayType (schema.get "items") (.str "array") := by
  rw [schemaType, Fields.get?_of_get_eq_str h, Schema.arrayType_array,
    Schema.itemType]
  have harray : (Value.str "array").isText "array" = true := by decide
  simp only [harray, if_true]
  cases ((schema.get "items").fields?.getD []).get? "$ref" <;> rfl

/-- A response that is a reference has the name that it points at. -/
theorem schemaType_of_isReference {schema : Fields} {ref : String}
    (h : Schema.IsReference schema ref) :
    schemaType schema = Schema.referenceType (.str ref) := by
  rw [schemaType, h.type, Fields.get?_of_get_eq_str h.ref]

end Response

namespace Property

/-- A property that is a reference is of the type that it points at. -/
theorem type_of_isReference {schema : Fields} {ref : String}
    (h : Schema.IsReference schema ref) (name : Value) :
    (read name (.map schema)).1.type = .str (Schema.referenceType (.str ref)) := by
  have htype : schema.get "type" = .null := by
    rw [Fields.get, h.type]
    rfl
  have henum : schema.get "enum" = .null := by
    rw [Fields.get, h.enum]
    rfl
  simp [type_read, declares, Value.fields?, Value.items?, htype, henum,
    Value.isText, Fields.get?_of_get_eq_str h.ref]

/-- A property that is a reference reads the name that it points at as the type
of a property. -/
theorem typescriptType_of_isReference {schema : Fields} {ref : String}
    (h : Schema.IsReference schema ref) (name : Value) :
    (read name (.map schema)).1.typescriptType =
      Schema.propertyType (.str (Schema.referenceType (.str ref))) := by
  rw [typescriptType_read, type_of_isReference h]

end Property

namespace Schema

/-- A name is not an array of anything if it does not end in the mark. -/
theorem append_arrayMark_ne_array (t : String) : t ++ arrayMark ≠ "array" := by
  intro h
  have hmem : ']' ∈ (t ++ arrayMark).toList := by
    rw [String.toList_append]
    exact List.mem_append_right _ (by decide)
  rw [h] at hmem
  exact absurd hmem (by decide)

end Schema

namespace Parameter

/-- What a parameter refers to is read once more as a declared type. -/
theorem plainType_eq_self_iff {p : Fields} {n : String} {items : Value}
    (h : declaredType p = (.str n, items)) (hn : Text.identifier n = n)
    (hne : n ≠ "") : plainType p = n ↔ Schema.ReadsAsItself n := by
  by_cases harray : n = "array"
  · subst harray
    have hother : plainType p ≠ "array" := by
      rw [plainType_of_array h, Schema.arrayType_array]
      exact Schema.append_arrayMark_ne_array _
    exact iff_of_false hother (by decide)
  · have hplain : plainType p = Schema.scalarType (.str n) := by
      simp [plainType, h, Value.isText, harray]
    rw [hplain, Schema.scalarType_eq_self_iff hn hne]

end Parameter

namespace Schema

/-- **References in three places.** A response has the name that the reference
points at. A property has it too unless the name is one of those that are
renamed, a parameter if the name is read as itself, and then all three
agree. -/
theorem reference_types_agree_iff {ref n : String} {schema p operation : Fields}
    (name : Value) (href : IsReference schema ref)
    (hn : referenceType (.str ref) = n)
    (hresponse : Response.schemaOf operation = schema)
    (hschema : p.get "schema" = .map schema) (henum : p.get? "enum" = none) :
    Response.typeOf operation = n ∧
    ((Property.read name (.map schema)).1.typescriptType = .str n ↔
      n ∉ renamedTypes) ∧
    ((Parameter.read p).typescriptType = n ↔ ReadsAsItself n) ∧
    ((Parameter.read p).typescriptType = Response.typeOf operation ∧
        (Property.read name (.map schema)).1.typescriptType =
          .str (Response.typeOf operation) ↔
      ReadsAsItself n) := by
  have hidentifier : Text.identifier n = n := hn ▸ identifier_referenceType _
  have hne : n ≠ "" := hn ▸ referenceType_ne_empty _
  have hfirst : Response.typeOf operation = n := by
    rw [Response.typeOf_eq, hresponse, Response.schemaType_of_isReference href,
      hn]
  have hsecond : (Property.read name (.map schema)).1.typescriptType = .str n ↔
      n ∉ renamedTypes := by
    rw [Property.typescriptType_of_isReference href, hn, propertyType_str,
      Value.str.injEq, renamed_eq_self_iff]
  have hthird : (Parameter.read p).typescriptType = n ↔ ReadsAsItself n := by
    rw [Parameter.typescriptType_of_no_enum henum]
    have hdeclared := Parameter.declaredType_of_ref hschema href.ref
    rw [hn] at hdeclared
    exact Parameter.plainType_eq_self_iff hdeclared hidentifier hne
  refine ⟨hfirst, hsecond, hthird, ?_⟩
  rw [hfirst, hsecond, hthird]
  exact and_iff_left_of_imp fun hself => hself.notMem_renamedTypes hne

/-- A schema that is a reference. -/
def pointer (ref : String) : Fields := [(.str "$ref", .str ref)]

/-- An operation with a successful response. -/
def answering (schema : Fields) : Fields :=
  [ (.str "responses", .map
      [ (.str "200", .map [ (.str "schema", .map schema) ]) ]) ]

/-- A parameter that is the body of a request. -/
def carrying (schema : Fields) : Fields :=
  [ (.str "name", .str "payload"), (.str "in", .str "body"),
    (.str "schema", .map schema) ]

theorem isReference_pointer (ref : String) : IsReference (pointer ref) ref :=
  ⟨rfl, rfl, rfl⟩

/-- A model with a dash in its name is called the same in all places. -/
theorem reference_types_agree_newPet :
    let schema := pointer "#/definitions/new-pet"
    Response.typeOf (answering schema) = "newPet" ∧
    (Property.read (.str "pet") (.map schema)).1.typescriptType =
      .str "newPet" ∧
    (Parameter.read (carrying schema)).typescriptType = "newPet" := by
  intro schema
  have hn : referenceType (.str "#/definitions/new-pet") = "newPet" := by
    decide +kernel
  have hanswers : Response.schemaOf (answering schema) = schema := rfl
  have hcarries : (carrying schema).get "schema" = .map schema := rfl
  obtain ⟨hresponse, hproperty, hparameter, -⟩ :=
    reference_types_agree_iff (.str "pet") (isReference_pointer _) hn hanswers
      hcarries rfl
  exact ⟨hresponse, hproperty.2 (by decide), hparameter.2 (by decide +kernel)⟩

/-- A model that is called like a scalar is not. -/
theorem exists_reference_renamed :
    ¬ ∀ (ref : String) (name : Value) (p operation : Fields),
      Response.schemaOf operation = pointer ref →
      p.get "schema" = .map (pointer ref) → p.get? "enum" = none →
      (Parameter.read p).typescriptType = Response.typeOf operation ∧
        (Property.read name (.map (pointer ref))).1.typescriptType =
          .str (Response.typeOf operation) := by
  intro h
  let schema := pointer "#/definitions/Double"
  obtain ⟨hsame, -⟩ := h "#/definitions/Double" (.str "pet") (carrying schema)
    (answering schema) rfl rfl rfl
  have hdiffers : (Parameter.read (carrying schema)).typescriptType ≠
      Response.typeOf (answering schema) := by
    decide +kernel
  exact hdiffers hsame

/-! ### Arrays as parameters and as responses -/

/-- A declared type is known alike to parameters and to properties: it has the
same name in both of their tables, or is in neither. -/
def KnownAlike : Value → Prop
  | .str s =>
    s ∈ renamedTypes ++ ["string", "boolean"] ∨
      (Text.lower s ∉ scalarNames.map (·.1) ∧ Text.identifier s ∉ renamedTypes)
  | v => v.truthy = false

/-- The items of an array are known alike: what they refer to, or else their
declared type. -/
def ItemsKnownAlike (items : Fields) : Prop :=
  match items.get? "$ref" with
  | some ref => referenceType ref ∉ renamedTypes
  | none => KnownAlike (items.get "type")

/-- A declared type that is a text. -/
theorem renamed_identifier_eq_iff {s : String} :
    renamed (Text.identifier s) = scalarType (.str s) ↔ KnownAlike (.str s) := by
  rw [KnownAlike]
  by_cases hknown : s ∈ renamedTypes ++ ["string", "boolean"]
  · have hsame : ∀ s ∈ renamedTypes ++ ["string", "boolean"],
        renamed (Text.identifier s) = scalarType (.str s) := by
      decide
    exact iff_of_true (hsame s hknown) (Or.inl hknown)
  · rw [or_iff_right hknown, ← lookup_eq_none_iff]
    rw [List.mem_append, not_or] at hknown
    obtain ⟨hrenamed, hscalar⟩ := hknown
    have hempty : s ≠ "" := by
      rintro rfl
      exact hrenamed (by decide)
    rw [scalarType, if_neg hempty]
    cases hlookup : scalarNames.lookup (Text.lower s) with
    | none => simpa using renamed_eq_self_iff
    | some n =>
      -- A scalar has no delimiters; it is another one than it is called.
      have hfree : ∀ d, Text.IsMark d → d ∉ s.toList := by
        intro d hmark hd
        rw [lookup_of_mem_isMark hmark hd] at hlookup
        cases hlookup
      have hidentifier : Text.identifier s = s := by
        rw [Text.identifier, Text.identifierChars_of_not_mem
          (hfree '-' (by decide)) (hfree '.' (by decide)), String.ofList_toList]
      have hother : s ≠ n := by
        rintro rfl
        exact hscalar (lookup_eq_self_iff.1 hlookup)
      rw [hidentifier, renamed_of_notMem hrenamed]
      simp [hother]

/-- A property is of any type if its own is missing or called so. -/
theorem renamed_eq_any_iff {t : String} :
    renamed t = anyType ↔ t ∈ ["", "any", "object"] := by
  by_cases hrenamed : t ∈ renamedTypes
  · have htypes : ∀ t ∈ renamedTypes,
        (renamed t = anyType ↔ t ∈ ["", "any", "object"]) := by
      decide
    exact htypes t hrenamed
  · rw [renamed_of_notMem hrenamed]
    simp only [renamedTypes, List.mem_cons, List.not_mem_nil, or_false, not_or]
      at hrenamed
    simp [anyType, hrenamed]

/-- The type of the elements of a property becomes that of the items of a
parameter exactly if both know it alike. -/
theorem renamed_elementType_eq_iff (items : Fields) :
    renamed (Property.elementType items) = itemType items ↔
      ItemsKnownAlike items := by
  rw [Property.elementType, itemType, ItemsKnownAlike]
  cases items.get? "$ref" with
  | some ref => exact renamed_eq_self_iff
  | none =>
    dsimp only
    generalize items.get "type" = v
    rcases v.text_or_none with ⟨s, rfl⟩ | hnone
    · rw [← renamed_identifier_eq_iff]
      by_cases hempty : s = ""
      · subst hempty
        exact Iff.rfl
      · simp [Value.truthy, hempty]
    · have halike : KnownAlike v ↔ v.truthy = false := by
        cases v with
        | str s => cases hnone
        | _ => exact Iff.rfl
      rw [scalarType_of_text?_eq_none hnone, halike, renamed_eq_any_iff]
      cases htruthy : v.truthy with
      | false => simp [anyType]
      | true =>
        -- It is written as a text, and a parameter takes it for anything.
        rw [if_pos rfl, Value.identifier?_of_truthy htruthy, Option.getD_some]
        exact iff_of_false (Value.identifier_text_notMem hnone) (by decide)

/-- The field of a property that is an array has the mark of arrays behind the
type of its elements. -/
theorem type_ofProperty_of_array {schema items : Fields} (name : Value)
    (harray : schema.get "type" = .str "array")
    (hitems : schema.get "items" = .map items) :
    (TypeScript.Field.ofProperty (Property.read name (.map schema)).1).type =
      renamed (Property.elementType items) ++ arrayMark := by
  have hisArray : (Property.read name (.map schema)).1.isArray = true := by
    rw [Property.isArray_read]
    simp [Value.fields?, harray, Value.isText]
  have htype : (Property.read name (.map schema)).1.typescriptType =
      .str (renamed (Property.elementType items)) := by
    simp [Property.typescriptType_read, Property.type_read, Value.fields?, harray,
      Value.isText, Fields.inner, hitems, propertyType_str]
  rw [TypeScript.Field.ofProperty, htype, hisArray, if_pos rfl, Value.text_str]

/-- **Arrays in the third place.** A parameter that is an array has the type of
arrays of its items, and the field of a property that is one has the same exactly
if both tables know the items alike. -/
theorem array_property_agrees_iff {schema p items : Fields} (name : Value)
    (harray : schema.get "type" = .str "array")
    (hitems : schema.get "items" = .map items)
    (hparameter : Parameter.declaredType p = (.str "array", .map items)) :
    (Parameter.read p).typescriptType =
      arrayType (.map items) (.str "array") ∧
    ((TypeScript.Field.ofProperty (Property.read name (.map schema)).1).type =
        arrayType (.map items) (.str "array") ↔
      ItemsKnownAlike items) := by
  constructor
  · rw [Parameter.typescriptType_read_of_not_promotes
      (Parameter.promotes_of_array hparameter),
      Parameter.plainType_of_array hparameter]
  · have hmap : (Value.map items).fields?.getD [] = items := rfl
    rw [type_ofProperty_of_array name harray hitems, arrayType_array, hmap,
      String.append_left_inj, renamed_elementType_eq_iff]

/-- A schema that is an array. -/
def listing (items : Fields) : Fields :=
  [(.str "type", .str "array"), (.str "items", .map items)]

/-- Items of a type that no table knows have its identifier in both places. -/
theorem array_property_agrees_petTag :
    let items : Fields := [(.str "type", .str "pet-tag")]
    (Parameter.read (listing items)).typescriptType = "petTag[]" ∧
    (TypeScript.Field.ofProperty
      (Property.read (.str "tags") (.map (listing items))).1).type =
        "petTag[]" := by
  intro items
  have harray : arrayType (.map items) (.str "array") = "petTag[]" := by
    decide +kernel
  have halike : ItemsKnownAlike items := by
    refine Or.inr ⟨?_, ?_⟩
    · decide
    · decide +kernel
  have hdeclared : Parameter.declaredType (listing items) =
      (.str "array", .map items) := rfl
  have hitems : (listing items).get "items" = .map items := rfl
  obtain ⟨hparameter, hproperty⟩ :=
    array_property_agrees_iff (.str "tags") rfl hitems hdeclared
  exact ⟨hparameter.trans harray, (hproperty.2 halike).trans harray⟩

/-- Arrays of arrays are another type as properties: only parameters know the
declared type of their items. -/
theorem exists_array_property_renamed :
    ¬ ∀ (items : Fields) (name : Value),
      (TypeScript.Field.ofProperty
        (Property.read name (.map (listing items))).1).type =
          arrayType (.map items) (.str "array") := by
  intro h
  have hsame := h [(.str "type", .str "array")] (.str "rows")
  exact absurd hsame (by decide +kernel)

end Schema

end ClientGen
