import ClientGen.Proofs.Reference
import ClientGen.Proofs.ServiceEnums

/-!
# The types of a service

A method mentions types in the places of its parameters and of its response.
They come from scalars, from arrays of them, from references, and from promoted
enumerations; the reference of a body is read once more as if it were a scalar,
which does no harm because an identifier is its own identifier
(`hasType_scalarType_identifier`).

If the document declares no type that it does not define, then all that methods
mention is defined in the client: `no_dangling_type`. The conditions on the
document are put together from those on its schemas (`Schema.Resolves`), its
parameters (`Parameter.Resolves`) and its responses (`Response.Resolves`).
-/

namespace ClientGen

namespace Schema

/-- A declared type is known: it is empty, `number`, a scalar in any case of
letters, or the key of a definition. -/
def IsKnown (document : Fields) (t : String) : Prop :=
  t = "" ∨ t = "number" ∨ Text.lower t ∈ scalarNames.map (·.1) ∨
    .str t ∈ Definition.keys document

/-- A schema declares a known type, if any text, and refers to a definition, if
to anything. -/
structure Resolves (document : Fields) (schema : Fields) : Prop where
  type : ∀ t, schema.get "type" = .str t → IsKnown document t
  ref : ∀ ref, schema.get? "$ref" = some ref → Definition.Resolves document ref

/-- Arrays of a type, one inside another. -/
def arrayOf (b : String) : Nat → String
  | 0 => b
  | n + 1 => arrayOf b n ++ arrayMark

end Schema

namespace Parameter

/-- A parameter declares known types and refers to definitions, by itself, in
the schema of a body, and in the items of either. -/
structure Resolves (document : Fields) (fields : Fields) : Prop where
  type : ∀ t, fields.get "type" = .str t → Schema.IsKnown document t
  items : Schema.Resolves document (fields.inner "items")
  schema : Schema.Resolves document (fields.inner "schema")
  schemaItems : Schema.Resolves document ((fields.inner "schema").inner "items")

/-- Where the declared type and the items of a parameter come from: the
reference in its schema, itself, or the schema. -/
theorem declaredType_cases (fields : Fields) :
    (∃ ref, (fields.inner "schema").get? "$ref" = some (.str ref) ∧
      declaredType fields =
        (.str (Schema.referenceType (.str ref)), fields.get "items")) ∨
    declaredType fields = (fields.get "type", fields.get "items") ∨
    ∃ items, declaredType fields = ((fields.inner "schema").get "type", items) ∧
      (items = fields.get "items" ∨
        items = (fields.inner "schema").get "items") := by
  cases hschema : (fields.get "schema").fields? with
  | none =>
    right; left
    simp only [declaredType, hschema]
  | some schema =>
    have hinner : fields.inner "schema" = schema := by
      rw [Fields.inner, hschema]
      rfl
    rw [hinner]
    simp only [declaredType, hschema]
    split
    · next ref href =>
      left
      exact ⟨ref, Fields.get?_of_get_eq_str href, rfl⟩
    · cases htype : schema.get? "type" with
      | none =>
        right; left
        rfl
      | some t =>
        right; right
        have hget : schema.get "type" = t := by
          rw [Fields.get, htype]
          rfl
        rw [hget]
        refine ⟨(schema.get? "items").getD (fields.get "items"), rfl, ?_⟩
        cases hitems : schema.get? "items" with
        | none =>
          left
          rfl
        | some items =>
          right
          have hsame : schema.get "items" = items := by
            rw [Fields.get, hitems]
            rfl
          rw [hsame]
          rfl

/-- An array is of the type of arrays of its items, be they described or not. -/
theorem plainType_of_array {fields : Fields} {items : Value}
    (h : declaredType fields = (.str "array", items)) :
    plainType fields = Schema.arrayType items (.str "array") := by
  have hplain : plainType fields = if items.fields?.isSome then
      Schema.arrayType items (.str "array")
    else Schema.scalarType (.str "array") := by
    rw [plainType, h]
    rfl
  rw [hplain, Schema.arrayType]
  cases items.fields? with
  | none => rfl
  | some _ => rfl

end Parameter

namespace Response

/-- The schema of the successful response of an operation. -/
def schemaOf (operation : Fields) : Fields :=
  ((success (operation.inner "responses")).fields?.getD []).inner "schema"

/-- A response refers to a definition, and so do its items, which declare a
known type. -/
structure Resolves (document : Fields) (operation : Fields) : Prop where
  ref : ∀ ref, (schemaOf operation).get? "$ref" = some ref →
    Definition.Resolves document ref
  items : Schema.Resolves document ((schemaOf operation).inner "items")

theorem typeOf_eq (operation : Fields) :
    typeOf operation = schemaType (schemaOf operation) := by
  rw [typeOf, schemaOf, Fields.inner, Fields.inner]
  cases (operation.get "responses").fields? with
  | none => rfl
  | some responses =>
    simp only [Option.getD_some]
    cases (success responses).fields? with
    | none => rfl
    | some response =>
      simp only [Option.getD_some]
      cases (response.get "schema").fields? with
      | none => rfl
      | some schema => rfl

end Response

namespace Service

/-- A name stands for a type: it is a scalar, a model, or an enumeration that
exactly one of the two lists holds. -/
def IsBase (s : Service) (b : String) : Prop :=
  b ∈ ["number", "string", "boolean", "any"] ∨ s.HasModel b ∨ s.InOneList b

/-- A type is such a name or an array of a type. -/
def HasType (s : Service) (t : String) : Prop :=
  ∃ b n, s.IsBase b ∧ t = Schema.arrayOf b n

theorem HasType.of_isBase {s : Service} {b : String} (h : s.IsBase b) :
    s.HasType b := ⟨b, 0, h, rfl⟩

theorem HasType.of_hasModel {s : Service} {b : String} (h : s.HasModel b) :
    s.HasType b := HasType.of_isBase (Or.inr (Or.inl h))

theorem HasType.any (s : Service) : s.HasType Schema.anyType :=
  HasType.of_isBase (Or.inl (by decide))

/-- Arrays of a type are types. -/
theorem HasType.array {s : Service} {t : String} (h : s.HasType t) :
    s.HasType (t ++ Schema.arrayMark) := by
  obtain ⟨b, n, hb, rfl⟩ := h
  exact ⟨b, n + 1, hb, rfl⟩

/-- The scalars of a document are types. -/
private theorem hasType_of_mem_scalarNames (s : Service) :
    ∀ e ∈ Schema.scalarNames, s.HasType e.2 := by
  have hnumber : s.HasType "number" := HasType.of_isBase (Or.inl (by decide))
  have hstring : s.HasType "string" := HasType.of_isBase (Or.inl (by decide))
  have hboolean : s.HasType "boolean" := HasType.of_isBase (Or.inl (by decide))
  have hany := HasType.any s
  have harray := hany.array
  intro e he
  simp only [Schema.scalarNames, List.mem_cons, List.not_mem_nil, or_false] at he
  rcases he with rfl | rfl | rfl | rfl | rfl | rfl
  · exact hnumber
  · exact hnumber
  · exact hstring
  · exact hboolean
  · exact hany
  · exact harray

/-- A declared type that is no scalar is a type if its identifier is one. -/
private theorem hasType_scalarType {s : Service} {t : String}
    (h : t ≠ "" → Text.lower t ∉ Schema.scalarNames.map (·.1) →
      s.HasType (Text.identifier t)) :
    s.HasType (Schema.scalarType (.str t)) := by
  rw [Schema.scalarType]
  by_cases hempty : t = ""
  · rw [if_pos hempty]
    exact HasType.any s
  · rw [if_neg hempty]
    cases hlookup : Schema.scalarNames.lookup (Text.lower t) with
    | some b =>
      obtain ⟨before, after, hsplit, -⟩ := List.lookup_eq_some_iff.1 hlookup
      have hmem : (Text.lower t, b) ∈ Schema.scalarNames := by
        rw [hsplit]
        simp
      exact hasType_of_mem_scalarNames s _ hmem
    | none =>
      refine h hempty fun hmem => ?_
      obtain ⟨e, he, hname⟩ := List.mem_map.1 hmem
      have hne := List.lookup_eq_none_iff.1 hlookup e he
      simp [hname] at hne

section Models

variable {document : Fields} {s : Service}

/-- The identifier of a key, read as a scalar, is a type. -/
theorem hasType_scalarType_identifier
    (hmodels : s.HasModels document) {k : String}
    (hk : .str k ∈ Definition.keys document) :
    s.HasType (Schema.scalarType (.str (Text.identifier k))) := by
  refine hasType_scalarType fun _ _ => ?_
  rw [Text.identifier_identifier]
  exact HasType.of_hasModel (hmodels k hk)

/-- A declared type that is known, if it is a text, is a type. -/
theorem hasType_scalarType_of_isKnown
    (hmodels : s.HasModels document) {declared : Value}
    (h : ∀ t, declared = .str t → Schema.IsKnown document t) :
    s.HasType (Schema.scalarType declared) := by
  rcases declared.text_or_none with ⟨t, rfl⟩ | hnone
  · refine hasType_scalarType fun hempty hscalar => ?_
    rcases h t rfl with hnone | rfl | hknown | hkey
    · exact absurd hnone hempty
    · have hnumber : Text.identifier "number" = "number" := by decide
      rw [hnumber]
      exact HasType.of_isBase (Or.inl (by decide))
    · exact absurd hknown hscalar
    · exact HasType.of_hasModel (hmodels t hkey)
  · have hany : Schema.scalarType declared = Schema.anyType := by
      cases declared with
      | str t => cases hnone
      | _ => rfl
    rw [hany]
    exact HasType.any s

/-- A reference to a definition is a type. -/
theorem hasType_referenceType (hkeys : Definition.WellKeyed document)
    (hmodels : s.HasModels document) {ref : Value}
    (h : Definition.Resolves document ref) :
    s.HasType (Schema.referenceType ref) := by
  obtain ⟨k, hk, htype⟩ := Schema.referenceType_of_resolves hkeys h
  rw [htype]
  exact HasType.of_hasModel (hmodels k hk)

/-- The type of an array is a type, if what it falls back to is one. -/
theorem hasType_arrayType (hkeys : Definition.WellKeyed document)
    (hmodels : s.HasModels document) {items declared : Value}
    (hitems : Schema.Resolves document (items.fields?.getD []))
    (hdeclared : s.HasType (Schema.scalarType declared)) :
    s.HasType (Schema.arrayType items declared) := by
  rw [Schema.arrayType]
  cases href : (items.fields?.getD []).get? "$ref" with
  | some ref =>
    exact (hasType_referenceType hkeys hmodels (hitems.ref ref href)).array
  | none =>
    by_cases htruthy : ((items.fields?.getD []).get "type").truthy
    · simp only [htruthy, if_true]
      exact (hasType_scalarType_of_isKnown hmodels hitems.type).array
    · simp only [htruthy]
      exact hdeclared

/-- The declared type of a parameter is a type. -/
theorem hasType_declaredType (hkeys : Definition.WellKeyed document)
    (hmodels : s.HasModels document) {fields : Fields}
    (h : Parameter.Resolves document fields) :
    s.HasType (Schema.scalarType (Parameter.declaredType fields).1) := by
  rcases Parameter.declaredType_cases fields with
    ⟨ref, href, htype⟩ | htype | ⟨items, htype, -⟩
  · rw [htype]
    obtain ⟨k, hk, hname⟩ :=
      Schema.referenceType_of_resolves hkeys (h.schema.ref _ href)
    rw [hname]
    exact hasType_scalarType_identifier hmodels hk
  · rw [htype]
    exact hasType_scalarType_of_isKnown hmodels h.type
  · rw [htype]
    exact hasType_scalarType_of_isKnown hmodels h.schema.type

/-- The items of a parameter resolve wherever they come from. -/
theorem resolves_declaredItems {fields : Fields}
    (h : Parameter.Resolves document fields) :
    Schema.Resolves document
      ((Parameter.declaredType fields).2.fields?.getD []) := by
  rcases Parameter.declaredType_cases fields with
    ⟨ref, -, htype⟩ | htype | ⟨items, htype, rfl | rfl⟩
  · rw [htype]
    exact h.items
  · rw [htype]
    exact h.items
  · rw [htype]
    exact h.items
  · rw [htype]
    exact h.schemaItems

/-- The type of a parameter that promotes nothing is a type. -/
theorem hasType_plainType (hkeys : Definition.WellKeyed document)
    (hmodels : s.HasModels document) {fields : Fields}
    (h : Parameter.Resolves document fields) :
    s.HasType (Parameter.plainType fields) := by
  have hdeclared := hasType_declaredType hkeys hmodels h
  show s.HasType (if (Parameter.declaredType fields).1.isText "array" &&
      (Parameter.declaredType fields).2.fields?.isSome then
    Schema.arrayType (Parameter.declaredType fields).2
      (Parameter.declaredType fields).1
    else Schema.scalarType (Parameter.declaredType fields).1)
  split
  · exact hasType_arrayType hkeys hmodels (resolves_declaredItems h) hdeclared
  · exact hdeclared

/-- The type of a response is a type. -/
theorem hasType_typeOf (hkeys : Definition.WellKeyed document)
    (hmodels : s.HasModels document) {operation : Fields}
    (h : Response.Resolves document operation) :
    s.HasType (Response.typeOf operation) := by
  rw [Response.typeOf_eq, Response.schemaType]
  obtain ⟨hresponse, hitems⟩ := h
  generalize Response.schemaOf operation = schema at hresponse hitems
  cases schema.get? "type" with
  | some type =>
    by_cases harray : type.isText "array"
    · simp only [harray, if_true]
      unfold Fields.inner at hitems
      cases href : ((schema.get "items").fields?.getD []).get? "$ref" with
      | some ref =>
        exact (hasType_referenceType hkeys hmodels (hitems.ref ref href)).array
      | none =>
        exact (hasType_scalarType_of_isKnown hmodels hitems.type).array
    · simp only [harray]
      exact HasType.any s
  | none =>
    cases href : schema.get? "$ref" with
    | some ref =>
      exact hasType_referenceType hkeys hmodels (hresponse ref href)
    | none => exact HasType.any s

end Models

/-- **No dangling type.** If the keys of definitions are names, and parameters
and responses declare known types and refer to definitions, then the response
and all parameters of every method are of types that the client defines. -/
theorem no_dangling_type {document : Fields} {onServer : Bool} {s : Service}
    (hkeys : Definition.WellKeyed document)
    (hparameters : ∀ o ∈ Operation.all document, ∀ p ∈ o.kept onServer,
      Parameter.Resolves document p)
    (hresponses : ∀ o ∈ Operation.all document,
      Response.Resolves document o.fields)
    (h : (build (.map document) onServer).outcome = .ok s) :
    ∀ m ∈ s.methods, s.HasType m.response ∧
      ∀ q ∈ m.parameters, s.HasType q.typescriptType := by
  obtain ⟨methods, domain, hmethods, -, rfl⟩ := build_outcome_eq_ok.1 h
  have hmodels := hasModels_of document onServer methods domain
  intro m hm
  obtain ⟨o, ho, -, path, verb, isJson, -, -, -, rfl⟩ :=
    Traced.exists_of_mem_right (Operation.forall₂_methodOf hmethods) hm
  constructor
  · exact hasType_typeOf hkeys hmodels (hresponses o ho)
  · intro q hq
    obtain ⟨p, hp, -, last, rfl⟩ :=
      Traced.exists_of_mem_right (Parameter.forall₂_readAll onServer o.listed) hq
    show HasType _ (Parameter.read p).typescriptType
    cases hpromotes : Parameter.promotes p with
    | true =>
      rw [Parameter.typescriptType_read_of_promotes hpromotes]
      exact HasType.of_isBase (Or.inr (Or.inr
        (inOneList_of_promotes ho hp hpromotes)))
    | false =>
      rw [Parameter.typescriptType_read_of_not_promotes hpromotes]
      exact hasType_plainType hkeys hmodels (hparameters o ho p hp)

/-- A schema that says nothing resolves. -/
private theorem resolves_nil (document : Fields) :
    Schema.Resolves document [] := by
  constructor
  · intro _ h
    cases h
  · intro _ h
    cases h

/-- A parameter that is a text resolves. -/
private theorem resolves_of_text (document : Fields) {fields : Fields}
    (htype : fields.get "type" = .str "string")
    (hitems : fields.inner "items" = []) (hschema : fields.inner "schema" = []) :
    Parameter.Resolves document fields := by
  refine ⟨?_, ?_, ?_, ?_⟩
  · intro t ht
    cases htype.symm.trans ht
    right; right; left
    decide
  · rw [hitems]
    exact resolves_nil document
  · rw [hschema]
    exact resolves_nil document
  · rw [hschema]
    exact resolves_nil document

private theorem parameters_resolve_shop :
    ∀ o ∈ Operation.all shop, ∀ p ∈ o.kept false,
      Parameter.Resolves shop p := by
  intro o ho p hp
  rcases List.mem_cons.1 ho with rfl | ho
  · rcases List.mem_cons.1 hp with rfl | hp
    · exact resolves_of_text shop rfl rfl rfl
    · rcases List.mem_singleton.1 hp with rfl
      exact resolves_of_text shop rfl rfl rfl
  · rcases List.mem_singleton.1 ho with rfl
    rcases List.mem_cons.1 hp with rfl | hp
    · exact resolves_of_text shop rfl rfl rfl
    · rcases List.mem_cons.1 hp with rfl | hp
      · refine ⟨?_, resolves_nil shop, ⟨?_, ?_⟩, resolves_nil shop⟩
        · intro _ h
          cases h
        · intro _ h
          cases h
        · intro ref h
          cases h
          exact resolves_order_shop
      · rcases List.mem_singleton.1 hp with rfl
        exact resolves_of_text shop rfl rfl rfl

private theorem responses_resolve_shop :
    ∀ o ∈ Operation.all shop, Response.Resolves shop o.fields := by
  intro o ho
  rcases List.mem_cons.1 ho with rfl | ho
  · refine ⟨?_, ?_, ?_⟩
    · intro _ h
      cases h
    · intro _ h
      cases h
    · intro ref h
      cases h
      exact resolves_orderPath_shop
  · rcases List.mem_singleton.1 ho with rfl
    refine ⟨?_, resolves_nil shop⟩
    intro _ h
    cases h

/-- The types of the shop's methods are all defined. -/
theorem no_dangling_type_shop :
    ∃ s, (build (.map shop) false).outcome = .ok s ∧
      ∀ m ∈ s.methods, s.HasType m.response ∧
        ∀ q ∈ m.parameters, s.HasType q.typescriptType := by
  obtain ⟨s, hs⟩ : ∃ s, (build (.map shop) false).outcome = .ok s := ⟨_, rfl⟩
  exact ⟨s, hs, no_dangling_type wellKeyed_shop parameters_resolve_shop
    responses_resolve_shop hs⟩

end Service

end ClientGen
