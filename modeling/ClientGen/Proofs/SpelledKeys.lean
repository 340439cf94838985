import Mathlib
import ClientGen.Generate
import ClientGen.Proofs.Locality

/-!
# Integer keys

An unquoted number is an integer key. Spelling such keys by their digits, those
of the definitions, of their properties and of the responses of operations,
changes nothing that a client is made of: `build_spellDocument` compares the two
services, which differ only in the names that their properties keep from the
document, and the two clients, which do not differ at all.

A key becomes an identifier, the name of an enumeration, or a text between
quotes, and every one of these starts from the text of the key (`text_spellKey`).
Only the response of the number 200 is looked up by its key. There the spelled
key must not meet one that is there already (`SpellsApart`).
-/

namespace ClientGen

open Traced

namespace Value

/-- A key, if it is an integer by its digits. -/
def spellKey : Value → Value
  | .int n => .str (toString n)
  | v => v

@[simp] theorem text_spellKey (key : Value) : key.spellKey.text = key.text := by
  cases key with
  | int n => simp [spellKey, text, innerText]
  | _ => rfl

@[simp] theorem identifier?_spellKey (key : Value) :
    key.spellKey.identifier? = key.identifier? := by
  cases key with
  | int n => simp [spellKey, identifier?, text, innerText]
  | _ => rfl

@[simp] theorem enumName_spellKey (key : Value) :
    key.spellKey.enumName = key.enumName := by
  rw [enumName, enumName, text_spellKey]

/-- A spelled key is the text `200` if it was that text or the number. -/
theorem isText_spellKey_ok (key : Value) :
    key.spellKey.isText "200" = true ↔ key = .str "200" ∨ key = .int 200 := by
  cases key with
  | int n =>
    have hok : toString (200 : Int) = "200" := rfl
    rw [spellKey, isText, beq_iff_eq, ← hok, Int.toString_eq_repr,
      Int.toString_eq_repr, Int.repr_inj]
    simp
  | _ => simp [spellKey, isText]

theorem same_int_iff {m n : Int} :
    (Value.int m).same (.int n) = true ↔ m = n := by
  simp [same, number?, ← Dyadic.toRat_inj,
    Dyadic.toRat_ofIntWithPrec_eq_mul_two_pow]

end Value

namespace Fields

/-- The entries with their integer keys spelled. -/
def spellKeys (fields : Fields) : Fields :=
  fields.map fun e => (e.1.spellKey, e.2)

/-- No two keys are the same, and none is the spelling of an integer key. -/
structure SpellsApart (fields : Fields) : Prop where
  distinct : fields.Pairwise fun e f => e.1.same f.1 = false
  free : ∀ n v, (.int n, v) ∈ fields → fields.has (toString n) = false

/-- Where the number 200 is no key, its spelling leads where it led before. -/
private theorem get?_spellKeys_of_notMem {fields : Fields}
    (h : ∀ v, (.int 200, v) ∉ fields) :
    fields.spellKeys.get? "200" = fields.get? "200" := by
  induction fields with
  | nil => rfl
  | cons e rest ih =>
    obtain ⟨key, v⟩ := e
    have hrest : ∀ w, (Value.int 200, w) ∉ rest :=
      fun w hw => h w (List.mem_cons_of_mem _ hw)
    have hkey : key ≠ .int 200 := by
      rintro rfl
      exact h v List.mem_cons_self
    have hsame : key.spellKey.isText "200" = key.isText "200" := by
      rw [Bool.eq_iff_iff, Value.isText_spellKey_ok]
      cases key <;> simp_all [Value.isText]
    rw [spellKeys, List.map_cons, get?, get?, hsame, ← spellKeys, ih hrest]

/-- Where the number 200 is a key and its spelling is none, the spelling leads
where the number led. -/
private theorem get?_spellKeys_of_mem {fields : Fields}
    (hdistinct : fields.Pairwise fun e f => e.1.same f.1 = false)
    (hnone : fields.get? "200" = none) {v : Value}
    (h : (.int 200, v) ∈ fields) :
    fields.find? (.int 200) = some v ∧
      fields.spellKeys.get? "200" = some v := by
  induction fields with
  | nil => cases h
  | cons e rest ih =>
    obtain ⟨key, w⟩ := e
    rw [List.pairwise_cons] at hdistinct
    rw [get?] at hnone
    split at hnone
    · cases hnone
    next htext =>
    rw [spellKeys, List.map_cons, get?, find?]
    rcases List.mem_cons.1 h with heq | hmem
    · cases heq
      have hspelled := (Value.isText_spellKey_ok (.int 200)).2 (Or.inr rfl)
      rw [if_pos hspelled, if_pos (Value.same_int_iff.2 rfl)]
      exact ⟨rfl, rfl⟩
    · have hother : key.same (.int 200) = false := hdistinct.1 _ hmem
      have hspelled : ¬ key.spellKey.isText "200" = true := by
        rw [Value.isText_spellKey_ok]
        rintro (rfl | rfl)
        · exact htext rfl
        · rw [Value.same_int_iff.2 rfl] at hother
          cases hother
      rw [if_neg hspelled, hother, ← spellKeys]
      exact ih hdistinct.2 hnone hmem

/-- Where the number 200 is no key, a key that is the same as it stays. -/
private theorem find?_spellKeys_of_notMem {fields : Fields}
    (h : ∀ v, (.int 200, v) ∉ fields) :
    fields.spellKeys.find? (.int 200) = fields.find? (.int 200) := by
  induction fields with
  | nil => rfl
  | cons e rest ih =>
    obtain ⟨key, v⟩ := e
    have hrest : ∀ w, (Value.int 200, w) ∉ rest :=
      fun w hw => h w (List.mem_cons_of_mem _ hw)
    have hsame : key.spellKey.same (.int 200) = key.same (.int 200) := by
      cases key with
      | int n =>
        have hn : n ≠ 200 := by
          rintro rfl
          exact h v List.mem_cons_self
        rw [Bool.eq_iff_iff, Value.same_int_iff]
        simp [Value.spellKey, Value.same, Value.number?, hn]
      | _ => rfl
    rw [spellKeys, List.map_cons, find?, find?, hsame, ← spellKeys, ih hrest]

end Fields

/-! ### Responses -/

namespace Response

/-- Spelling the keys of responses that are apart leaves the successful one. -/
theorem success_spellKeys {responses : Fields} (h : responses.SpellsApart) :
    success responses.spellKeys = success responses := by
  by_cases hnumber : ∃ v, (Value.int 200, v) ∈ responses
  · obtain ⟨v, hv⟩ := hnumber
    have hok : toString (200 : Int) = "200" := rfl
    have hfree := h.free 200 v hv
    rw [hok, Fields.has, Option.isSome_eq_false_iff,
      Option.isNone_iff_eq_none] at hfree
    obtain ⟨hfind, hspelled⟩ :=
      Fields.get?_spellKeys_of_mem h.distinct hfree hv
    rw [success, success, hspelled, hfree, hfind]
    rfl
  · have hnone : ∀ v, (Value.int 200, v) ∉ responses :=
      fun v hv => hnumber ⟨v, hv⟩
    rw [success, success, Fields.get?_spellKeys_of_notMem hnone,
      Fields.find?_spellKeys_of_notMem hnone]

end Response

/-! ### Definitions -/

namespace Property

/-- A property whose name in the document is spelled. -/
def spellName (p : Property) : Property := { p with name := p.name.spellKey }

/-- Under a spelled key the same property is read, and the same enumeration. -/
theorem read_spellKey (key schema : Value) :
    read key.spellKey schema =
      ((read key schema).1.spellName, (read key schema).2) := by
  simp only [read, spellName, Value.enumName_spellKey]

end Property

namespace Definition

/-- A schema with the keys of its own properties spelled. -/
def spellProperties (schema : Fields) : Fields :=
  schema.update "properties" (·.mapFields Fields.spellKeys)

/-- A schema with the keys of all its properties spelled, also those of the
members of its `allOf` list. -/
def spellSchema (schema : Fields) : Fields :=
  (spellProperties schema).update "allOf"
    (·.mapItems (·.mapFields spellProperties))

/-- A definition whose properties have spelled names. -/
def spellNames (d : Definition) : Definition :=
  { d with
    properties := d.properties.map Property.spellName
    refs := d.refs.map Property.spellName }

theorem propertiesOf_spellProperties (schema : Fields) :
    propertiesOf (spellProperties schema) =
      Fields.spellKeys (propertiesOf schema) := by
  rw [propertiesOf, propertiesOf, spellProperties, Fields.get_update_self rfl,
    Value.getD_fields?_mapFields rfl]

/-- A spelled schema has the same properties under spelled keys. -/
theorem sources_spellSchema (schema : Fields) :
    sources (spellSchema schema) = Fields.spellKeys (sources schema) := by
  have hown : propertiesOf (spellSchema schema) =
      Fields.spellKeys (propertiesOf schema) := by
    rw [← propertiesOf_spellProperties, propertiesOf, propertiesOf,
      spellSchema, Fields.get_update_of_ne (by decide)]
  have hmembers : (spellSchema schema).get "allOf" =
      (schema.get "allOf").mapItems (·.mapFields spellProperties) := by
    rw [spellSchema, Fields.get_update_self rfl, spellProperties,
      Fields.get_update_of_ne (by decide)]
  have hmember : ∀ member : Value,
      propertiesOf ((member.mapFields spellProperties).fields?.getD []) =
        Fields.spellKeys (propertiesOf (member.fields?.getD [])) := by
    intro member
    rw [Value.getD_fields?_mapFields rfl, propertiesOf_spellProperties]
  rw [sources, sources, hown, hmembers, Value.getD_items?_mapItems,
    List.flatMap_map]
  simp only [hmember, Fields.spellKeys, List.map_append, List.map_flatMap]

theorem parsed_spellSchema (schema : Fields) :
    parsed (spellSchema schema) =
      (parsed schema).map fun r => (r.1.spellName, r.2) := by
  rw [parsed, parsed, sources_spellSchema, Fields.spellKeys, List.map_map,
    List.map_map]
  refine List.map_congr_left fun e _ => ?_
  exact Property.read_spellKey e.1 e.2

theorem declarations_spellSchema (schema : Fields) :
    declarations (spellSchema schema) = declarations schema := by
  rw [declarations, declarations, parsed_spellSchema, List.filterMap_map]
  rfl

/-- Under a spelled key a spelled schema becomes the same definition, but for
the names that its properties keep. -/
theorem read_spellKey (key : Value) (schema : Fields) :
    read key.spellKey (spellSchema schema) =
      (read key schema).spellNames := by
  have hproperties : (parsed (spellSchema schema)).map (·.1) =
      ((parsed schema).map (·.1)).map Property.spellName := by
    rw [parsed_spellSchema, List.map_map, List.map_map]
    rfl
  have hdescription : (spellSchema schema).get? "description" =
      schema.get? "description" := by
    rw [spellSchema, Fields.get?_update_of_ne (by decide), spellProperties,
      Fields.get?_update_of_ne (by decide)]
  have hfilter : ∀ (q : Property → Bool), (∀ p, q p.spellName = q p) →
      ∀ ps : List Property, (ps.map Property.spellName).filter q =
        (ps.filter q).map Property.spellName := by
    intro q hq ps
    rw [List.filter_map]
    exact congrArg _ (List.filter_congr fun p _ => hq p)
  simp only [read, spellNames, hproperties, hdescription,
    declarations_spellSchema, Value.identifier?_spellKey,
    hfilter (fun p => p.isRef) fun _ => rfl,
    hfilter (fun p => !p.isRef) fun _ => rfl]
  rw [List.map_map]
  rfl

/-- The definitions of a document with all their keys spelled. -/
def spellAll (definitions : Fields) : Fields :=
  (definitions.mapValues fun _ v => v.mapFields spellSchema).spellKeys

theorem markLast_map_spellNames (ds : List Definition) :
    markLast (ds.map spellNames) = (markLast ds).map spellNames := by
  fun_induction markLast ds with
  | case1 => rfl
  | case2 d => rfl
  | case3 d rest hrest ih =>
    rw [List.map_cons, List.map_cons, ← ih]
    cases rest with
    | nil => exact absurd rfl hrest
    | cons d' rest => rfl

end Definition

/-! ### Operations -/

namespace Operation

/-- An operation with the keys of its responses spelled. -/
def spellResponses (fields : Fields) : Fields :=
  fields.update "responses" (·.mapFields Fields.spellKeys)

/-- The responses of an operation. -/
def responses (o : Operation) : Fields :=
  (o.fields.get "responses").fields?.getD []

/-- An operation with the keys of its responses spelled. -/
def spell (o : Operation) : Operation :=
  { o with fields := spellResponses o.fields }

/-- An entry of a path with spelled responses, if it is an operation. -/
def spellEntry (key v : Value) : Value :=
  if Method.isVerb key then v.mapFields spellResponses else v

/-- The paths of a document with spelled responses. -/
def spellPaths (paths : Fields) : Fields :=
  paths.mapValues fun _ item => item.mapFields (Fields.mapValues spellEntry)

end Operation

namespace Service

/-- A document with the integer keys of its definitions, of their properties
and of the responses of its operations spelled. -/
def spellDocument (document : Fields) : Fields :=
  (document.update "paths" (·.mapFields Operation.spellPaths)).update
    "definitions" (·.mapFields Definition.spellAll)

/-- A service whose properties have spelled names. -/
def spellNames (s : Service) : Service :=
  { s with definitions := s.definitions.map Definition.spellNames }

/-- Only the paths and definitions of a document are spelled. -/
theorem sameRest_spellDocument (document : Fields) :
    (spellDocument document).SameRest document := by
  intro name hpaths hdefinitions
  rw [spellDocument, Fields.get?_update_of_ne hdefinitions,
    Fields.get?_update_of_ne hpaths]

end Service

namespace Operation

/-- A path shares the same list, for lists are left alone. -/
private theorem sharedOf_spellEntry (entries : Fields) :
    Method.sharedOf (Fields.mapValues spellEntry entries) =
      Method.sharedOf entries := by
  have hentry : ∀ key v, spellEntry key v = v ∨ ∃ fields fields',
      v = .map fields ∧ spellEntry key v = .map fields' := by
    intro key v
    unfold spellEntry
    cases Method.isVerb key with
    | false => exact Or.inl rfl
    | true =>
      cases v with
      | map fields => exact Or.inr ⟨fields, spellResponses fields, rfl, rfl⟩
      | _ => exact Or.inl rfl
  rw [Method.sharedOf, Method.sharedOf, Fields.mapValues, List.foldl_map]
  refine List.foldl_ext _ _ _ fun shared e _ => ?_
  obtain ⟨key, v⟩ := e
  rcases hentry key v with hsame | ⟨fields, fields', rfl, hmap⟩
  · simp only [hsame]
  · simp only [hmap]

/-- A key of a path is the same operation, with spelled responses. -/
private theorem atKey?_spellEntry (path : Value) (shared : List Value)
    (key v : Value) :
    atKey? path shared (key, spellEntry key v) =
      (atKey? path shared (key, v)).map spell := by
  cases hverb : Method.isVerb key with
  | false => simp [atKey?, hverb]
  | true =>
    have hfields : (spellEntry key v).fields? = v.fields?.map spellResponses := by
      rw [spellEntry, if_pos hverb, Value.fields?_mapFields]
    simp only [atKey?, hverb, hfields, if_true, Option.map_map]
    rfl

/-- The operations of a spelled document are its operations, with spelled
responses. -/
theorem all_spellDocument (document : Fields) :
    all (Service.spellDocument document) = (all document).map spell := by
  have hpaths : Method.pathsOf (Service.spellDocument document) =
      spellPaths (Method.pathsOf document) := by
    rw [Method.pathsOf, Method.pathsOf, Service.spellDocument,
      Fields.get_update_of_ne (by decide), Fields.get_update_self rfl,
      Value.getD_fields?_mapFields rfl]
  have hpath : ∀ path item : Value,
      ofPath (path, item.mapFields (Fields.mapValues spellEntry)) =
        (ofPath (path, item)).map spell := by
    intro path item
    rw [ofPath, ofPath, Value.getD_fields?_mapFields rfl, sharedOf_spellEntry,
      Fields.mapValues, List.filterMap_map, List.map_filterMap]
    refine List.filterMap_congr fun e _ => ?_
    exact atKey?_spellEntry path _ e.1 e.2
  rw [all, all, hpaths, spellPaths, Fields.mapValues, List.flatMap_map,
    List.map_flatMap]
  exact congrArg (List.flatMap · _) (funext fun e => hpath e.1 e.2)

theorem get?_spellResponses {name : String} (h : name ≠ "responses")
    (fields : Fields) :
    (spellResponses fields).get? name = fields.get? name :=
  Fields.get?_update_of_ne h _ fields

theorem get_spellResponses {name : String} (h : name ≠ "responses")
    (fields : Fields) :
    (spellResponses fields).get name = fields.get name :=
  Fields.get_update_of_ne h _ fields

/-- With spelled responses that are apart the same type is returned. -/
theorem typeOf_spellResponses {o : Operation} (h : o.responses.SpellsApart) :
    Response.typeOf (spellResponses o.fields) = Response.typeOf o.fields := by
  rw [responses] at h
  rw [Response.typeOf, Response.typeOf, spellResponses,
    Fields.get_update_self rfl, Value.fields?_mapFields]
  cases hresponses : (o.fields.get "responses").fields? with
  | none => rfl
  | some responses =>
    rw [hresponses] at h
    have hsuccess : Response.success responses.spellKeys =
        Response.success responses := Response.success_spellKeys h
    simp only [Option.map_some, hsuccess]

/-- An operation with spelled responses takes the same parameters. -/
theorem listed_spell (o : Operation) : o.spell.listed = o.listed := by
  have hfields : o.spell.fields = spellResponses o.fields := rfl
  rw [listed, listed, Parameter.listed, Parameter.listed, hfields,
    get_spellResponses (by decide)]
  rfl

theorem kept_spell (onServer : Bool) (o : Operation) :
    o.spell.kept onServer = o.kept onServer := by
  rw [kept, kept, listed_spell]

/-- An operation with spelled responses becomes the same method. -/
theorem methodOf_spell (document : Fields) (onServer : Bool) {o : Operation}
    (h : o.responses.SpellsApart) (path verb : String) (isJson : Bool) :
    o.spell.methodOf document onServer path verb isJson =
      o.methodOf document onServer path verb isJson := by
  have hfields : o.spell.fields = spellResponses o.fields := rfl
  have hname : MethodName.explicit? (spellResponses o.fields) =
      MethodName.explicit? o.fields := by
    rw [MethodName.explicit?, MethodName.explicit?,
      get_spellResponses (by decide), get_spellResponses (by decide)]
  have hsummary : Method.summaryOf (spellResponses o.fields) =
      Method.summaryOf o.fields := by
    rw [Method.summaryOf, Method.summaryOf, get_spellResponses (by decide)]
  have hsecure : (spellResponses o.fields).has "security" =
      o.fields.has "security" := by
    rw [Fields.has, Fields.has, get?_spellResponses (by decide)]
  simp only [methodOf, hfields, listed_spell, hname, hsummary, hsecure,
    typeOf_spellResponses h]

/-- An operation with spelled responses is read alike. -/
theorem build_spell (document : Fields) (onServer : Bool) {o : Operation}
    (h : o.responses.SpellsApart) :
    o.spell.build document onServer = o.build document onServer := by
  rcases o.verb.text_or_none with ⟨verb, hverb⟩ | hverb
  · rcases o.path.text_or_none with ⟨path, hpath⟩ | hpath
    · have hproduced : Response.produced o.spell.fields (.map document) =
          Response.produced o.fields (.map document) := by
        rw [Response.produced, Response.produced, spell,
          get_spellResponses (by decide)]
      rw [build_eq _ _ o.spell hpath hverb, build_eq _ _ o hpath hverb,
        listed_spell, Response.isJson, Response.isJson, hproduced]
      exact congrArg (Traced.mk _ <| Except.map · _)
        (funext fun isJson => methodOf_spell document onServer h path verb isJson)
    · rw [build_of_path _ _ o.spell hverb hpath, build_of_path _ _ o hverb hpath,
        listed_spell]
  · rw [build_of_verb _ _ o.spell hverb, build_of_verb _ _ o hverb]

/-- A spelled document has the same methods, or the same fault. -/
theorem buildAll_spellDocument {document : Fields} (onServer : Bool)
    (h : ∀ o ∈ all document, o.responses.SpellsApart) :
    (Method.buildAll (.map (Service.spellDocument document))
        onServer).outcome =
      (Method.buildAll (.map document) onServer).outcome := by
  have hrest := Service.sameRest_spellDocument document
  rw [(buildAll_agree _ onServer).outcome,
    (buildAll_agree document onServer).outcome, all_spellDocument]
  refine collect_outcome_congr ?_
  rw [List.map_map, List.forall₂_map_left_iff, List.forall₂_map_right_iff]
  refine List.forall₂_same.2 fun o ho => ?_
  show (o.spell.build (Service.spellDocument document) onServer).outcome = _
  rw [build_outcome_congr hrest, build_spell document onServer (h o ho)]

theorem promotions_spellDocument (document : Fields) (onServer : Bool) :
    promotions onServer (Service.spellDocument document) =
      promotions onServer document := by
  rw [promotions, promotions, all_spellDocument, List.flatMap_map]
  simp only [kept_spell]

end Operation

/-! ### The definitions of a document -/

namespace Definition

theorem schemasOf_spellDocument (document : Fields) :
    schemasOf (Service.spellDocument document) =
      spellAll (schemasOf document) := by
  rw [schemasOf, schemasOf, Service.spellDocument, Fields.get_update_self rfl,
    Fields.get_update_of_ne (by decide), Value.getD_fields?_mapFields rfl]

theorem declaredIn_spellSchema (schema : Fields) :
    declaredIn (spellSchema schema) = declaredIn schema := by
  rw [← names_declarations, ← names_declarations, declarations_spellSchema]

theorem declaredNames_spellDocument (document : Fields) :
    declaredNames (Service.spellDocument document) =
      declaredNames document := by
  rw [declaredNames, declaredNames, schemasOf_spellDocument, spellAll,
    Fields.spellKeys, Fields.mapValues, List.map_map, List.flatMap_map]
  refine congrArg (List.flatMap · _) (funext fun e => ?_)
  exact (congrArg declaredIn (Value.getD_fields?_mapFields rfl e.2)).trans
    (declaredIn_spellSchema _)

/-- A spelled document has the same models, but for the names that their
properties keep. -/
theorem readAll_spellDocument (document : Fields) :
    readAll (Service.spellDocument document) =
      (readAll document).map spellNames := by
  rw [readAll, readAll, ← markLast_map_spellNames, schemasOf_spellDocument,
    spellAll, Fields.spellKeys, Fields.mapValues, List.map_map, List.map_map,
    List.map_map]
  refine congrArg markLast (List.map_congr_left fun e _ => ?_)
  exact (congrArg (read e.1.spellKey) (Value.getD_fields?_mapFields rfl e.2)).trans
    (read_spellKey e.1 _)

end Definition

namespace Service

/-- A spelled document is described alike, but for the names that the
properties of its models keep. -/
theorem of_spellDocument (document : Fields) (onServer : Bool)
    (methods : List Method) (domain : String) :
    of (spellDocument document) onServer methods domain =
      (of document onServer methods domain).spellNames := by
  have hinfo : ∀ name,
      infoOf (spellDocument document) name = infoOf document name := by
    intro name
    rw [infoOf, infoOf, Fields.get, Fields.get,
      sameRest_spellDocument document "info" (by decide) (by decide)]
  have hsecure : (spellDocument document).has "securityDefinitions" =
      document.has "securityDefinitions" := by
    rw [Fields.has, Fields.has,
      sameRest_spellDocument document _ (by decide) (by decide)]
  have htable : tableOf (spellDocument document) onServer =
      tableOf document onServer := by
    rw [tableOf, tableOf, Operation.promotions_spellDocument,
      Definition.declaredNames_spellDocument]
  have hmodelEnums : modelEnumsOf
        ((Definition.readAll document).map Definition.spellNames) =
      modelEnumsOf (Definition.readAll document) := by
    rw [modelEnumsOf, modelEnumsOf, List.flatMap_map]
    rfl
  simp only [of, spellNames, hinfo, hsecure, htable,
    Definition.readAll_spellDocument, hmodelEnums]

theorem domainOf_spellDocument (document : Fields) :
    domainOf (spellDocument document) = domainOf document := by
  have hfield : ∀ name, name ≠ "paths" → name ≠ "definitions" →
      (spellDocument document).get name = document.get name := by
    intro name hpaths hdefinitions
    rw [Fields.get, Fields.get,
      sameRest_spellDocument document name hpaths hdefinitions]
  simp only [domainOf, hfield "schemes" (by decide) (by decide),
    hfield "host" (by decide) (by decide),
    hfield "basePath" (by decide) (by decide)]

end Service

/-! ### The written client -/

namespace Output

/-- No file shows whether the name of a property was a number. -/
theorem model_spellNames (out : Path) (d : Definition) :
    model .packaged out d.spellNames = model .packaged out d := by
  have hfields : ∀ ps : List Property,
      (ps.map Property.spellName).map TypeScript.Field.ofProperty =
        ps.map TypeScript.Field.ofProperty := by
    intro ps
    rw [List.map_map]
    refine List.map_congr_left fun p _ => ?_
    rw [Function.comp_apply, TypeScript.Field.ofProperty,
      TypeScript.Field.ofProperty, Property.spellName, Value.text_spellKey]
  have hfile : TypeScript.ModelFile.ofDefinition d.spellNames =
      TypeScript.ModelFile.ofDefinition d := by
    simp only [TypeScript.ModelFile.ofDefinition, Definition.spellNames,
      List.map_append, hfields]
  rw [model, model, TemplateSet.model, TemplateSet.model, hfile]
  rfl

theorem plan_spellNames (s : Service) (out : Path) :
    plan (fun _ => .packaged) s.spellNames out =
      plan (fun _ => .packaged) s out := by
  have hnames : s.spellNames.definitions.map (fun d => nameText d.name) =
      s.definitions.map fun d => nameText d.name := by
    rw [Service.spellNames, List.map_map]
    rfl
  have hfile : TypeScript.ServiceFile.ofService s.spellNames =
      TypeScript.ServiceFile.ofService s := by
    rw [TypeScript.ServiceFile.ofService, TypeScript.ServiceFile.ofService,
      hnames]
    rfl
  have hservice : service .packaged s.spellNames out =
      service .packaged s out := by
    rw [service, service, TemplateSet.service, TemplateSet.service, hfile]
    rfl
  have hbarrel : barrel .packaged s.spellNames out =
      barrel .packaged s out := by
    rw [barrel, barrel, TemplateSet.barrel, TemplateSet.barrel,
      TypeScript.Barrel.ofDefinitions, TypeScript.Barrel.ofDefinitions, hnames]
    rfl
  have hmodels : (s.spellNames.definitions.mapIdx fun _ d =>
        model .packaged out d) =
      s.definitions.mapIdx fun _ d => model .packaged out d := by
    refine List.ext_getElem (by simp [Service.spellNames]) fun i _ _ => ?_
    simp only [Service.spellNames, List.getElem_mapIdx, List.getElem_map]
    exact model_spellNames out _
  rw [plan, plan, hservice, hbarrel, hmodels]

end Output

namespace Generation

/-- The same client is written for a service with spelled names. -/
theorem run_spellNames (engine : Engine) (s : Service) (out : Path) (d : Disk) :
    run engine none s.spellNames out d = run engine none s out d := by
  have hplan := Output.plan_spellNames s out
  unfold run
  split
  · rfl
  · next made _ =>
    exact congrArg (fun os => (writeAll made os).finish) hplan

end Generation

namespace Service

/-- A spelled document ends with the same fault, or with the same service but
for the names that the properties of its models keep. -/
theorem outcome_spellDocument {document : Fields} (onServer : Bool)
    (h : ∀ o ∈ Operation.all document, o.responses.SpellsApart) :
    (build (.map (spellDocument document)) onServer).outcome =
      (build (.map document) onServer).outcome.map spellNames := by
  rw [build_outcome, build_outcome, Operation.buildAll_spellDocument onServer h,
    domainOf_spellDocument]
  cases (Method.buildAll (.map document) onServer).outcome with
  | error e => rfl
  | ok methods =>
    cases domainOf document with
    | error e => rfl
    | ok domain =>
      exact congrArg Except.ok
        (of_spellDocument document onServer methods domain)

/-- A document whose definition, properties and response have numbers for
names. -/
def numbered : Fields :=
  [ (.str "paths", .map
      [ (.str "/pets", .map
          [ (.str "get", .map
              [ (.str "responses", .map
                  [ (.int 200, .map
                      [ (.str "schema", .map
                          [(.str "$ref", .str "#/definitions/7")]) ]),
                    (.str "default", .map []) ]) ]) ]) ]),
    (.str "definitions", .map
      [ (.int 7, .map
          [ (.str "properties", .map
              [ (.int 404, .map
                  [ (.str "enum", .list [.str "cat", .str "dog"]) ]) ]),
            (.str "allOf", .list
              [ .map
                  [ (.str "properties", .map
                      [ (.int 1, .map
                          [(.str "type", .str "integer")]) ]) ] ]) ]) ]) ]

end Service

end ClientGen
