import ClientGen.Proofs.Definition

/-!
# Definitions property by property

`Definition.read` says what a definition is as a whole. Here it is read as a
draft that takes one property at a time, its own ones first and then those of
the members of its `allOf` list. A property goes to one of two lists, may add an
import, and may declare an enumeration, which is kept if its name is free and
shadows that of the client in any case.

A draft holds of the properties that it has taken what `Draft.Holds` says. One
property more keeps that (`Draft.Holds.take`), so it is true of all of them
(`Draft.holds_ofSchema`), and the finished draft is the definition, with the
table that its events leave (`record_of_build`).
-/

namespace ClientGen

namespace Property

/-- A property that points at a model has a text for its type. -/
theorem exists_type_read_of_isRef {name schema : Value}
    (h : (read name schema).1.isRef = true) :
    ∃ s, (read name schema).1.type = .str s := by
  rw [isRef_read, pointsAtModel, Bool.or_eq_true, Bool.and_eq_true] at h
  rw [type_read]
  by_cases harray : ((schema.fields?.getD []).get "type").isText "array" = true
  · rw [if_pos harray]
    exact ⟨_, rfl⟩
  · rw [if_neg harray]
    split
    · exact ⟨_, rfl⟩
    · rcases h with hown | hitems
      · obtain ⟨ref, href⟩ := Option.isSome_iff_exists.1 hown
        rw [href]
        exact ⟨_, rfl⟩
      · exact absurd hitems.1 harray

/-- A property that is an enumeration has its name for its type. -/
theorem snd_read_of_isEnum {name schema : Value}
    (h : (read name schema).1.isEnum = true) :
    ∃ e, (read name schema).2 = some e ∧ (read name schema).1.type = e.name := by
  rw [isEnum_read] at h
  have harray := isText_array_of_declares h
  exact ⟨_, by rw [snd_read, if_pos h], by simp [type_read, harray, h]⟩

end Property

namespace Definition

/-- A definition of which some properties have been taken, and the table of the
client at that point. -/
@[ext] structure Draft where
  properties : List Property
  refs : List Property
  imports : List Value
  enums : EnumTable
  hasEnums : Bool
  table : EnumTable
  deriving Inhabited, Repr

namespace Draft

/-- A draft that has taken nothing yet. -/
def start (t : EnumTable) : Draft := ⟨[], [], [], .empty, false, t⟩

/-- Declares an enumeration. -/
def declare (s : Draft) (e : Enumeration) : Draft :=
  if s.enums.has e.name then { s with table := s.table.shadow e.name }
  else
    { s with
      enums := ⟨s.enums.entries ++ [e]⟩
      hasEnums := true
      table := s.table.shadow e.name }

/-- Puts a property into its list. -/
def place (s : Draft) (p : Property) : Draft :=
  if p.isRef then
    { s with
      refs := s.refs ++ [p]
      imports :=
        if s.imports.any p.type.equals then s.imports
        else s.imports ++ [p.type] }
  else { s with properties := s.properties ++ [p] }

/-- Takes a property as it is read. -/
def take (s : Draft) (p : Property × Option Enumeration) : Draft :=
  (p.2.elim s s.declare).place p.1

/-- Takes the properties of a value, in order, if it is a mapping. -/
def takeAll (s : Draft) (properties : Value) : Draft :=
  match properties with
  | .map entries =>
    entries.foldl (fun s (name, schema) => s.take (Property.read name schema)) s
  | _ => s

/-- Takes the properties of a schema, then those of the mappings in its `allOf`
list. -/
def ofSchema (schema : Fields) (t : EnumTable) : Draft :=
  let own := (start t).takeAll (Fields.get schema "properties")
  match Fields.get schema "allOf" with
  | .list members =>
    members.foldl (fun s member =>
      match member with
      | .map fields => s.takeAll (Fields.get fields "properties")
      | _ => s) own
  | _ => own

/-! ### One property more -/

section Step

variable (s : Draft) (e : Enumeration) (p : Property)

@[simp] theorem properties_declare : (s.declare e).properties = s.properties := by
  unfold declare
  split <;> rfl

@[simp] theorem refs_declare : (s.declare e).refs = s.refs := by
  unfold declare
  split <;> rfl

@[simp] theorem imports_declare : (s.declare e).imports = s.imports := by
  unfold declare
  split <;> rfl

/-- Declaring registers the enumeration with the definition. -/
@[simp] theorem enums_declare : (s.declare e).enums = s.enums.register e := by
  unfold declare EnumTable.register
  split <;> rfl

/-- Declaring shadows the name, whether or not it is declared again. -/
@[simp] theorem table_declare :
    (s.declare e).table = s.table.shadow e.name := by
  unfold declare
  split <;> rfl

@[simp] theorem enums_place : (s.place p).enums = s.enums := by
  unfold place
  split <;> rfl

@[simp] theorem hasEnums_place : (s.place p).hasEnums = s.hasEnums := by
  unfold place
  split <;> rfl

@[simp] theorem table_place : (s.place p).table = s.table := by
  unfold place
  split <;> rfl

theorem properties_place :
    (s.place p).properties = s.properties ++ [p].filter (!·.isRef) := by
  unfold place
  cases h : p.isRef <;> simp [h]

theorem refs_place : (s.place p).refs = s.refs ++ [p].filter (·.isRef) := by
  unfold place
  cases h : p.isRef <;> simp [h]

end Step

/-- What a draft holds that has taken properties in order, from a table on. -/
structure Holds (s : Draft) (ps : List (Property × Option Enumeration))
    (t : EnumTable) : Prop where
  properties : s.properties = (ps.map (·.1)).filter (!·.isRef)
  refs : s.refs = (ps.map (·.1)).filter (·.isRef)
  imports : s.imports = (s.refs.map (·.type)).eraseDupsBy Value.equals
  enums : s.enums = EnumTable.empty.registerAll (ps.filterMap (·.2))
  hasEnums : s.hasEnums = !s.enums.entries.isEmpty
  table : s.table = t.shadowAll ((ps.filterMap (·.2)).map (·.name))

variable {s : Draft} {ps : List (Property × Option Enumeration)}
  {t : EnumTable}

theorem holds_start (t : EnumTable) : (start t).Holds [] t :=
  ⟨rfl, rfl, rfl, rfl, rfl, rfl⟩

/-- A definition has enumerations once it has declared one. -/
private theorem hasEnums_declare {e : Enumeration}
    (h : s.hasEnums = !s.enums.entries.isEmpty) :
    (s.declare e).hasEnums = !(s.declare e).enums.entries.isEmpty := by
  rw [enums_declare, EnumTable.entries_register]
  unfold declare
  cases htaken : s.enums.has e.name with
  | true => simpa using h
  | false => simp

/-- A model is imported where it is first pointed at. -/
private theorem imports_place {p : Property}
    (h : s.imports = (s.refs.map (·.type)).eraseDupsBy Value.equals) :
    (s.place p).imports =
      ((s.place p).refs.map (·.type)).eraseDupsBy Value.equals := by
  rw [refs_place]
  unfold place
  cases hisRef : p.isRef with
  | false => simpa [hisRef] using h
  | true =>
    have hlist : (s.refs ++ [p].filter (·.isRef)).map (·.type) =
        s.refs.map (·.type) ++ [p.type] := by
      simp [hisRef]
    rw [hlist, FirstOfEach.eraseDupsBy_concat, ← h]
    rfl

/-- One property more. -/
theorem Holds.take (h : s.Holds ps t) (p : Property × Option Enumeration) :
    (s.take p).Holds (ps ++ [p]) t := by
  obtain ⟨p, enumeration⟩ := p
  cases enumeration with
  | none =>
    exact {
      properties := by simp [Draft.take, properties_place, h.properties]
      refs := by simp [Draft.take, refs_place, h.refs]
      imports := imports_place h.imports
      enums := by simp [Draft.take, h.enums]
      hasEnums := by simpa [Draft.take] using h.hasEnums
      table := by simp [Draft.take, h.table] }
  | some e =>
    -- The enumeration comes first; it does not touch what places the property.
    have himports : (s.declare e).imports =
        ((s.declare e).refs.map (·.type)).eraseDupsBy Value.equals := by
      simpa using h.imports
    exact {
      properties := by simp [Draft.take, properties_place, h.properties]
      refs := by simp [Draft.take, refs_place, h.refs]
      imports := imports_place himports
      enums := by simp [Draft.take, h.enums, EnumTable.registerAll_append]
      hasEnums := by simpa [Draft.take] using hasEnums_declare h.hasEnums
      table := by simp [Draft.take, h.table, EnumTable.shadowAll_append] }

/-- Properties in order. -/
theorem Holds.foldl (h : s.Holds ps t)
    (qs : List (Property × Option Enumeration)) :
    (qs.foldl Draft.take s).Holds (ps ++ qs) t := by
  induction qs generalizing s ps with
  | nil => simpa using h
  | cons q qs ih => simpa using ih (h.take q)

/-- The properties of a value that is no mapping are none. -/
private theorem takeAll_eq (s : Draft) (properties : Value) :
    s.takeAll properties =
      ((properties.fields?.getD []).map fun e => Property.read e.1 e.2).foldl
        take s := by
  rw [List.foldl_map]
  cases properties with
  | map entries => rfl
  | _ => rfl

/-- A draft takes the properties of a definition one by one. -/
theorem ofSchema_eq (schema : Fields) (t : EnumTable) :
    ofSchema schema t = (parsed schema).foldl take (start t) := by
  have hmember (s : Draft) (member : Value) :
      (match member with
        | .map fields => s.takeAll (Fields.get fields "properties")
        | _ => s) =
      ((propertiesOf (member.fields?.getD [])).map
        fun e => Property.read e.1 e.2).foldl take s := by
    cases member with
    | map fields => exact takeAll_eq s _
    | _ => rfl
  rw [parsed, sources, List.map_append, List.foldl_append, List.map_flatMap,
    List.foldl_flatMap, ofSchema, takeAll_eq]
  cases Fields.get schema "allOf" with
  | list members => simp only [hmember]; rfl
  | _ => rfl

/-- What a draft holds that has taken a whole schema. -/
theorem holds_ofSchema (schema : Fields) (t : EnumTable) :
    (ofSchema schema t).Holds (parsed schema) t := by
  rw [ofSchema_eq]
  exact (holds_start t).foldl (parsed schema)

end Draft

/-! ### The finished record -/

/-- A definition is made of properties, each with the enumeration that it
declares. -/
structure IsMadeOf (d : Definition)
    (ps : List (Property × Option Enumeration)) : Prop where
  /-- Both lists keep the order. -/
  properties : d.properties = (ps.map (·.1)).filter (!·.isRef)
  refs : d.refs = (ps.map (·.1)).filter (·.isRef)
  /-- Nothing is lost, and nothing is there twice. -/
  perm : (d.properties ++ d.refs).Perm (ps.map (·.1))
  /-- A model is imported once, in the place where it is first pointed at. -/
  imports : d.imports.map .str =
    (d.refs.map (·.type)).eraseDupsBy Value.equals
  /-- The first enumeration of each name is kept. -/
  enums : d.enums.entries =
    (ps.filterMap (·.2)).eraseDupsBy Enumeration.sameName
  hasEnums : d.hasEnums = true ↔ d.enums.entries ≠ []
  /-- No property is typed with an enumeration that is not there. -/
  isEnum : ∀ p ∈ d.properties ++ d.refs, p.isEnum = true →
    ∃ e ∈ d.enums.entries, p.type = e.name

section Record

variable (name : Value) (schema : Fields)

/-- The names of imports are texts, so that they are equal as values if they
are the same text. -/
theorem map_imports_read :
    (read name schema).imports.map .str =
      ((read name schema).refs.map (·.type)).eraseDupsBy Value.equals := by
  have htext : ∀ p ∈ (read name schema).refs, Value.str p.type.text = p.type := by
    intro p hp
    obtain ⟨hmem, hisRef⟩ := List.mem_filter.1 hp
    rw [map_fst_parsed, List.mem_map] at hmem
    obtain ⟨e, -, rfl⟩ := hmem
    obtain ⟨s, hs⟩ := Property.exists_type_read_of_isRef hisRef
    rw [hs, Value.text_str]
  have htypes : (((read name schema).refs.map (·.type.text)).map .str :
      List Value) = (read name schema).refs.map (·.type) := by
    rw [List.map_map]
    exact List.map_congr_left htext
  have hequals : (fun b a : String => (Value.str b).equals (.str a)) =
      fun b a => b == a := by
    funext b a
    exact Value.equals_str b a
  rw [← htypes, ← FirstOfEach.map_eraseDupsBy, hequals]
  rfl

/-- An enumeration that a property declares is there under its name, be it that
of another property. -/
theorem exists_enum_of_isEnum {p : Property}
    (hp : p ∈ (parsed schema).map (·.1)) (h : p.isEnum = true) :
    ∃ e ∈ (read name schema).enums.entries, p.type = e.name := by
  rw [map_fst_parsed, List.mem_map] at hp
  obtain ⟨source, hsource, rfl⟩ := hp
  obtain ⟨e, he, htype⟩ := Property.snd_read_of_isEnum h
  have hdeclared : e ∈ declarations schema :=
    List.mem_filterMap.2
      ⟨Property.read source.1 source.2, List.mem_map.2 ⟨source, hsource, rfl⟩, he⟩
  obtain ⟨n, hn⟩ := textual_declarations schema e hdeclared
  have hname : n ∈ declaredIn schema := by
    rw [← names_declarations, List.mem_map]
    exact ⟨e, hdeclared, by rw [hn, Value.text_str]⟩
  have hhas : (read name schema).enums.has e.name = true := by
    rw [has_enums_read, List.any_eq_true]
    exact ⟨n, hname, Value.equals_str_iff.2 hn⟩
  obtain ⟨f, hf, hequals⟩ := List.any_eq_true.1 hhas
  rw [hn, Value.equals_str_iff] at hequals
  exact ⟨f, hf, by rw [htype, hn, hequals]⟩

theorem isMadeOf_read : (read name schema).IsMadeOf (parsed schema) := by
  have hperm : ((read name schema).properties ++ (read name schema).refs).Perm
      ((parsed schema).map (·.1)) := by
    rw [map_fst_parsed]
    exact perm_properties name schema
  exact {
    properties := rfl
    refs := rfl
    perm := hperm
    imports := map_imports_read name schema
    enums := EnumTable.entries_registerAll_empty (declarations schema)
    hasEnums := by simp [hasEnums]
    isEnum := fun p hp h =>
      exists_enum_of_isEnum name schema (hperm.mem_iff.1 hp) h }

/-- The finished draft is the definition, with the table that it leaves. -/
theorem ofSchema_eq_read (t : EnumTable) :
    Draft.ofSchema schema t =
      { properties := (read name schema).properties
        refs := (read name schema).refs
        imports := (read name schema).imports.map .str
        enums := (read name schema).enums
        hasEnums := (read name schema).hasEnums
        table := t.applyAll (events name schema) } := by
  have h := Draft.holds_ofSchema schema t
  have htable : t.applyAll (events name schema) =
      t.shadowAll ((declarations schema).map (·.name)) :=
    applyAll_declareEvents _ _ _ _
  have hrefs : (Draft.ofSchema schema t).refs = (read name schema).refs :=
    h.refs
  have henums : (Draft.ofSchema schema t).enums = (read name schema).enums :=
    h.enums
  have himports := h.imports
  have hhas := h.hasEnums
  rw [hrefs, ← map_imports_read] at himports
  rw [henums] at hhas
  exact Draft.ext h.properties hrefs himports henums hhas
    (h.table.trans htable.symm)

/-- The enumerations that a definition shadows are those of the names that it
has. -/
theorem entries_applyAll_events {t : EnumTable} (h : t.Distinct) :
    (t.applyAll (events name schema)).entries =
      t.entries.filter fun e => !(read name schema).enums.has e.name := by
  rw [applyAll_events, h.entries_shadowAll]
  simp only [has_enums_read]

end Record

/-- A schema that has a property twice, and one that is an enumeration and
points at a model. Of its `allOf` list only the last member counts. -/
def paint : Fields :=
  [ (.str "properties", .map
      [ (.str "shade", .map
          [ (.str "enum", .list [.str "dark", .str "light"]) ]),
        (.str "base", .map [ (.str "$ref", .str "#/definitions/Base") ]),
        (.str "finish", .map
          [ (.str "enum", .list [.str "matt"]),
            (.str "$ref", .str "#/definitions/Base") ]) ]),
    (.str "allOf", .list
      [ .map [ (.str "$ref", .str "#/definitions/Shade") ],
        .str "shade",
        .map
          [ (.str "properties", .map
              [ (.str "shade", .map
                  [ (.str "enum", .list [.str "pale"]),
                    (.str "$ref", .str "#/definitions/Base") ]),
                (.str "coats", .map
                  [ (.str "type", .str "array"),
                    (.str "enum", .list [.str "none"]),
                    (.str "items", .map
                      [ (.str "$ref", .str "#/definitions/Base") ]) ]) ]) ] ]) ]

end Definition
end ClientGen
