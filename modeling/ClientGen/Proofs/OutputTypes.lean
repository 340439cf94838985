import ClientGen.Proofs.ServiceTypes
import ClientGen.Proofs.Spelling

/-!
# Output types

Every parameter, response and property has a slot for the type that it has in
the generated code. It is an output type if it is a text, neither empty nor only
the mark of arrays. Most ways to a type make sure of that and fall back to
`any`, but not all: a declared type of dashes and dots only leaves nothing
(`Schema.Vanishes`), one may be the mark of arrays itself
(`Schema.IsBareMark`), and of a property it may be no text at all.

`output_types` says of each slot when it has an output type and when it is
`any`, in terms of what the document has for it. A parameter whose declared type
is a dash has none (`exists_without_type`).
-/

namespace ClientGen

namespace Text

/-! ### What is left of a name -/

/-- The characters of a name that are no delimiters. -/
def undelimited (s : String) : List Char :=
  s.toList.filter fun c => !isDelimiter c

/-- Capitalizing does not make a text of marks, nor does it change one. -/
theorem upperChar_append_eq_iff {c : Char} {rest t : List Char}
    (ht : ∀ d ∈ t, IsMark d) : upperChar c ++ rest = t ↔ c :: rest = t := by
  constructor
  · intro h
    obtain ⟨u, more, hupper, -⟩ := upperChar_eq_cons c
    have hmem : u ∈ upperChar c := by
      rw [hupper]
      exact List.mem_cons_self
    have hmark : IsMark u := ht u (by rw [← h]; exact List.mem_append_left _ hmem)
    have hsame : u = c := eq_of_mem_upperChar hmark hmem
    rw [hsame] at hmark
    rwa [upperChar_of_isMark hmark] at h
  · intro h
    have hmark : IsMark c := ht c (by rw [← h]; exact List.mem_cons_self)
    rwa [upperChar_of_isMark hmark]

/-- Texts of marks are read from those that have them between delimiters. -/
private theorem joinFrom_eq_iff (capital : Bool) {s t : List Char}
    (ht : ∀ d ∈ t, IsMark d) :
    joinFrom isDelimiter capital s = t ↔
      (s.filter fun c => !isDelimiter c) = t := by
  induction s generalizing capital t with
  | nil => exact Iff.rfl
  | cons c rest ih =>
    rw [joinFrom, List.filter_cons]
    cases hc : isDelimiter c with
    | true => exact ih true ht
    | false =>
      have hcapital : (if capital then upperChar c else [c]) ++
          joinFrom isDelimiter false rest = t ↔
            c :: joinFrom isDelimiter false rest = t := by
        cases capital with
        | false => exact Iff.rfl
        | true => exact upperChar_append_eq_iff ht
      rw [if_neg Bool.false_ne_true, hcapital]
      cases t with
      | nil => simp
      | cons d t =>
        have hrest := ih false fun e he => ht e (List.mem_cons_of_mem d he)
        simp [hrest]

/-- An identifier is a text of marks exactly if that is what is left of the
name. -/
theorem identifier_eq_iff {s t : String} (ht : ∀ d ∈ t.toList, IsMark d) :
    identifier s = t ↔ undelimited s = t.toList := by
  rw [undelimited, ← joinFrom_eq_iff false ht,
    ← identifierChars_eq_joinFrom, ← String.toList_inj, toList_identifier]

/-- A capitalized text is one of marks exactly if the text is. -/
theorem capitalize_eq_iff {s t : String} (ht : ∀ d ∈ t.toList, IsMark d) :
    capitalize s = t ↔ s = t := by
  rw [← String.toList_inj, ← String.toList_inj, toList_capitalize]
  cases s.toList with
  | nil => exact Iff.rfl
  | cons c rest => exact upperChar_append_eq_iff ht

end Text

/-! ### Slots -/

namespace Schema

/-- A value is an output type: a text, neither empty nor only the mark of
arrays. -/
def IsType (v : Value) : Prop := ∃ t, v = .str t ∧ t ≠ "" ∧ t ≠ arrayMark

theorem isType_str {t : String} : IsType (.str t) ↔ t ≠ "" ∧ t ≠ arrayMark := by
  simp [IsType]

/-- Arrays have an output type if there is anything in front of the mark. -/
theorem isType_append_arrayMark {t : String} :
    IsType (.str (t ++ arrayMark)) ↔ t ≠ "" := by
  rw [isType_str, Ne, Ne, String.append_eq_empty_iff, String.append_eq_right_iff]
  exact ⟨And.right, fun h => ⟨fun hboth => h hboth.1, h⟩⟩

/-- A slot has an output type unless its own is lost, and the type of everything
if none is declared for it. -/
structure Slot (lost undeclared : Prop) (v : Value) : Prop where
  isType_iff : IsType v ↔ ¬ lost
  any_of_undeclared : undeclared → v = .str anyType

/-- The type of everything is an output type. -/
theorem Slot.any {lost undeclared : Prop} (h : ¬ lost) :
    Slot lost undeclared (.str anyType) := by
  refine ⟨iff_of_true ⟨anyType, rfl, ?_⟩ h, fun _ => rfl⟩
  decide

/-- A slot for which a type is declared. -/
theorem Slot.declared {lost undeclared : Prop} {v : Value} (h : ¬ undeclared)
    (hiff : IsType v ↔ ¬ lost) : Slot lost undeclared v :=
  ⟨hiff, fun hnone => absurd hnone h⟩

/-! ### Declared types -/

/-- A declared type is made of delimiters only. -/
def Vanishes : Value → Prop
  | .str s => s ≠ "" ∧ Text.undelimited s = []
  | _ => False

/-- Nothing but the mark of arrays is left of a declared type. -/
def IsBareMark : Value → Prop
  | .str s => Text.undelimited s = arrayMark.toList
  | _ => False

/-- Nothing but the mark of arrays is left of the name that a reference points
at. -/
def PointsAtMark : Value → Prop
  | .str s => Text.undelimited (referenceTarget s) = arrayMark.toList
  | _ => False

/-- A reference is no text, or nothing is left of the name that it points at. -/
def PointsNowhere : Value → Prop
  | .str s => Text.undelimited (referenceTarget s) = []
  | _ => True

/-- A type that vanishes is declared. -/
theorem truthy_of_vanishes {v : Value} (h : Vanishes v) : v.truthy = true := by
  cases v with
  | str s => simpa [Value.truthy] using h.1
  | _ => exact h.elim

theorem anyType_ne : anyType ≠ "" ∧ anyType ≠ arrayMark := by
  decide

theorem isMark_empty : ∀ d ∈ "".toList, Text.IsMark d :=
  List.forall_mem_nil Text.IsMark

theorem isMark_arrayMark : ∀ d ∈ arrayMark.toList, Text.IsMark d := by
  have hmarks : arrayMark.toList = ['[', ']'] := by
    decide
  rw [hmarks, List.forall_mem_cons, List.forall_mem_singleton]
  decide

theorem identifier_eq_empty_iff {s : String} :
    Text.identifier s = "" ↔ Text.undelimited s = [] :=
  Text.identifier_eq_iff isMark_empty

theorem identifier_eq_arrayMark_iff {s : String} :
    Text.identifier s = arrayMark ↔ Text.undelimited s = arrayMark.toList :=
  Text.identifier_eq_iff isMark_arrayMark

/-- A text with a mark is no scalar, in no case of letters. -/
theorem lookup_of_mem_isMark {s : String} {d : Char} (hmark : Text.IsMark d)
    (hd : d ∈ s.toList) : scalarNames.lookup (Text.lower s) = none := by
  have hletters : ∀ e ∈ scalarNames, e.1.toList.all Char.isAlpha = true := by
    decide
  have hlower : d ∈ (Text.lower s).toList := by
    rw [Text.toList_lower]
    exact Text.mem_lowerChars_of_mem hmark hd
  rw [List.lookup_eq_none_iff]
  intro e he
  rw [bne_iff_ne]
  intro hname
  have hletter := List.all_eq_true.1 (hletters e he) d (hname ▸ hlower)
  rw [hmark.2] at hletter
  cases hletter

/-- A text of which nothing or only the mark of arrays is left is no scalar: it
has a mark. -/
theorem lookup_scalarNames {s : String} (hs : s ≠ "")
    (h : Text.undelimited s = [] ∨ Text.undelimited s = arrayMark.toList) :
    scalarNames.lookup (Text.lower s) = none := by
  cases hchars : s.toList with
  | nil => exact absurd (String.toList_eq_nil_iff.1 hchars) hs
  | cons c rest =>
    have hmem : c ∈ s.toList := by
      rw [hchars]
      exact List.mem_cons_self
    refine lookup_of_mem_isMark ?_ hmem
    cases hc : Text.isDelimiter c with
    | true =>
      simp only [Text.isDelimiter, Bool.or_eq_true, beq_iff_eq] at hc
      rcases hc with rfl | rfl <;> decide
    | false =>
      have hleft : c ∈ Text.undelimited s :=
        List.mem_filter.2 ⟨hmem, by simp [hc]⟩
      rcases h with h | h
      · rw [h] at hleft
        cases hleft
      · exact isMark_arrayMark c (h ▸ hleft)

/-- The name of a scalar is an output type. -/
theorem isType_of_lookup {s t : String} (h : scalarNames.lookup s = some t) :
    t ≠ "" ∧ t ≠ arrayMark := by
  have hall : ∀ e ∈ scalarNames, e.2 ≠ "" ∧ e.2 ≠ arrayMark := by
    decide
  obtain ⟨before, after, hsplit, -⟩ := List.lookup_eq_some_iff.1 h
  exact hall (s, t) (by rw [hsplit]; simp)

theorem scalarType_eq_iff {s t : String} (hs : s ≠ "")
    (ht : t = "" ∨ t = arrayMark) :
    scalarType (.str s) = t ↔ Text.undelimited s = t.toList := by
  have hmarks : ∀ d ∈ t.toList, Text.IsMark d := by
    rcases ht with rfl | rfl
    · exact isMark_empty
    · exact isMark_arrayMark
  rw [scalarType, if_neg hs, ← Text.identifier_eq_iff hmarks]
  cases hlookup : scalarNames.lookup (Text.lower s) with
  | none => exact Iff.rfl
  | some name =>
    have hname := isType_of_lookup hlookup
    have hne : name ≠ t := by
      rcases ht with rfl | rfl
      · exact hname.1
      · exact hname.2
    have hidentifier : Text.identifier s ≠ t := by
      intro h
      have hleft := (Text.identifier_eq_iff hmarks).1 h
      have hnone := lookup_scalarNames hs (by
        rcases ht with rfl | rfl
        · exact Or.inl hleft
        · exact Or.inr hleft)
      rw [hnone] at hlookup
      cases hlookup
    exact iff_of_false hne hidentifier

theorem scalarType_eq_empty_iff {v : Value} : scalarType v = "" ↔ Vanishes v := by
  cases v with
  | str s =>
    by_cases hs : s = ""
    · subst hs
      exact iff_of_false (by decide) fun h => h.1 rfl
    · rw [scalarType_eq_iff hs (Or.inl rfl)]
      exact ⟨fun h => ⟨hs, h⟩, And.right⟩
  | _ => exact iff_of_false anyType_ne.1 id

theorem scalarType_eq_arrayMark_iff {v : Value} :
    scalarType v = arrayMark ↔ IsBareMark v := by
  cases v with
  | str s =>
    by_cases hs : s = ""
    · subst hs
      have hleft : Text.undelimited "" ≠ arrayMark.toList := by
        decide
      exact iff_of_false anyType_ne.2 hleft
    · exact scalarType_eq_iff hs (Or.inr rfl)
  | _ => exact iff_of_false anyType_ne.2 id

theorem referenceType_ne_empty (ref : Value) : referenceType ref ≠ "" := by
  unfold referenceType
  split
  · dsimp only
    split
    · decide
    · assumption
  · decide

theorem referenceType_eq_arrayMark_iff {ref : Value} :
    referenceType ref = arrayMark ↔ PointsAtMark ref := by
  cases ref with
  | str s =>
    rw [referenceType, PointsAtMark, ← identifier_eq_arrayMark_iff]
    split
    · next h =>
      rw [h]
      exact iff_of_false anyType_ne.2 (by decide)
    · exact Iff.rfl
  | _ => exact iff_of_false anyType_ne.2 id

theorem referenceType_of_pointsNowhere {ref : Value} (h : PointsNowhere ref) :
    referenceType ref = anyType := by
  cases ref with
  | str s =>
    have hname : Text.identifier (referenceTarget s) = "" :=
      identifier_eq_empty_iff.2 h
    rw [referenceType, if_pos hname]
  | _ => rfl

theorem isType_referenceType_iff {ref : Value} :
    IsType (.str (referenceType ref)) ↔ ¬ PointsAtMark ref := by
  rw [isType_str, Ne, Ne, referenceType_eq_arrayMark_iff]
  exact and_iff_right (referenceType_ne_empty ref)

theorem isType_scalarType_iff {v : Value} :
    IsType (.str (scalarType v)) ↔ ¬ (Vanishes v ∨ IsBareMark v) := by
  rw [isType_str, Ne, Ne, scalarType_eq_empty_iff, scalarType_eq_arrayMark_iff,
    not_or]

/-! ### Types of properties -/

theorem propertyType_of_not_truthy {v : Value} (h : v.truthy = false) :
    propertyType v = .str anyType := by
  simp [propertyType, h]

/-- What is no text is passed on as it is. -/
theorem propertyType_of_text?_eq_none {v : Value} (htruthy : v.truthy = true)
    (h : v.text? = none) : propertyType v = v := by
  have hother (s : String) : v.isText s = false := by
    cases v with
    | str t => cases h
    | _ => rfl
  simp [propertyType, htruthy, hother]

/-- The types that do not stay as they are in the place of a property: the one
that is missing, and those that have another name there. -/
def renamedTypes : List String := ["", "integer", "double", "object"]

/-- What a declared type is called in the place of a property. -/
def renamed (t : String) : String :=
  if t = "" ∨ t = "object" then anyType
  else if t = "integer" ∨ t = "double" then "number"
  else t

theorem renamed_of_notMem {t : String} (h : t ∉ renamedTypes) :
    renamed t = t := by
  simp only [renamedTypes, List.mem_cons, List.not_mem_nil, or_false,
    not_or] at h
  obtain ⟨hempty, hinteger, hdouble, hobject⟩ := h
  simp [renamed, hempty, hinteger, hdouble, hobject]

theorem propertyType_str (t : String) :
    propertyType (.str t) = .str (renamed t) := by
  by_cases hmissing : t = ""
  · subst hmissing
    rfl
  · by_cases hobject : t = "object"
    · subst hobject
      rfl
    · simp [propertyType, renamed, Value.truthy, Value.isText, hmissing,
        hobject, apply_ite Value.str]

/-- The type of a property that is a text becomes an output type unless it is
the mark of arrays. -/
theorem isType_propertyType_str {t : String} :
    IsType (propertyType (.str t)) ↔ t ≠ arrayMark := by
  rw [propertyType_str, isType_str]
  by_cases hrenamed : t ∈ renamedTypes
  · have htypes : ∀ t ∈ renamedTypes,
        ((renamed t ≠ "" ∧ renamed t ≠ arrayMark) ↔ t ≠ arrayMark) := by
      decide
    exact htypes t hrenamed
  · have hempty : t ≠ "" := by
      rintro rfl
      exact hrenamed (by decide)
    rw [renamed_of_notMem hrenamed]
    exact and_iff_right hempty

/-- So does no other value that counts as true. -/
theorem isType_propertyType_iff {v : Value} :
    IsType (propertyType v) ↔
      ¬ (v.truthy = true ∧ ∀ t, v = .str t → t = arrayMark) := by
  rcases v.text_or_none with ⟨t, rfl⟩ | hnone
  · rw [isType_propertyType_str]
    constructor
    · rintro hne ⟨-, hlost⟩
      exact hne (hlost t rfl)
    · rintro h rfl
      refine h ⟨by decide, ?_⟩
      rintro t ht
      cases ht
      rfl
  · cases htruthy : v.truthy with
    | false =>
      rw [propertyType_of_not_truthy htruthy]
      exact iff_of_true (isType_str.2 anyType_ne) (by simp)
    | true =>
      rw [propertyType_of_text?_eq_none htruthy hnone]
      have hlost : ∀ t, v = .str t → t = arrayMark := by
        rintro t rfl
        cases hnone
      have hother : ¬ IsType v := by
        rintro ⟨t, rfl, -⟩
        cases hnone
      exact iff_of_false hother fun h => h ⟨rfl, hlost⟩

/-- The items of an array are no reference, and their declared type is made of
delimiters only. -/
def ItemsVanish (items : Fields) : Prop :=
  items.get? "$ref" = none ∧ Vanishes (items.get "type")

/-- The type of an array is an output type unless that of its items vanishes,
provided that what it falls back to is one. -/
theorem isType_arrayType_iff {items declared : Value}
    (h : IsType (.str (scalarType declared))) :
    IsType (.str (arrayType items declared)) ↔
      ¬ ItemsVanish (items.fields?.getD []) := by
  unfold arrayType ItemsVanish
  generalize items.fields?.getD [] = fields
  cases href : fields.get? "$ref" with
  | some ref =>
    simp [href, isType_append_arrayMark, referenceType_ne_empty]
  | none =>
    cases htruthy : (fields.get "type").truthy with
    | true =>
      simp [href, htruthy, isType_append_arrayMark, scalarType_eq_empty_iff]
    | false =>
      have hkept : ¬ Vanishes (fields.get "type") := by
        intro hvanishes
        rw [truthy_of_vanishes hvanishes] at htruthy
        cases htruthy
      simpa [href, htruthy, hkept] using h

end Schema

/-! ### The slots of a document -/

namespace Parameter

open Schema

/-- A parameter has no output type: it promotes an enumeration without a name,
or its declared type or that of its items leaves nothing. -/
def LosesType (p : Fields) : Prop :=
  if promotes p then (nameOf p).text = "" ∨ (nameOf p).text = arrayMark
  else
    Vanishes (declaredType p).1 ∨ IsBareMark (declaredType p).1 ∨
      ((declaredType p).1.isText "array" = true ∧
        ItemsVanish ((declaredType p).2.fields?.getD []))

/-- The declared type of a parameter is missing or no text. -/
def IsUndeclared (p : Fields) : Prop := ∀ t, (declaredType p).1 = .str t → t = ""

/-- The type of a parameter that promotes nothing. -/
theorem slot_plainType (p : Fields) :
    Slot (Vanishes (declaredType p).1 ∨ IsBareMark (declaredType p).1 ∨
        ((declaredType p).1.isText "array" = true ∧
          ItemsVanish ((declaredType p).2.fields?.getD [])))
      (IsUndeclared p) (.str (plainType p)) := by
  unfold IsUndeclared
  rcases hdeclared : declaredType p with ⟨type, items⟩
  dsimp only
  cases harray : type.isText "array" with
  | false =>
    have hplain : plainType p = scalarType type := by
      simp [plainType, hdeclared, harray]
    rw [hplain]
    refine ⟨?_, ?_⟩
    · simp [isType_scalarType_iff]
    · intro h
      cases type with
      | str t =>
        rw [h t rfl]
        rfl
      | _ => rfl
  | true =>
    obtain rfl := Value.isText_iff.1 harray
    have hkept : ¬ Vanishes (.str "array") ∧ ¬ IsBareMark (.str "array") := by
      rw [← not_or, ← isType_scalarType_iff]
      exact isType_str.2 (by decide)
    refine Slot.declared (fun h => absurd (h "array" rfl) (by decide)) ?_
    rw [plainType_of_array hdeclared,
      isType_arrayType_iff (isType_str.2 (by decide))]
    simp [hkept]

theorem slot_read (p : Fields) :
    Slot (LosesType p) (IsUndeclared p) (.str (read p).typescriptType) := by
  unfold LosesType
  cases hpromotes : promotes p with
  | true =>
    rw [typescriptType_read_of_promotes hpromotes]
    have hstring : (declaredType p).1 = .str "string" := by
      simp only [promotes, Bool.and_eq_true] at hpromotes
      exact Value.isText_iff.1 hpromotes.1
    refine Slot.declared (fun h => absurd (h _ hstring) (by decide)) ?_
    rw [isType_str, Value.enumName, Ne, Ne, Text.capitalize_eq_iff isMark_empty,
      Text.capitalize_eq_iff isMark_arrayMark]
    simp
  | false =>
    rw [typescriptType_read_of_not_promotes hpromotes]
    simpa using slot_plainType p

end Parameter

namespace Response

open Schema

/-- A response has no output type: the declared type of its items leaves
nothing, or what it points at only the mark of arrays. -/
def LosesType (schema : Fields) : Prop :=
  match schema.get? "type" with
  | some type => type.isText "array" = true ∧ ItemsVanish (schema.inner "items")
  | none => ∃ ref, schema.get? "$ref" = some ref ∧ PointsAtMark ref

/-- A response is no array and points at nothing. -/
def IsUndeclared (schema : Fields) : Prop :=
  match schema.get? "type" with
  | some type => type.isText "array" = false
  | none => ∀ ref, schema.get? "$ref" = some ref → PointsNowhere ref

theorem slot_schemaType (schema : Fields) :
    Slot (LosesType schema) (IsUndeclared schema) (.str (schemaType schema)) := by
  unfold LosesType IsUndeclared schemaType
  cases schema.get? "type" with
  | some type =>
    dsimp only
    cases type.isText "array" with
    | false => exact Slot.any (by simp)
    | true =>
      refine Slot.declared (by simp) ?_
      unfold ItemsVanish
      rw [← Fields.inner]
      cases (schema.inner "items").get? "$ref" with
      | some ref =>
        simp [isType_append_arrayMark, referenceType_ne_empty]
      | none =>
        simp [isType_append_arrayMark, scalarType_eq_empty_iff]
  | none =>
    cases schema.get? "$ref" with
    | none => exact Slot.any (by simp)
    | some ref =>
      refine ⟨?_, ?_⟩
      · simp [isType_referenceType_iff]
      · intro h
        exact congrArg Value.str (referenceType_of_pointsNowhere (h ref rfl))

end Response

namespace Property

open Schema

/-- Only the mark of arrays is left of the type of an array's elements. -/
def LosesElement (items : Fields) : Prop :=
  match items.get? "$ref" with
  | some ref => PointsAtMark ref
  | none =>
    (items.get "type").truthy = true ∧
      Text.undelimited (items.get "type").text = arrayMark.toList

/-- The elements of an array have no declared type, or nothing is left of it. -/
def IsElementUndeclared (items : Fields) : Prop :=
  match items.get? "$ref" with
  | some ref => PointsNowhere ref
  | none =>
    (items.get "type").truthy = true →
      Text.undelimited (items.get "type").text = []

/-- A property has no output type: only the mark of arrays is left of its type,
or that is no text. -/
def LosesType (name schema : Value) : Prop :=
  let fields := schema.fields?.getD []
  if (fields.get "type").isText "array" then LosesElement (fields.inner "items")
  else if declares schema then name.text = arrayMark
  else
    match fields.get? "$ref" with
    | some ref => PointsAtMark ref
    | none =>
      (fields.get "type").truthy = true ∧
        ∀ t, fields.get "type" = .str t → t = arrayMark

/-- A property has no declared type, or nothing is left of it. -/
def IsUndeclared (name schema : Value) : Prop :=
  let fields := schema.fields?.getD []
  if (fields.get "type").isText "array" then
    IsElementUndeclared (fields.inner "items")
  else if declares schema then name.text = ""
  else
    match fields.get? "$ref" with
    | some ref => PointsNowhere ref
    | none => (fields.get "type").truthy = false

/-- A text that becomes the type of a property. -/
theorem slot_propertyType_str {lost undeclared : Prop} {t : String}
    (hlost : lost ↔ t = arrayMark) (hnone : undeclared → t = "" ∨ t = anyType) :
    Slot lost undeclared (propertyType (.str t)) := by
  refine ⟨?_, ?_⟩
  · rw [isType_propertyType_str, hlost]
  · intro h
    rcases hnone h with rfl | rfl <;> rfl

/-- A property that is a reference, or an array of references. -/
theorem slot_reference (ref : Value) :
    Slot (PointsAtMark ref) (PointsNowhere ref)
      (propertyType (.str (referenceType ref))) :=
  slot_propertyType_str referenceType_eq_arrayMark_iff.symm fun h =>
    Or.inr (referenceType_of_pointsNowhere h)

/-- The type of the elements of an array. -/
theorem slot_elementType (items : Fields) :
    Slot (LosesElement items) (IsElementUndeclared items)
      (propertyType (.str (elementType items))) := by
  unfold LosesElement IsElementUndeclared elementType
  cases items.get? "$ref" with
  | some ref => exact slot_reference ref
  | none =>
    dsimp only
    cases htruthy : (items.get "type").truthy with
    | false => exact Slot.any (by simp)
    | true =>
      simp only [if_true, Value.identifier?_of_truthy htruthy,
        Option.getD_some, true_and, true_imp_iff]
      refine slot_propertyType_str identifier_eq_arrayMark_iff.symm fun h => ?_
      exact Or.inl (identifier_eq_empty_iff.2 h)

theorem slot_read (name schema : Value) :
    Slot (LosesType name schema) (IsUndeclared name schema)
      (read name schema).1.typescriptType := by
  rw [typescriptType_read, type_read]
  unfold LosesType IsUndeclared
  by_cases harray : ((schema.fields?.getD []).get "type").isText "array" = true
  · simp only [harray, if_true]
    exact slot_elementType _
  · by_cases hdeclares : declares schema = true
    · simp only [harray, hdeclares, if_true]
      refine slot_propertyType_str ?_ fun h => Or.inl ?_
      · exact (Text.capitalize_eq_iff isMark_arrayMark).symm
      · rw [Value.enumName, h]
        rfl
    · simp only [harray, hdeclares]
      cases (schema.fields?.getD []).get? "$ref" with
      | some ref => exact slot_reference ref
      | none =>
        exact ⟨isType_propertyType_iff, propertyType_of_not_truthy⟩

end Property

namespace Service

open Schema

/-- **Output types.** The slots of a client are those of the responses and the
parameters of its operations, in order, and of the properties of its
definitions, in any order. Each has an output type unless it is lost, and the
type of everything if none is declared for it. -/
theorem output_types {document : Fields} {onServer : Bool} {s : Service}
    (h : (build (.map document) onServer).outcome = .ok s) :
    List.Forall₂ (fun o m =>
        Slot (Response.LosesType (Response.schemaOf o.fields))
            (Response.IsUndeclared (Response.schemaOf o.fields))
            (.str m.response) ∧
          List.Forall₂ (fun p q => Slot (Parameter.LosesType p)
              (Parameter.IsUndeclared p) (.str q.typescriptType))
            (o.kept onServer) m.parameters)
      (Operation.all document) s.methods ∧
    List.Forall₂ (fun e d => ∃ qs, (d.properties ++ d.refs).Perm qs ∧
        List.Forall₂ (fun p q => Slot (Property.LosesType p.1 p.2)
            (Property.IsUndeclared p.1 p.2) q.typescriptType)
          (Definition.sources (e.2.fields?.getD [])) qs)
      (Definition.schemasOf document) s.definitions := by
  obtain ⟨methods, domain, hmethods, -, rfl⟩ := build_outcome_eq_ok.1 h
  constructor
  · refine (Operation.forall₂_methodOf hmethods).imp ?_
    rintro o m ⟨-, path, verb, isJson, -, -, -, rfl⟩
    constructor
    · rw [Operation.methodOf, Response.typeOf_eq]
      exact Response.slot_schemaType _
    · refine (Parameter.forall₂_readAll onServer o.listed).imp ?_
      rintro p q ⟨-, last, rfl⟩
      exact Parameter.slot_read p
  · refine (Definition.forall₂_readAll document).imp ?_
    rintro e d ⟨last, rfl⟩
    refine ⟨_, Definition.perm_properties e.1 (e.2.fields?.getD []), ?_⟩
    rw [List.forall₂_map_right_iff]
    exact List.forall₂_same.2 fun p _ => Property.slot_read p.1 p.2

/-- A document with one parameter of a declared type. -/
def typed (t : Value) : Fields :=
  [ (.str "paths", .map
      [ (.str "/pets", .map
          [ (.str "get", .map
              [ (.str "parameters", .list
                  [ .map
                      [ (.str "name", .str "pet"), (.str "in", .str "query"),
                        (.str "type", t) ] ]) ]) ]) ]) ]

/-- A parameter of a type with a name has an output type. -/
theorem output_types_typed :
    ∃ s, (build (.map (typed (.str "pet-tag"))) false).outcome = .ok s ∧
      ∃ m ∈ s.methods, IsType (.str m.response) ∧
        ∃ q ∈ m.parameters, IsType (.str q.typescriptType) := by
  obtain ⟨s, hs⟩ : ∃ s, (build (.map (typed (.str "pet-tag"))) false).outcome =
      .ok s := ⟨_, rfl⟩
  obtain ⟨m, ms, ⟨hresponse, hparameters⟩, -, hms⟩ :=
    List.forall₂_cons_left_iff.1 (output_types hs).1
  obtain ⟨q, qs, hparameter, -, hqs⟩ := List.forall₂_cons_left_iff.1 hparameters
  refine ⟨s, hs, m, ?_, hresponse.isType_iff.2 ?_, q, ?_,
    hparameter.isType_iff.2 ?_⟩
  · rw [hms]
    exact List.mem_cons_self
  · rintro ⟨ref, href, -⟩
    cases href
  · rw [hqs]
    exact List.mem_cons_self
  · have hleft : Text.undelimited "pet-tag" ≠ arrayMark.toList := by
      decide
    rintro (hvanishes | hmark | ⟨harray, -⟩)
    · exact absurd hvanishes.2 (by decide)
    · exact hleft hmark
    · exact absurd harray (by decide)

/-- A slot may be without an output type: that of a parameter whose declared
type is a dash. -/
theorem exists_without_type :
    ¬ ∀ (document : Fields) (onServer : Bool) (s : Service),
      (build (.map document) onServer).outcome = .ok s →
      (∀ m ∈ s.methods, IsType (.str m.response) ∧
        ∀ q ∈ m.parameters, IsType (.str q.typescriptType)) ∧
      ∀ d ∈ s.definitions, ∀ q ∈ d.properties ++ d.refs,
        IsType q.typescriptType := by
  intro h
  obtain ⟨hmethods, -⟩ := h (typed (.str "-")) false _ rfl
  obtain ⟨-, hparameters⟩ := hmethods _ List.mem_cons_self
  obtain ⟨hempty, -⟩ := isType_str.1 (hparameters _ List.mem_cons_self)
  exact hempty (by decide)

end Service

end ClientGen
