import ClientGen.Proofs.Service

/-!
# What a document must have

Most of what is malformed in a document has a fallback. Exactly three things
have none: the path of an operation that is no text, media types of an
operation that cannot be looked through, and schemes that have no first one.
`build_outcome_iff` says so in both directions, and which fault each of them
is. Operations come before the schemes, so a fault of the schemes is only seen
if all operations can be read.
-/

namespace ClientGen

open Traced

namespace Value

/-- The values that have elements to look through. -/
def IsIterable : Value → Prop
  | .str _ | .bytes _ | .list _ | .pair _ _ | .map _ | .set _ => True
  | _ => False

/-- The values that have a first element, if they are not empty: of a mapping
it is what the key zero leads to. -/
def HasFirst : Value → Prop
  | .str _ | .bytes _ | .list _ | .pair _ _ => True
  | .map entries => ∃ e ∈ entries, e.1.same (.int 0) = true
  | _ => False

theorem elements?_eq_none_iff {v : Value} :
    v.elements? = none ↔ ¬ v.IsIterable := by
  cases v <;> simp [elements?, IsIterable]

end Value

namespace Fields

/-- A key is found exactly if an entry has it. -/
theorem exists_find?_iff {fields : Fields} {key : Value} :
    (∃ v, fields.find? key = some v) ↔ ∃ e ∈ fields, e.1.same key = true := by
  induction fields with
  | nil => simp [find?]
  | cons e rest ih =>
    obtain ⟨k, v⟩ := e
    cases hkey : k.same key with
    | true => simp [find?, hkey]
    | false => simp [find?, hkey, ih]

end Fields

/-! ### Operations -/

namespace Response

/-- The media types that an operation produces, or else those of the
document. -/
def mediaOf (document operation : Fields) : Value :=
  (operation.get "produces").orElse (document.get "produces")

/-- Whether an operation answers with JSON is known if its media types are
empty or can be looked through. -/
theorem isJson_eq (document operation : Fields) :
    isJson operation (.map document) =
      if (mediaOf document operation).truthy then
        match (mediaOf document operation).elements? with
        | some elements => .ok (elements.any isJsonMedia)
        | none => .error .notIterable
      else .ok false := by
  have hproduced : produced operation (.map document) =
      .ok (mediaOf document operation) := by
    rw [produced, mediaOf, Value.orElse]
    cases (operation.get "produces").truthy with
    | false => rfl
    | true => rfl
  rw [isJson, hproduced]
  rfl

end Response

namespace Operation

/-- An operation can be read: its path is a text, and its media types are
empty or can be looked through. -/
structure Readable (document : Fields) (o : Operation) : Prop where
  path : ∃ p, o.path = .str p
  media : (Response.mediaOf document o.fields).truthy = true →
    (Response.mediaOf document o.fields).IsIterable

/-- An operation whose verb is a text becomes a method exactly if it can be
read. -/
theorem exists_build_outcome_iff {document : Fields} {onServer : Bool}
    {o : Operation} (hverb : ∃ verb, o.verb = .str verb) :
    (∃ m, (o.build document onServer).outcome = .ok m) ↔
      o.Readable document := by
  obtain ⟨verb, hverb⟩ := hverb
  constructor
  · rintro ⟨m, hm⟩
    obtain ⟨path, -, isJson, hpath, -, hjson, -⟩ := build_outcome_eq_ok.1 hm
    refine ⟨⟨path, hpath⟩, fun htruthy => ?_⟩
    by_contra hiterable
    rw [Response.isJson_eq, if_pos htruthy,
      Value.elements?_eq_none_iff.2 hiterable] at hjson
    cases hjson
  · rintro ⟨⟨path, hpath⟩, hmedia⟩
    obtain ⟨isJson, hjson⟩ : ∃ isJson,
        Response.isJson o.fields (.map document) = .ok isJson := by
      rw [Response.isJson_eq]
      cases htruthy : (Response.mediaOf document o.fields).truthy with
      | false => exact ⟨false, rfl⟩
      | true =>
        cases helements : (Response.mediaOf document o.fields).elements? with
        | none => exact absurd (hmedia htruthy) (Value.elements?_eq_none_iff.1 helements)
        | some elements => exact ⟨_, rfl⟩
    exact ⟨_, build_outcome_eq_ok.2
      ⟨path, verb, isJson, hpath, hverb, hjson, rfl⟩⟩

/-- An operation whose verb is a text has one of two faults, if any. -/
theorem fault_of_build {document : Fields} {onServer : Bool} {o : Operation}
    (hverb : ∃ verb, o.verb = .str verb) {e : Fault}
    (h : (o.build document onServer).outcome = .error e) :
    e = .notSearchable ∨ e = .notIterable := by
  obtain ⟨verb, hverb⟩ := hverb
  rcases o.path.text_or_none with ⟨path, hpath⟩ | hpath
  · right
    rw [build_eq document onServer o hpath hverb, Response.isJson_eq] at h
    split at h
    · split at h
      · cases h
      · cases h
        rfl
    · cases h
  · left
    rw [build_of_path document onServer o hverb hpath] at h
    cases h
    rfl

private theorem verb_of_mem_all {document : Fields} {o : Operation}
    (h : o ∈ all document) : ∃ verb, o.verb = .str verb := by
  obtain ⟨-, verb, -, -, hverb, -, -⟩ := mem_all_iff.1 h
  exact ⟨verb, hverb⟩

/-- The operations of a document become methods exactly if each of them can be
read. -/
theorem exists_buildAll_outcome_iff (document : Fields) (onServer : Bool) :
    (∃ ms, (Method.buildAll (.map document) onServer).outcome = .ok ms) ↔
      ∀ o ∈ all document, o.Readable document := by
  rw [(buildAll_agree document onServer).outcome,
    exists_collect_outcome_eq_ok_iff, List.forall_mem_map]
  refine forall₂_congr fun o ho => ?_
  exact exists_build_outcome_iff (verb_of_mem_all ho)

/-- The operations of a document have one of two faults, if any. -/
theorem fault_of_buildAll {document : Fields} {onServer : Bool} {e : Fault}
    (h : (Method.buildAll (.map document) onServer).outcome = .error e) :
    e = .notSearchable ∨ e = .notIterable := by
  rw [(buildAll_agree document onServer).outcome] at h
  obtain ⟨before, x, after, hlist, -, hx⟩ := collect_outcome_eq_error h
  have hmem : x ∈ (all document).map (build document onServer) := by
    rw [hlist]
    exact List.mem_append_right _ List.mem_cons_self
  obtain ⟨o, ho, rfl⟩ := List.mem_map.1 hmem
  exact fault_of_build (verb_of_mem_all ho) hx

end Operation

namespace Service

/-! ### Schemes -/

/-- A value that is not empty has a first element, or is a mapping without the
key zero, or cannot be indexed at all. -/
private theorem firstOf_eq {v : Value} (htruthy : v.truthy = true) :
    (v.HasFirst ∧ ∃ w, firstOf v = .ok w) ∨
      (¬ v.HasFirst ∧ (∃ entries, v = .map entries) ∧
        firstOf v = .error .noSuchKey) ∨
      (¬ v.HasFirst ∧ (¬ ∃ entries, v = .map entries) ∧
        firstOf v = .error .notIndexable) := by
  cases v with
  | map entries =>
    have hfind : (∃ w, Fields.find? entries (.int 0) = some w) ↔
        (Value.map entries).HasFirst := Fields.exists_find?_iff
    cases hzero : Fields.find? entries (.int 0) with
    | some w =>
      rw [hzero] at hfind
      left
      exact ⟨hfind.1 ⟨w, rfl⟩, w, by simp [firstOf, hzero]⟩
    | none =>
      rw [hzero] at hfind
      right; left
      refine ⟨fun hfirst => ?_, ⟨entries, rfl⟩, by simp [firstOf, hzero]⟩
      obtain ⟨w, hw⟩ := hfind.2 hfirst
      cases hw
  | str s =>
    left
    have hne : s.toList ≠ [] := by
      simpa [Value.truthy] using htruthy
    obtain ⟨c, rest, hchars⟩ := List.exists_cons_of_ne_nil hne
    exact ⟨trivial, .str (String.singleton c), by
      simp [firstOf, Value.elements?, hchars]⟩
  | bytes data =>
    left
    cases data with
    | nil => cases htruthy
    | cons b rest => exact ⟨trivial, .int b.toNat, rfl⟩
  | list items =>
    left
    cases items with
    | nil => cases htruthy
    | cons w rest => exact ⟨trivial, w, rfl⟩
  | pair k w =>
    left
    exact ⟨trivial, k, rfl⟩
  | _ =>
    right; right
    refine ⟨fun h => h, ?_, rfl⟩
    rintro ⟨entries, h⟩
    cases h

/-- Schemes that are empty say nothing, and all others have a first one. -/
def SchemesReadable (document : Fields) : Prop :=
  (document.get "schemes").truthy = true → (document.get "schemes").HasFirst

/-- The schemes of a document are a mapping. -/
def SchemesMapped (document : Fields) : Prop :=
  ∃ entries, document.get "schemes" = .map entries

/-- The address of a document hangs on its schemes only. -/
private theorem domainOf_cases (document : Fields) :
    (SchemesReadable document ∧ ∃ domain, domainOf document = .ok domain) ∨
      (¬ SchemesReadable document ∧ SchemesMapped document ∧
        domainOf document = .error .noSuchKey) ∨
      (¬ SchemesReadable document ∧ ¬ SchemesMapped document ∧
        domainOf document = .error .notIndexable) := by
  unfold SchemesReadable SchemesMapped
  cases htruthy : (document.get "schemes").truthy with
  | false =>
    left
    refine ⟨fun h => absurd h (by decide), ?_⟩
    simp only [domainOf, htruthy]
    exact ⟨_, rfl⟩
  | true =>
    rcases firstOf_eq htruthy with ⟨hfirst, w, hw⟩ | ⟨hfirst, hmap, he⟩ |
      ⟨hfirst, hmap, he⟩
    · left
      refine ⟨fun _ => hfirst, ?_⟩
      simp only [domainOf, htruthy, hw]
      exact ⟨_, rfl⟩
    · right; left
      refine ⟨fun h => hfirst (h rfl), hmap, ?_⟩
      simp only [domainOf, htruthy, he]
      rfl
    · right; right
      refine ⟨fun h => hfirst (h rfl), hmap, ?_⟩
      simp only [domainOf, htruthy, he]
      rfl

/-! ### What a document must have -/

/-- All operations of a document can be read: wherever a mapping stands under a
verb in the mapping of a path, the path is a text and the media types of the
operation, or else of the document, are empty or can be looked through. -/
def OperationsReadable (document : Fields) : Prop :=
  ∀ path item verb operation,
    (path, .map item) ∈ Method.pathsOf document →
    (.str verb, .map operation) ∈ item →
    Text.upper verb ∈ Method.verbs →
    (∃ p, path = .str p) ∧
      ((Response.mediaOf document operation).truthy = true →
        (Response.mediaOf document operation).IsIterable)

theorem operationsReadable_iff {document : Fields} :
    OperationsReadable document ↔
      ∀ o ∈ Operation.all document, o.Readable document := by
  constructor
  · intro h o ho
    obtain ⟨item, verb, hpath, hentry, hverb, hmem, -⟩ :=
      Operation.mem_all_iff.1 ho
    rw [hverb] at hentry
    obtain ⟨htext, hmedia⟩ := h o.path item verb o.fields hpath hentry hmem
    exact ⟨htext, hmedia⟩
  · intro h path item verb operation hpath hentry hmem
    have hall : (⟨path, .str verb, operation, Method.sharedOf item⟩ : Operation) ∈
        Operation.all document :=
      Operation.mem_all_iff.2 ⟨item, verb, hpath, hentry, rfl, hmem, rfl⟩
    exact ⟨(h _ hall).path, (h _ hall).media⟩

/-- How the building of a service ends: the operations decide first, then the
schemes. -/
private theorem build_cases (document : Fields) (onServer : Bool) :
    (OperationsReadable document ∧ SchemesReadable document ∧
        ∃ s, (build (.map document) onServer).outcome = .ok s) ∨
      (¬ OperationsReadable document ∧
        ((build (.map document) onServer).outcome = .error .notSearchable ∨
          (build (.map document) onServer).outcome = .error .notIterable)) ∨
      (OperationsReadable document ∧ ¬ SchemesReadable document ∧
        SchemesMapped document ∧
        (build (.map document) onServer).outcome = .error .noSuchKey) ∨
      (OperationsReadable document ∧ ¬ SchemesReadable document ∧
        ¬ SchemesMapped document ∧
        (build (.map document) onServer).outcome = .error .notIndexable) := by
  have hoperations := operationsReadable_iff.trans
    (Operation.exists_buildAll_outcome_iff document onServer).symm
  rw [build_outcome]
  cases hmethods : (Method.buildAll (.map document) onServer).outcome with
  | error e =>
    right; left
    refine ⟨fun h => ?_, ?_⟩
    · obtain ⟨ms, hms⟩ := hoperations.1 h
      rw [hmethods] at hms
      cases hms
    · rcases Operation.fault_of_buildAll hmethods with rfl | rfl
      · exact Or.inl rfl
      · exact Or.inr rfl
  | ok ms =>
    have hreadable := hoperations.2 ⟨ms, hmethods⟩
    rcases domainOf_cases document with ⟨hschemes, domain, hdomain⟩ |
      ⟨hschemes, hmapped, hdomain⟩ | ⟨hschemes, hmapped, hdomain⟩
    · left
      refine ⟨hreadable, hschemes, of document onServer ms domain, ?_⟩
      rw [hdomain]
      rfl
    · right; right; left
      refine ⟨hreadable, hschemes, hmapped, ?_⟩
      rw [hdomain]
      rfl
    · right; right; right
      refine ⟨hreadable, hschemes, hmapped, ?_⟩
      rw [hdomain]
      rfl

/-- **What a document must have.** A service is built exactly if all operations
can be read and the schemes have a first one. If an operation cannot be read,
or only the schemes cannot and are no mapping, a value is of a kind that the
work does not allow; if only the schemes cannot be read and are a mapping, the
key zero is missing. -/
theorem build_outcome_iff (document : Fields) (onServer : Bool) :
    ((∃ s, (build (.map document) onServer).outcome = .ok s) ↔
      OperationsReadable document ∧ SchemesReadable document) ∧
    (((build (.map document) onServer).outcome = .error .notSearchable ∨
        (build (.map document) onServer).outcome = .error .notIterable) ↔
      ¬ OperationsReadable document) ∧
    ((build (.map document) onServer).outcome = .error .notIndexable ↔
      OperationsReadable document ∧ ¬ SchemesReadable document ∧
        ¬ SchemesMapped document) ∧
    ((build (.map document) onServer).outcome = .error .noSuchKey ↔
      OperationsReadable document ∧ ¬ SchemesReadable document ∧
        SchemesMapped document) := by
  rcases build_cases document onServer with ⟨ho, hs, s, hs'⟩ | ⟨ho, he | he⟩ |
    ⟨ho, hs, hm, he⟩ | ⟨ho, hs, hm, he⟩
  · simp [ho, hs, hs']
  · simp [ho, he]
  · simp [ho, he]
  · simp [ho, hs, hm, he]
  · simp [ho, hs, hm, he]

end Service

end ClientGen
