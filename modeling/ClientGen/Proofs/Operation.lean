import ClientGen.Proofs.Parameter
import ClientGen.Proofs.Value
import ClientGen.Method

/-!
# The operations of a document

The methods of a document are read path by path and key by key. Here the
operations are laid out as one list, in document order (`Operation.all`), and
reading the document is shown to agree with reading the operations of this list
one after another (`buildAll_agree`). What one operation yields is stated once
(`build_outcome_eq_ok`, `events_build`), and so is what all of them leave in a
table (`tableAfter_buildAll`).
-/

namespace ClientGen

open Traced

/-- An operation of a document, with the place where it stands. -/
structure Operation where
  path : Value
  verb : Value
  fields : Fields
  /-- The parameters that its path shares among its operations. -/
  shared : List Value

namespace Operation

/-- The operation that an entry of a path is, if its key is a verb. -/
def atKey? (path : Value) (shared : List Value) (entry : Value × Value) :
    Option Operation :=
  if Method.isVerb entry.1 then
    entry.2.fields?.map fun fields => ⟨path, entry.1, fields, shared⟩
  else none

/-- The operations of a path and its item. -/
def ofPath (entry : Value × Value) : List Operation :=
  let entries := entry.2.fields?.getD []
  entries.filterMap (atKey? entry.1 (Method.sharedOf entries))

/-- All operations of a document, in its order. -/
def all (document : Fields) : List Operation :=
  (Method.pathsOf document).flatMap ofPath

/-- The operations of a document are the mappings under the verbs of its
paths. -/
theorem mem_all_iff {document : Fields} {o : Operation} :
    o ∈ all document ↔ ∃ item verb,
      (o.path, .map item) ∈ Method.pathsOf document ∧
      (o.verb, .map o.fields) ∈ item ∧ o.verb = .str verb ∧
      Text.upper verb ∈ Method.verbs ∧ o.shared = Method.sharedOf item := by
  have hverb : ∀ key, Method.isVerb key = true ↔
      ∃ verb, key = .str verb ∧ Text.upper verb ∈ Method.verbs := by
    intro key
    cases key <;> simp [Method.isVerb]
  constructor
  · intro ho
    obtain ⟨⟨path, item⟩, hpath, ho⟩ := List.mem_flatMap.1 ho
    obtain ⟨⟨key, v⟩, hentry, hkey⟩ := List.mem_filterMap.1 ho
    unfold atKey? at hkey
    split at hkey
    · next hisVerb =>
      obtain ⟨fields, hfields, rfl⟩ := Option.map_eq_some_iff.1 hkey
      obtain ⟨verb, rfl, hmem⟩ := (hverb _).1 hisVerb
      cases v with
      | map fields' =>
        cases hfields
        cases item with
        | map entries => exact ⟨entries, verb, hpath, hentry, rfl, hmem, rfl⟩
        | _ => cases hentry
      | _ => cases hfields
    · cases hkey
  · rintro ⟨item, verb, hpath, hentry, hstr, hmem, hshared⟩
    refine List.mem_flatMap.2 ⟨_, hpath, List.mem_filterMap.2 ⟨_, hentry, ?_⟩⟩
    have hisVerb := (hverb o.verb).2 ⟨verb, hstr, hmem⟩
    have hitem : (Value.map item).fields?.getD [] = item := rfl
    rw [atKey?, if_pos hisVerb, hitem, ← hshared]
    rfl

/-- The parameters of an operation, its own ones before the shared ones. -/
def listed (o : Operation) : List Value := Parameter.listed o.fields o.shared

/-- The mappings among the parameters that become arguments. -/
def kept (onServer : Bool) (o : Operation) : List Fields :=
  Parameter.kept onServer o.listed

/-- The enumerations that the parameters of a document promote, in its
order. -/
def promotions (onServer : Bool) (document : Fields) : List Enumeration :=
  (all document).flatMap fun o => Parameter.promotions (o.kept onServer)

/-- Reads one operation of a document. -/
def build (document : Fields) (onServer : Bool) (o : Operation) :
    Traced Method :=
  Method.build (.map document) o.path o.verb (.map o.fields) (.list o.shared)
    onServer

/-! ### One operation -/

/-- The method of an operation whose path and verb are texts. -/
def methodOf (document : Fields) (onServer : Bool) (o : Operation)
    (path verb : String) (isJson : Bool) : Method where
  path := path
  markedPath := UrlTemplate.marked path
  name := (MethodName.explicit? o.fields).getD (.str (MethodName.ofPath verb path))
  verb := Text.upper verb
  call := Text.lower verb
  summary := Method.summaryOf o.fields
  isSecure := document.has "security" || o.fields.has "security"
  parameters := Parameter.readAll onServer o.listed
  isJson := isJson
  response := Response.typeOf o.fields

private theorem resolve_str (verb path : String) (fields : Fields) :
    MethodName.resolve (.str verb) (.str path) fields =
      .ok ((MethodName.explicit? fields).getD
        (.str (MethodName.ofPath verb path))) := by
  rw [MethodName.resolve]
  cases MethodName.explicit? fields with
  | none => rfl
  | some v => rfl

private theorem securedBy_map (document fields : Fields) :
    Method.securedBy (.map document) fields =
      .ok (document.has "security" || fields.has "security") := by
  have hmentions : Method.mentions (.map document) "security" =
      .ok (document.has "security") := rfl
  rw [Method.securedBy, hmentions]
  cases document.has "security" with
  | false => rfl
  | true => rfl

/-- Reading an operation whose path and verb are texts. -/
theorem build_eq (document : Fields) (onServer : Bool) (o : Operation)
    {path verb : String} (hpath : o.path = .str path)
    (hverb : o.verb = .str verb) :
    o.build document onServer =
      ⟨Parameter.events onServer o.listed,
        (Response.isJson o.fields (.map document)).map
          (o.methodOf document onServer path verb)⟩ := by
  obtain ⟨path', verb', fields, shared⟩ := o
  change path' = _ at hpath
  change verb' = _ at hverb
  subst hpath hverb
  have hparameters : Parameter.buildAll (.map fields) (.list shared) onServer =
      ⟨Parameter.events onServer (Parameter.listed fields shared),
        .ok (Parameter.readAll onServer (Parameter.listed fields shared))⟩ := rfl
  have hfields : (Value.map fields).fields?.getD [] = fields := rfl
  simp only [build, Method.build, listed, hparameters, hfields, resolve_str,
    securedBy_map, Traced.ofExcept, Traced.pure, bind_ok, List.nil_append]
  cases Response.isJson fields (.map document) with
  | error e => simp [Except.map]
  | ok isJson => simp [Except.map, methodOf, listed]

/-- A verb that is no text is a fault at once. -/
theorem build_of_verb (document : Fields) (onServer : Bool) (o : Operation)
    (hverb : o.verb.text? = none) :
    o.build document onServer = ⟨[], .error .notText⟩ := by
  obtain ⟨path, verb, fields, shared⟩ := o
  cases verb with
  | str v => cases hverb
  | _ => rfl

/-- A path that is no text is a fault once the parameters are read. -/
theorem build_of_path (document : Fields) (onServer : Bool) (o : Operation)
    {verb : String} (hverb : o.verb = .str verb) (hpath : o.path.text? = none) :
    o.build document onServer =
      ⟨Parameter.events onServer o.listed, .error .notSearchable⟩ := by
  obtain ⟨path, verb', fields, shared⟩ := o
  change verb' = _ at hverb
  subst hverb
  cases path with
  | str p => cases hpath
  | _ => exact congrArg (Traced.mk · _) (List.append_nil _)

/-- An operation becomes a method exactly if its path and verb are texts and
the media types that it produces can be looked through. -/
theorem build_outcome_eq_ok {document : Fields} {onServer : Bool}
    {o : Operation} {m : Method} :
    (o.build document onServer).outcome = .ok m ↔
      ∃ path verb isJson, o.path = .str path ∧ o.verb = .str verb ∧
        Response.isJson o.fields (.map document) = .ok isJson ∧
        m = o.methodOf document onServer path verb isJson := by
  constructor
  · intro h
    rcases o.verb.text_or_none with ⟨verb, hverb⟩ | hverb
    · rcases o.path.text_or_none with ⟨path, hpath⟩ | hpath
      · rw [build_eq document onServer o hpath hverb] at h
        cases hjson : Response.isJson o.fields (.map document) with
        | error e => simp [hjson, Except.map] at h
        | ok isJson =>
          rw [hjson] at h
          cases h
          exact ⟨path, verb, isJson, hpath, hverb, rfl, rfl⟩
      · rw [build_of_path document onServer o hverb hpath] at h
        cases h
    · rw [build_of_verb document onServer o hverb] at h
      cases h
  · rintro ⟨path, verb, isJson, hpath, hverb, hjson, rfl⟩
    rw [build_eq document onServer o hpath hverb, hjson]
    rfl

/-- What happens while an operation becomes a method. -/
theorem events_build {document : Fields} {onServer : Bool} {o : Operation}
    {m : Method} (h : (o.build document onServer).outcome = .ok m) :
    (o.build document onServer).events = Parameter.events onServer o.listed := by
  obtain ⟨path, verb, isJson, hpath, hverb, -, -⟩ := build_outcome_eq_ok.1 h
  rw [build_eq document onServer o hpath hverb]

/-! ### All operations -/

/-- A key of a path agrees with the operation that it is, if it is one. -/
private theorem atKey_agree (document : Fields) (path : Value)
    (shared : List Value) (onServer : Bool) (entry : Value × Value) :
    Agree (Method.ofEntry (.map document) path shared onServer entry.1 entry.2)
      (collect ((atKey? path shared entry).toList.map
        (build document onServer))) := by
  obtain ⟨key, value⟩ := entry
  cases hverb : Method.isVerb key with
  | false =>
    -- A key that is passed over leaves a trace in the log only.
    cases hword : key.isText "parameters" with
    | true =>
      simp only [Method.ofEntry, atKey?, hverb, hword]
      exact Agree.refl _
    | false =>
      simp only [Method.ofEntry, atKey?, hverb, hword]
      exact ⟨rfl, fun _ => rfl⟩
  | true =>
    cases value with
    | map fields =>
      simp only [Method.ofEntry, atKey?, hverb]
      exact Agree.refl _
    | _ =>
      simp only [Method.ofEntry, atKey?, hverb]
      exact Agree.refl _

/-- A path agrees with its operations, one after another. -/
private theorem ofPath_agree (document : Fields) (onServer : Bool)
    (entry : Value × Value) :
    Agree (Method.ofPath (.map document) entry.1 entry.2 onServer)
      (collect ((ofPath entry).map (build document onServer))) := by
  obtain ⟨path, item⟩ := entry
  cases item with
  | map entries =>
    have hflat := Agree.collect_flatten entries fun e _ =>
      atKey_agree document path (Method.sharedOf entries) onServer e
    have hlist : (entries.flatMap fun e =>
        ((atKey? path (Method.sharedOf entries) e).toList.map
          (build document onServer))) =
        (ofPath (path, .map entries)).map (build document onServer) := by
      rw [← List.map_flatMap, ← List.filterMap_eq_flatMap_toList]
      rfl
    rw [← hlist]
    exact hflat
  | _ => exact Agree.refl _

/-- Reading a document agrees with reading its operations one after
another. -/
theorem buildAll_agree (document : Fields) (onServer : Bool) :
    Agree (Method.buildAll (.map document) onServer)
      (collect ((all document).map (build document onServer))) := by
  have hflat := Agree.collect_flatten (Method.pathsOf document)
    fun e _ => ofPath_agree document onServer e
  rw [all, List.map_flatMap]
  exact hflat

/-- A document that is read yields one method for each operation, in order. -/
theorem forall₂_buildAll {document : Fields} {onServer : Bool}
    {ms : List Method}
    (h : (Method.buildAll (.map document) onServer).outcome = .ok ms) :
    List.Forall₂ (fun o m => (o.build document onServer).outcome = .ok m)
      (all document) ms := by
  rw [(buildAll_agree document onServer).outcome, collect_outcome_eq_ok] at h
  rwa [List.forall₂_map_left_iff] at h

/-- The methods of a document that is read, each with its operation. -/
theorem forall₂_methodOf {document : Fields} {onServer : Bool}
    {ms : List Method}
    (h : (Method.buildAll (.map document) onServer).outcome = .ok ms) :
    List.Forall₂
      (fun o m => o ∈ all document ∧ ∃ path verb isJson,
        o.path = .str path ∧ o.verb = .str verb ∧
        Response.isJson o.fields (.map document) = .ok isJson ∧
        m = o.methodOf document onServer path verb isJson)
      (all document) ms := by
  have hbuilt := (forall₂_buildAll h).imp fun _ _ => build_outcome_eq_ok.1
  exact (List.forall₂_and_left _ _).2 ⟨fun _ ho => ho, hbuilt⟩

/-- Operations that are all read register what their parameters promote, in
order. -/
private theorem applyAll_events_build {document : Fields} {onServer : Bool}
    {os : List Operation} {ms : List Method}
    (h : List.Forall₂ (fun o m => (o.build document onServer).outcome = .ok m)
      os ms) (t : EnumTable) :
    t.applyAll (os.flatMap fun o => (o.build document onServer).events) =
      t.registerAll (os.flatMap fun o =>
        Parameter.promotions (o.kept onServer)) := by
  induction h generalizing t with
  | nil => rfl
  | cons hm _ ih =>
    rw [List.flatMap_cons, List.flatMap_cons, EnumTable.applyAll_append,
      events_build hm, Parameter.applyAll_events, ih,
      EnumTable.registerAll_append]
    rfl

/-- A document that is read leaves in a table what its parameters promote. -/
theorem tableAfter_buildAll {document : Fields} {onServer : Bool}
    {ms : List Method}
    (h : (Method.buildAll (.map document) onServer).outcome = .ok ms)
    (t : EnumTable) :
    (Method.buildAll (.map document) onServer).tableAfter t =
      t.registerAll (promotions onServer document) := by
  have hagree := buildAll_agree document onServer
  have hcollect := hagree.outcome.symm.trans h
  rw [hagree.table, tableAfter, events_collect hcollect, List.flatMap_map]
  exact applyAll_events_build (forall₂_buildAll h) t

end Operation

end ClientGen
