import ClientGen.Proofs.DefinitionRecord
import ClientGen.Proofs.ParameterList
import ClientGen.Proofs.Service

/-!
# Documents read with the table in hand

A `Traced` step keeps its events apart from what comes of it, so its result has
no table to depend on. Here a document is read with a table in hand instead,
which each part meets as the parts before have left it. A walk goes through the
paths and their keys; each operation hands the table to the reading of its
parameters, and what these leave stays in the table even if a fault follows.
The definitions take the table over from the methods, draft by draft.

A walk follows a step if it ends alike and has the table that the events of the
step leave (`Walk.Follows`). One operation more keeps that
(`Walk.Follows.call`), and so do an entry, a path and all paths
(`Walk.follows_through`). So the methods are the same whatever the table is
(`Walk.outcome_through`), and a document that is read with one table in hand
becomes the service that it becomes step by step
(`Service.build_eq_buildInHand`).
-/

namespace ClientGen

/-! ### Steps that yield lists -/

namespace Traced

variable {α : Type}

/-- What two steps yield, one after the other. -/
def append (x y : Traced (List α)) : Traced (List α) :=
  x >>= fun as => y >>= fun bs => Pure.pure (as ++ bs)

/-- What steps yield, one after another. -/
def flatten (xs : List (Traced (List α))) : Traced (List α) :=
  collect xs >>= fun ass => Pure.pure ass.flatten

/-- Parts without events may be composed before they become a step. -/
theorem ofExcept_bind {β : Type} (r : Except Fault α) (f : α → Except Fault β) :
    (ofExcept r >>= fun a => ofExcept (f a)) = ofExcept (r >>= f) := by
  cases r <;> rfl

theorem append_flatten_nil (x : Traced (List α)) : x.append (flatten []) = x := by
  have hnil : flatten ([] : List (Traced (List α))) = Pure.pure [] := rfl
  simp only [append, hnil, pure_bind, List.append_nil, bind_pure]

theorem flatten_nil_append (x : Traced (List α)) : (flatten []).append x = x := by
  have hnil : flatten ([] : List (Traced (List α))) = Pure.pure [] := rfl
  simp only [append, hnil, pure_bind, List.nil_append, bind_pure]

theorem append_flatten_cons (x y : Traced (List α)) (ys : List (Traced (List α))) :
    x.append (flatten (y :: ys)) = (x.append y).append (flatten ys) := by
  simp only [append, flatten, collect_cons, bind_assoc, pure_bind,
    List.flatten_cons, List.append_assoc]

end Traced

/-! ### Methods -/

namespace Method

open Traced

/-- The method of an operation whose parameters have been read. -/
def ofParameters (document : Fields) (path : Value) (verb : String)
    (operation : Fields) (parameters : List Parameter) : Except Fault Method := do
  let path ← match path with
    | .str p => .ok p
    | _ => .error .notSearchable
  let name ← MethodName.resolve (.str verb) (.str path) operation
  let isSecure ← securedBy (.map document) operation
  let isJson ← Response.isJson operation (.map document)
  return {
    path
    markedPath := UrlTemplate.marked path
    name
    verb := Text.upper verb
    call := Text.lower verb
    summary := summaryOf operation
    isSecure
    parameters
    isJson
    response := Response.typeOf operation }

/-- The methods that have been read, the table at that point, and the fault
that has ended the reading if there is one. -/
structure Walk where
  methods : List Method
  table : EnumTable
  fault : Option Fault
  deriving Inhabited, Repr

namespace Walk

/-- Nothing has been read yet. -/
def start (t : EnumTable) : Walk := ⟨[], t, none⟩

/-- Where a walk ends: with its methods, or with its fault. -/
def outcome (s : Walk) : Except Fault (List Method) :=
  match s.fault with
  | none => .ok s.methods
  | some e => .error e

section Steps

variable (document : Fields) (onServer : Bool) (path : Value)
  (shared : List Value)

/-- Reads an operation. Its parameters go through the table before anything
else of it is looked at. -/
def call (s : Walk) (verb : String) (operation : Fields) : Walk :=
  let reading := Parameter.Reading.ofLists onServer s.table
    (operation.get "parameters") shared
  match ofParameters document path verb operation reading.finish with
  | .ok m => { s with methods := s.methods ++ [m], table := reading.table }
  | .error e => { s with table := reading.table, fault := some e }

/-- Reads an entry of a path, which is an operation or is passed over. After a
fault nothing is read. -/
def take (s : Walk) (entry : Value × Value) : Walk :=
  if s.fault.isSome || !isVerb entry.1 then s
  else
    match entry.1, entry.2 with
    | .str verb, .map operation =>
      s.call document onServer path shared verb operation
    | _, _ => s

/-- Reads a path, entry by entry. -/
def takePath (s : Walk) (entry : Value × Value) : Walk :=
  match entry.2 with
  | .map item => item.foldl (take document onServer entry.1 (sharedOf item)) s
  | _ => s

/-- Reads all paths of a document, from a table on. -/
def through (t : EnumTable) : Walk :=
  (pathsOf document).foldl (takePath document onServer) (start t)

end Steps

/-- A walk from a table on ends like a step, and its table is the one that the
step leaves. -/
structure Follows (s : Walk) (x : Traced (List Method)) (t : EnumTable) :
    Prop where
  outcome : s.outcome = x.outcome
  table : s.table = x.tableAfter t

variable {document : Fields} {onServer : Bool} {s : Walk}
  {x : Traced (List Method)} {t : EnumTable}

theorem follows_start (t : EnumTable) : (start t).Follows (flatten []) t :=
  ⟨rfl, rfl⟩

/-- After a fault nothing more happens. -/
theorem Follows.of_fault (h : s.Follows x t) (hfault : s.fault.isSome = true)
    (y : Traced (List Method)) : s.Follows (x.append y) t := by
  obtain ⟨e, he⟩ := Option.isSome_iff_exists.1 hfault
  obtain ⟨events, outcome⟩ := x
  obtain ⟨houtcome, htable⟩ := h
  have herror : s.outcome = .error e := by simp only [Walk.outcome, he]
  change s.outcome = outcome at houtcome
  obtain rfl := houtcome.symm.trans herror
  exact ⟨herror, htable⟩

/-- A step without methods may be passed over if it leaves the table alone. -/
theorem Follows.pass (h : s.Follows x t) {y : Traced (List Method)}
    (hy : y.outcome = .ok []) (htable : ∀ t, y.tableAfter t = t) :
    s.Follows (x.append y) t := by
  obtain ⟨events, outcome⟩ := x
  obtain ⟨events', outcome'⟩ := y
  obtain rfl : outcome' = .ok [] := hy
  cases outcome with
  | error e => exact h
  | ok ms =>
    refine ⟨?_, ?_⟩
    · simpa [Traced.append] using h.outcome
    · have hkeep : (t.applyAll events).applyAll events' = t.applyAll events :=
        htable _
      simpa [Traced.append, Traced.tableAfter, hkeep] using h.table

/-- An operation is read in the same way once its parameters are. -/
theorem build_eq_ofParameters (document : Fields) (path : Value) (verb : String)
    (operation : Fields) (shared : List Value) (onServer : Bool) :
    build (.map document) path (.str verb) (.map operation) (.list shared)
        onServer =
      ⟨Parameter.events onServer (Parameter.listed operation shared),
        ofParameters document path verb operation
          (Parameter.readAll onServer (Parameter.listed operation shared))⟩ := by
  have hparts : build (.map document) path (.str verb) (.map operation)
      (.list shared) onServer =
        (Parameter.buildAll (.map operation) (.list shared) onServer >>= fun ps =>
          ofExcept (ofParameters document path verb operation ps)) := by
    cases path with
    | str path => simp only [ofParameters, ← ofExcept_bind]; rfl
    | _ => rfl
  rw [hparts]
  exact congrArg (Traced.mk · _) (List.append_nil _)

/-- One operation more. -/
theorem Follows.call (h : s.Follows x t) (hfault : s.fault = none)
    (path : Value) (shared : List Value) (verb : String) (operation : Fields) :
    (s.call document onServer path shared verb operation).Follows
      (x.append (build (.map document) path (.str verb) (.map operation)
        (.list shared) onServer >>= fun m => Pure.pure [m])) t := by
  have hreading := Parameter.Reading.holds_ofLists onServer s.table operation shared
  have hrecords : (Parameter.Reading.ofLists onServer s.table
      (operation.get "parameters") shared).finish =
        Parameter.readAll onServer (Parameter.listed operation shared) := by
    rw [Parameter.Reading.finish_eq, hreading.records]
    rfl
  have htable : (Parameter.Reading.ofLists onServer s.table
      (operation.get "parameters") shared).table =
        (x.tableAfter t).applyAll
          (Parameter.events onServer (Parameter.listed operation shared)) := by
    rw [hreading.table, h.table, Parameter.applyAll_events]
  obtain ⟨events, outcome⟩ := x
  obtain rfl : outcome = .ok s.methods := by
    have houtcome : s.outcome = .ok s.methods := by simp only [Walk.outcome, hfault]
    exact h.outcome.symm.trans houtcome
  rw [build_eq_ofParameters, Walk.call, hrecords, htable]
  cases ofParameters document path verb operation
      (Parameter.readAll onServer (Parameter.listed operation shared)) with
  | error e => exact ⟨rfl, by simp [Traced.append, Traced.tableAfter]⟩
  | ok m =>
    refine ⟨?_, by simp [Traced.append, Traced.tableAfter]⟩
    simp [Traced.append, Walk.outcome, hfault]

/-- One entry of a path more. -/
theorem Follows.take (h : s.Follows x t) (path : Value) (shared : List Value)
    (entry : Value × Value) :
    (s.take document onServer path shared entry).Follows
      (x.append (ofEntry (.map document) path shared onServer entry.1 entry.2))
      t := by
  obtain ⟨key, operation⟩ := entry
  cases hended : s.fault.isSome with
  | true =>
    simp only [Walk.take, hended, Bool.true_or, if_true]
    exact h.of_fault hended _
  | false =>
    have hfault : s.fault = none := by simpa using hended
    cases hverb : isVerb key with
    | false =>
      -- A key that is no verb is told in the log at most.
      simp only [Walk.take, ofEntry, hverb, Bool.not_false, Bool.or_true, if_true]
      split
      · exact h.pass rfl fun _ => rfl
      · exact h.pass rfl fun _ => rfl
    | true =>
      simp only [Walk.take, ofEntry, hended, hverb, Bool.not_true, Bool.or_false,
        Bool.false_eq_true, if_false]
      cases key with
      | str verb =>
        cases operation with
        | map fields => exact h.call hfault path shared verb fields
        | _ => exact h.pass rfl fun _ => rfl
      | _ => cases hverb

/-- Entries in order. -/
theorem Follows.foldl {ι : Type} {take : Walk → ι → Walk}
    {step : ι → Traced (List Method)}
    (hone : ∀ {s x} (i : ι), s.Follows x t →
      (take s i).Follows (x.append (step i)) t)
    (h : s.Follows x t) (is : List ι) :
    (is.foldl take s).Follows (x.append (flatten (is.map step))) t := by
  induction is generalizing s x with
  | nil =>
    rw [List.map_nil, append_flatten_nil]
    exact h
  | cons i is ih =>
    rw [List.map_cons, append_flatten_cons]
    exact ih (hone i h)

/-- One path more. -/
theorem Follows.takePath (h : s.Follows x t) (entry : Value × Value) :
    (s.takePath document onServer entry).Follows
      (x.append (ofPath (.map document) entry.1 entry.2 onServer)) t := by
  obtain ⟨path, item⟩ := entry
  cases item with
  | map item =>
    exact Follows.foldl (fun entry h => h.take path (sharedOf item) entry) h item
  | _ => exact h.pass rfl fun _ => rfl

/-- A walk through a document follows the reading of its methods. -/
theorem follows_through (document : Fields) (onServer : Bool) (t : EnumTable) :
    (through document onServer t).Follows
      (buildAll (.map document) onServer) t := by
  have hpaths : buildAll (.map document) onServer =
      (flatten []).append (flatten ((pathsOf document).map fun entry =>
        ofPath (.map document) entry.1 entry.2 onServer)) := by
    rw [flatten_nil_append]
    rfl
  rw [hpaths]
  exact Follows.foldl (fun entry h => h.takePath entry) (follows_start t)
    (pathsOf document)

/-- The methods of a document are the same whatever the table is at first. -/
theorem outcome_through (document : Fields) (onServer : Bool) (t t' : EnumTable) :
    (through document onServer t).outcome =
      (through document onServer t').outcome :=
  (follows_through document onServer t).outcome.trans
    (follows_through document onServer t').outcome.symm

end Walk

end Method

/-! ### Definitions -/

namespace Definition

/-- The definition that a finished draft is. -/
def Draft.finish (s : Draft) (name : Value) (schema : Fields) : Definition where
  name := name.identifier?
  description := (schema.get? "description").getD (.str "")
  isLast := false
  enums := s.enums
  properties := s.properties
  refs := s.refs
  imports := s.imports.map (·.text)

/-- Drafted in any table, a definition is the same. -/
theorem finish_ofSchema (name : Value) (schema : Fields) (t : EnumTable) :
    (Draft.ofSchema schema t).finish name schema = read name schema := by
  have himports : ((read name schema).imports.map .str).map Value.text =
      (read name schema).imports := by
    rw [List.map_map]
    exact List.map_id' _
  rw [ofSchema_eq_read name schema t]
  unfold Draft.finish
  rw [himports]
  rfl

/-- The definitions that have been read, and the table at that point. -/
structure Walk where
  definitions : List Definition
  table : EnumTable
  deriving Inhabited, Repr

namespace Walk

/-- Reads one definition. -/
def take (s : Walk) (entry : Value × Value) : Walk :=
  let schema := entry.2.fields?.getD []
  let draft := Draft.ofSchema schema s.table
  ⟨s.definitions ++ [draft.finish entry.1 schema], draft.table⟩

/-- Reads all definitions of a document, from a table on. -/
def through (document : Fields) (t : EnumTable) : Walk :=
  (schemasOf document).foldl take ⟨[], t⟩

/-- What a walk holds that has gone through entries, from a table on. -/
structure Holds (s : Walk) (entries : List (Value × Value)) (t : EnumTable) :
    Prop where
  definitions : s.definitions =
    entries.map fun e => read e.1 (e.2.fields?.getD [])
  table : s.table =
    t.applyAll (entries.flatMap fun e => events e.1 (e.2.fields?.getD []))

variable {s : Walk} {entries : List (Value × Value)} {t : EnumTable}

/-- One definition more. -/
theorem Holds.take (h : s.Holds entries t) (entry : Value × Value) :
    (s.take entry).Holds (entries ++ [entry]) t where
  definitions := by
    simp [Walk.take, finish_ofSchema, h.definitions]
  table := by
    simp [Walk.take, ofSchema_eq_read entry.1, h.table]

/-- Definitions in order. -/
theorem Holds.foldl (h : s.Holds entries t) (rest : List (Value × Value)) :
    (rest.foldl Walk.take s).Holds (entries ++ rest) t := by
  induction rest generalizing s entries with
  | nil => simpa using h
  | cons entry rest ih => simpa using ih (h.take entry)

theorem holds_through (document : Fields) (t : EnumTable) :
    (through document t).Holds (schemasOf document) t := by
  have hstart : (⟨[], t⟩ : Walk).Holds [] t := ⟨rfl, rfl⟩
  exact hstart.foldl (schemasOf document)

end Walk

end Definition

/-! ### Services -/

namespace Service

/-- Reads a document with one table in hand, which the methods leave to the
definitions. -/
def buildInHand (document : Fields) (onServer : Bool) : Except Fault Service := do
  let reading := Method.Walk.through document onServer .empty
  let methods ← reading.outcome
  let models := Definition.Walk.through document reading.table
  let definitions := Definition.markLast models.definitions
  let domain ← domainOf document
  return {
    onServer
    title := infoOf document "title"
    version := infoOf document "version"
    description := infoOf document "description"
    isSecure := document.has "securityDefinitions"
    domain
    methods
    enums := models.table
    definitions
    modelEnums := modelEnumsOf definitions }

/-- A document becomes the same service, or ends with the same fault, if it is
read with one table in hand. -/
theorem build_eq_buildInHand (document : Fields) (onServer : Bool) :
    (build (.map document) onServer).outcome = buildInHand document onServer := by
  have hmethods := Method.Walk.follows_through document onServer .empty
  rw [build_outcome, buildInHand, hmethods.outcome]
  cases hread : (Method.buildAll (.map document) onServer).outcome with
  | error e => rfl
  | ok methods =>
    have hmodels := Definition.Walk.holds_through document
      (Method.Walk.through document onServer .empty).table
    have htable : (Definition.Walk.through document
        (Method.Walk.through document onServer .empty).table).table =
          tableOf document onServer := by
      rw [hmodels.table, hmethods.table, Operation.tableAfter_buildAll hread]
      exact Definition.applyAll_allEvents document _
    have hdefinitions : Definition.markLast (Definition.Walk.through document
        (Method.Walk.through document onServer .empty).table).definitions =
          Definition.readAll document := by
      rw [hmodels.definitions]
      rfl
    cases domainOf document with
    | error e => rfl
    | ok domain =>
      simp only [htable, hdefinitions]
      rfl

end Service

end ClientGen
