import ClientGen.Proofs.Service

/-!
# Parameters that a proxy injects

A client that does not run on the server side knows nothing of the parameters
that a proxy injects. `strip` takes them out of a document, out of the list of
every operation and out of every list that a path shares. The stripped document
yields, on the server side, the same service as the whole document yields
elsewhere, or the same fault (`build_stripDocument`).

The two readings meet the same operations in the same order, and each of these
agrees with its like: the kept parameters are the same, so the marks, the
enumerations and what a method derives from its parameters are the same.
-/

namespace ClientGen

open Traced

namespace Parameter

/-- Whether a value is a mapping that a proxy injects. -/
def isInjected (param : Value) : Bool := param.fields?.any isProxied

/-- A list of parameters without those that a proxy injects. -/
def withoutInjected (params : List Value) : List Value :=
  params.filter fun p => !isInjected p

/-- A value without the parameters that a proxy injects, if it is a list. -/
def stripList : Value → Value
  | .list params => .list (withoutInjected params)
  | v => v

/-- What is left on the server side is what is kept elsewhere. -/
theorem kept_withoutInjected (params : List Value) :
    kept true (withoutInjected params) = kept false params := by
  rw [kept_true, kept, withoutInjected, List.filterMap_filter,
    List.filter_filterMap]
  refine List.filterMap_congr fun p _ => ?_
  unfold isInjected
  cases p.fields? with
  | none => rfl
  | some fields =>
    cases h : isProxied fields with
    | false => simp [Option.filter, h]
    | true => simp [Option.filter, h]

theorem items_stripList (v : Value) :
    ((stripList v).items?).getD [] = withoutInjected ((v.items?).getD []) := by
  cases v with
  | list params => rfl
  | _ => rfl

end Parameter

namespace Operation

/-- The fields of an operation without the parameters that a proxy injects. -/
def stripFields (fields : Fields) : Fields :=
  fields.mapValues fun key v =>
    if key.isText "parameters" then Parameter.stripList v else v

/-- An operation without the parameters that a proxy injects. -/
def strip (o : Operation) : Operation :=
  { o with
    fields := stripFields o.fields
    shared := Parameter.withoutInjected o.shared }

/-- An entry of a path without the parameters that a proxy injects: the path
may share a list of them, or it is an operation. -/
def stripEntry (key v : Value) : Value :=
  match key, v with
  | .str s, .list params =>
    if Text.lower s = "parameters" then .list (Parameter.withoutInjected params)
    else .list params
  | .str s, .map fields =>
    if Method.isVerb (.str s) then .map (stripFields fields) else .map fields
  | _, v => v

/-- The item of a path without the parameters that a proxy injects. -/
def stripItem : Value → Value
  | .map entries => .map (Fields.mapValues stripEntry entries)
  | item => item

/-- The paths of a document without the parameters that a proxy injects. -/
def stripPaths : Value → Value
  | .map paths => .map (Fields.mapValues (fun _ item => stripItem item) paths)
  | v => v

/-- A document without the parameters that a proxy injects. -/
def stripDocument (document : Fields) : Fields :=
  document.mapValues fun key v => if key.isText "paths" then stripPaths v else v

/-! ### What is stripped and what stays -/

theorem get?_stripFields {name : String} (h : name ≠ "parameters")
    (fields : Fields) : (stripFields fields).get? name = fields.get? name := by
  refine Fields.get?_mapValues_of_id (fun v => ?_) fields
  simp [Value.isText, h]

theorem get_stripFields {name : String} (h : name ≠ "parameters")
    (fields : Fields) : (stripFields fields).get name = fields.get name := by
  rw [Fields.get, Fields.get, get?_stripFields h]

theorem get?_stripDocument {name : String} (h : name ≠ "paths")
    (document : Fields) :
    (stripDocument document).get? name = document.get? name := by
  refine Fields.get?_mapValues_of_id (fun v => ?_) document
  simp [Value.isText, h]

theorem get_stripDocument {name : String} (h : name ≠ "paths")
    (document : Fields) :
    (stripDocument document).get name = document.get name := by
  rw [Fields.get, Fields.get, get?_stripDocument h]

/-- The parameters of a stripped operation are those that no proxy
injects. -/
theorem listed_strip (o : Operation) :
    o.strip.listed = Parameter.withoutInjected o.listed := by
  have hown : ((stripFields o.fields).get "parameters").items?.getD [] =
      Parameter.withoutInjected
        (((o.fields.get "parameters").items?).getD []) := by
    rw [← Parameter.items_stripList, Fields.get, Fields.get, stripFields,
      Fields.get?_mapValues]
    cases o.fields.get? "parameters" with
    | none => rfl
    | some v => simp [Value.isText]
  rw [listed, listed, Parameter.listed, Parameter.listed, strip, hown,
    Parameter.withoutInjected, Parameter.withoutInjected,
    Parameter.withoutInjected, List.filter_append]

theorem kept_strip (o : Operation) : o.strip.kept true = o.kept false := by
  rw [kept, kept, listed_strip, Parameter.kept_withoutInjected]

/-- What a path shares once an entry is seen. -/
private def shareStep (shared : List Value) (entry : Value × Value) :
    List Value :=
  match entry.1, entry.2 with
  | .str s, .list params =>
    if Text.lower s = "parameters" then params else shared
  | _, _ => shared

private theorem sharedOf_eq (entries : Fields) :
    Method.sharedOf entries = entries.foldl shareStep [] := rfl

private theorem shareStep_stripEntry (shared : List Value) (key v : Value) :
    shareStep (Parameter.withoutInjected shared) (key, stripEntry key v) =
      Parameter.withoutInjected (shareStep shared (key, v)) := by
  cases key with
  | str s =>
    cases v with
    | list params =>
      by_cases hs : Text.lower s = "parameters"
      · simp [shareStep, stripEntry, hs]
      · simp [shareStep, stripEntry, hs]
    | map fields =>
      rw [stripEntry]
      split <;> rfl
    | _ => rfl
  | _ => rfl

/-- A path shares the same list, without the parameters that a proxy
injects. -/
theorem sharedOf_mapValues (entries : Fields) :
    Method.sharedOf (Fields.mapValues stripEntry entries) =
      Parameter.withoutInjected (Method.sharedOf entries) := by
  have hfold : ∀ shared,
      (Fields.mapValues stripEntry entries).foldl shareStep
          (Parameter.withoutInjected shared) =
        Parameter.withoutInjected (entries.foldl shareStep shared) := by
    induction entries with
    | nil => exact fun _ => rfl
    | cons e rest ih =>
      intro shared
      rw [Fields.mapValues, List.map_cons, List.foldl_cons, List.foldl_cons,
        shareStep_stripEntry]
      exact ih _
  rw [sharedOf_eq, sharedOf_eq]
  exact hfold []

/-- A key of a path is the same operation, stripped. -/
private theorem atKey?_strip (path : Value) (shared : List Value)
    (key v : Value) :
    atKey? path (Parameter.withoutInjected shared) (key, stripEntry key v) =
      (atKey? path shared (key, v)).map strip := by
  cases key with
  | str s =>
    cases hverb : Method.isVerb (.str s) with
    | false => simp [atKey?, hverb]
    | true =>
      cases v with
      | list params =>
        rw [stripEntry]
        split <;> simp [atKey?, hverb, Value.fields?]
      | map fields => simp [atKey?, hverb, stripEntry, Value.fields?, strip]
      | _ => simp [atKey?, hverb, stripEntry, Value.fields?]
  | _ => rfl

/-- The operations of a stripped path are its operations, stripped. -/
private theorem ofPath_stripItem (path item : Value) :
    ofPath (path, stripItem item) = (ofPath (path, item)).map strip := by
  have hentries : (stripItem item).fields?.getD [] =
      Fields.mapValues stripEntry (item.fields?.getD []) := by
    cases item with
    | map entries => rfl
    | _ => rfl
  rw [ofPath, ofPath, hentries, sharedOf_mapValues, Fields.mapValues,
    List.filterMap_map, List.map_filterMap]
  refine List.filterMap_congr fun e _ => ?_
  exact atKey?_strip path _ e.1 e.2

/-- The operations of a stripped document are its operations, stripped. -/
theorem all_stripDocument (document : Fields) :
    all (stripDocument document) = (all document).map strip := by
  have hpaths : Method.pathsOf (stripDocument document) =
      Fields.mapValues (fun _ item => stripItem item)
        (Method.pathsOf document) := by
    rw [Method.pathsOf, Method.pathsOf, Fields.get, Fields.get, stripDocument,
      Fields.get?_mapValues]
    cases document.get? "paths" with
    | none => rfl
    | some v =>
      cases v with
      | map paths => rfl
      | _ => rfl
  rw [all, all, hpaths, Fields.mapValues, List.flatMap_map, List.map_flatMap]
  exact congrArg (List.flatMap · _) (funext fun e => ofPath_stripItem e.1 e.2)

/-! ### Two readings that agree -/

theorem isJson_strip (document fields : Fields) :
    Response.isJson (stripFields fields) (.map (stripDocument document)) =
      Response.isJson fields (.map document) := by
  have hown : (stripFields fields).get "produces" = fields.get "produces" :=
    get_stripFields (by decide) fields
  have hdocument :
      (stripDocument document).get "produces" = document.get "produces" :=
    get_stripDocument (by decide) document
  simp only [Response.isJson, Response.produced, Value.fields?, hown, hdocument]

/-- A stripped operation becomes the same method. -/
theorem methodOf_strip (document : Fields) (o : Operation) (path verb : String)
    (isJson : Bool) :
    o.strip.methodOf (stripDocument document) true path verb isJson =
      o.methodOf document false path verb isJson := by
  have hfields : o.strip.fields = stripFields o.fields := rfl
  have hread : Parameter.readAll true o.strip.listed =
      Parameter.readAll false o.listed := by
    have hkept := kept_strip o
    rw [kept, kept] at hkept
    rw [Parameter.readAll, Parameter.readAll, hkept]
  have hname : MethodName.explicit? (stripFields o.fields) =
      MethodName.explicit? o.fields := by
    rw [MethodName.explicit?, MethodName.explicit?,
      get_stripFields (by decide), get_stripFields (by decide)]
  have hsummary : Method.summaryOf (stripFields o.fields) =
      Method.summaryOf o.fields := by
    rw [Method.summaryOf, Method.summaryOf, get_stripFields (by decide)]
  have hsecure : (stripDocument document).has "security" =
      document.has "security" := by
    rw [Fields.has, Fields.has, get?_stripDocument (by decide)]
  have hown : (stripFields o.fields).has "security" =
      o.fields.has "security" := by
    rw [Fields.has, Fields.has, get?_stripFields (by decide)]
  have hresponse : Response.typeOf (stripFields o.fields) =
      Response.typeOf o.fields := by
    rw [Response.typeOf, Response.typeOf, get_stripFields (by decide)]
  simp only [methodOf, hfields, hread, hname, hsummary, hsecure, hown,
    hresponse]

/-- A stripped operation, read on the server side, agrees with the whole one,
read elsewhere. -/
theorem build_strip_agree (document : Fields) (o : Operation) :
    Agree (o.strip.build (stripDocument document) true)
      (o.build document false) := by
  have hevents : ∀ t : EnumTable,
      t.applyAll (Parameter.events true o.strip.listed) =
        t.applyAll (Parameter.events false o.listed) := by
    intro t
    rw [Parameter.applyAll_events, Parameter.applyAll_events]
    exact congrArg (fun ps => t.registerAll (Parameter.promotions ps))
      (kept_strip o)
  rcases o.verb.text_or_none with ⟨verb, hverb⟩ | hverb
  · rcases o.path.text_or_none with ⟨path, hpath⟩ | hpath
    · rw [build_eq _ true o.strip hpath hverb, build_eq _ false o hpath hverb]
      refine ⟨?_, hevents⟩
      have hjson : Response.isJson o.strip.fields
          (.map (stripDocument document)) =
          Response.isJson o.fields (.map document) :=
        isJson_strip document o.fields
      rw [hjson]
      exact congrArg (Except.map · _)
        (funext fun isJson => methodOf_strip document o path verb isJson)
    · rw [build_of_path _ true o.strip hverb hpath,
        build_of_path _ false o hverb hpath]
      exact ⟨rfl, hevents⟩
  · rw [build_of_verb _ true o.strip hverb, build_of_verb _ false o hverb]
    exact Agree.refl _

/-- A stripped document, read on the server side, agrees with the whole one,
read elsewhere. -/
theorem buildAll_strip_agree (document : Fields) :
    Agree (Method.buildAll (.map (stripDocument document)) true)
      (Method.buildAll (.map document) false) := by
  have hstripped := buildAll_agree (stripDocument document) true
  have hwhole := buildAll_agree document false
  rw [all_stripDocument, List.map_map] at hstripped
  refine hstripped.trans (Agree.trans ?_ hwhole.symm)
  refine Agree.collect ?_
  rw [List.forall₂_map_left_iff, List.forall₂_map_right_iff]
  exact List.forall₂_same.2 fun o _ => build_strip_agree document o

/-- A stripped document promotes the same enumerations. -/
theorem promotions_stripDocument (document : Fields) :
    promotions true (stripDocument document) = promotions false document := by
  rw [promotions, promotions, all_stripDocument, List.flatMap_map]
  simp only [kept_strip]

end Operation

namespace Service

open Operation

/-- A stripped document describes the same service, but for the side that it
runs on. -/
theorem of_stripDocument (document : Fields) (methods : List Method)
    (domain : String) :
    of (stripDocument document) true methods domain =
      { of document false methods domain with onServer := true } := by
  have hinfo : ∀ name,
      infoOf (stripDocument document) name = infoOf document name := by
    intro name
    rw [infoOf, infoOf, get_stripDocument (by decide)]
  have hsecure : (stripDocument document).has "securityDefinitions" =
      document.has "securityDefinitions" := by
    rw [Fields.has, Fields.has, get?_stripDocument (by decide)]
  have hschemas : Definition.schemasOf (stripDocument document) =
      Definition.schemasOf document := by
    rw [Definition.schemasOf, Definition.schemasOf,
      get_stripDocument (by decide)]
  have htable : tableOf (stripDocument document) true =
      tableOf document false := by
    rw [tableOf, tableOf, promotions_stripDocument, Definition.declaredNames,
      Definition.declaredNames, hschemas]
  have hdefinitions : Definition.readAll (stripDocument document) =
      Definition.readAll document := by
    rw [Definition.readAll, Definition.readAll, hschemas]
  simp only [of, hinfo, hsecure, htable, hdefinitions]

/-- **Parameters that a proxy injects leave no trace.** A document without
them, read on the server side, ends with the same fault as the whole document
read elsewhere, or with the same service but for the side that it runs on. -/
theorem build_stripDocument (document : Fields) :
    (build (.map (stripDocument document)) true).outcome =
      (build (.map document) false).outcome.map fun s =>
        { s with onServer := true } := by
  have hdomain : domainOf (stripDocument document) = domainOf document := by
    simp only [domainOf,
      get_stripDocument (show "schemes" ≠ "paths" by decide),
      get_stripDocument (show "host" ≠ "paths" by decide),
      get_stripDocument (show "basePath" ≠ "paths" by decide)]
  rw [build_outcome, build_outcome, (buildAll_strip_agree document).outcome,
    hdomain]
  cases (Method.buildAll (.map document) false).outcome with
  | error e => rfl
  | ok methods =>
    cases domainOf document with
    | error e => rfl
    | ok domain => exact congrArg Except.ok (of_stripDocument document methods domain)

end Service

end ClientGen
