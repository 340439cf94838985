import Mathlib.Data.List.Nodup
import ClientGen.Proofs.Operation
import ClientGen.Proofs.PathSpelling
import ClientGen.Proofs.ServiceFile

/-!
# Names of arguments

A method has an argument for each parameter of its operation, named by the
identifier of its name. Neither the parameters that a path shares are compared
with those of the operation, nor are the identifiers. So even if neither list
has two parameters of one name and location, a method may have two arguments of
one name: where an operation describes a shared parameter anew, where a name is
used at two locations, and where two names have one identifier. It has not if
and only if there is none of these (`nodup_arguments_iff`), and the first one is
enough (`exists_argument_twice`).
-/

namespace ClientGen

/-! ### Names with one identifier -/

namespace Text

/-- The words of a name, between dashes and dots. -/
def wordsOf (s : List Char) : List (List Char) := s.splitOnP isDelimiter

open MethodName in
/-- Names of plain words have one identifier if they have the same words. -/
theorem identifierChars_eq_iff_of_plain {s t : List Char}
    (hs : ∀ w ∈ wordsOf s, isPlainWord w = true)
    (ht : ∀ w ∈ wordsOf t, isPlainWord w = true) :
    identifierChars s = identifierChars t ↔ wordsOf s = wordsOf t := by
  constructor
  · intro h
    refine flatMap_upperFirst_inj hs ht ?_
    have hspelled := congrArg upperFirst h
    rwa [upperFirst_identifierChars, upperFirst_identifierChars] at hspelled
  · intro h
    rw [wordsOf, wordsOf] at h
    rw [identifierChars_eq, identifierChars_eq, h]

end Text

/-! ### Parameters and their arguments -/

namespace Parameter

/-- Two mappings describe parameters of one name and location. -/
def SameKey (p q : Fields) : Prop :=
  nameOf p = nameOf q ∧ p.get "in" = q.get "in"

/-- The name of the argument of a mapping. -/
def argumentOf (p : Fields) : String := Text.identifier (nameOf p).text

/-- The words of the name of a mapping. -/
def wordsOf (p : Fields) : List (List Char) :=
  Text.wordsOf (nameOf p).text.toList

theorem argumentOf_eq_of_sameKey {p q : Fields} (h : SameKey p q) :
    argumentOf p = argumentOf q := by
  rw [argumentOf, argumentOf, h.1]

theorem argumentOf_eq_iff_of_plain {p q : Fields}
    (hp : ∀ w ∈ wordsOf p, MethodName.isPlainWord w = true)
    (hq : ∀ w ∈ wordsOf q, MethodName.isPlainWord w = true) :
    argumentOf p = argumentOf q ↔ wordsOf p = wordsOf q := by
  rw [argumentOf, argumentOf, Text.identifier, Text.identifier, String.ofList_inj]
  exact Text.identifierChars_eq_iff_of_plain hp hq

theorem map_argument_readAll (onServer : Bool) (params : List Value) :
    (readAll onServer params).map (·.argument) =
      (kept onServer params).map argumentOf := by
  refine (Traced.map_eq_of_forall₂ ((forall₂_readAll onServer params).imp ?_)).symm
  rintro fields p ⟨-, last, rfl⟩
  rfl

end Parameter

/-! ### Arguments of methods -/

/-- A method is declared with the arguments of its parameters, in some order. -/
theorem TypeScript.MethodDecl.names_perm {m : Method} {d : MethodDecl}
    (h : ofMethod m = .ok d) :
    (d.arguments.map (·.name)).Perm (m.parameters.map (·.argument)) := by
  obtain ⟨arguments, rfl, harguments⟩ := exists_of_ofMethod h
  have hnames : arguments.map (·.name) =
      (signature m.parameters).map (·.argument) := by
    refine (Traced.map_eq_of_forall₂ (harguments.imp ?_)).symm
    intro p a ha
    rw [Argument.ofParameter_eq] at ha
    obtain ⟨_, -, rfl⟩ := exists_of_map_eq_ok ha
    rfl
  rw [of, hnames]
  exact (signature_perm m.parameters).map _

namespace Operation

open Parameter TypeScript

/-- The parameters of an operation alone. -/
def own (o : Operation) : List Value :=
  ((o.fields.get "parameters").items?).getD []

theorem kept_eq (onServer : Bool) (o : Operation) :
    o.kept onServer =
      Parameter.kept onServer o.own ++ Parameter.kept onServer o.shared :=
  Parameter.kept_append onServer o.own o.shared

/-- Neither the operation nor its path has two parameters of one name and
location. -/
structure IsKeyed (onServer : Bool) (o : Operation) : Prop where
  own : (Parameter.kept onServer o.own).Pairwise fun p q => ¬ SameKey p q
  shared : (Parameter.kept onServer o.shared).Pairwise fun p q => ¬ SameKey p q

/-- Nothing makes two arguments of an operation have one name. -/
structure TellsApart (onServer : Bool) (o : Operation) : Prop where
  /-- No shared parameter is described anew. -/
  overridesNone : ∀ p ∈ Parameter.kept onServer o.own,
    ∀ q ∈ Parameter.kept onServer o.shared, ¬ SameKey p q
  /-- A name is used at one location. -/
  location : ∀ p ∈ o.kept onServer, ∀ q ∈ o.kept onServer,
    nameOf p = nameOf q → p.get "in" = q.get "in"
  /-- Different names have different identifiers. -/
  name : ∀ p ∈ o.kept onServer, ∀ q ∈ o.kept onServer,
    argumentOf p = argumentOf q → nameOf p = nameOf q

variable {onServer : Bool} {o : Operation}

theorem pairwise_kept_iff (h : o.IsKeyed onServer) :
    (o.kept onServer).Pairwise (fun p q => ¬ SameKey p q) ↔
      ∀ p ∈ Parameter.kept onServer o.own,
        ∀ q ∈ Parameter.kept onServer o.shared, ¬ SameKey p q := by
  rw [kept_eq, List.pairwise_append]
  exact ⟨fun hpairs => hpairs.2.2, fun hapart => ⟨h.own, h.shared, hapart⟩⟩

theorem nodup_argumentOf_iff (h : o.IsKeyed onServer) :
    ((o.kept onServer).map argumentOf).Nodup ↔ o.TellsApart onServer := by
  constructor
  · intro hnodup
    have hpairs : (o.kept onServer).Pairwise fun p q => ¬ SameKey p q := by
      refine (List.pairwise_map.1 hnodup).imp ?_
      intro p q hne hsame
      exact hne (argumentOf_eq_of_sameKey hsame)
    have hinj : ∀ p ∈ o.kept onServer, ∀ q ∈ o.kept onServer,
        argumentOf p = argumentOf q → p = q := fun p hp q hq =>
      List.inj_on_of_nodup_map hnodup hp hq
    exact {
      overridesNone := (pairwise_kept_iff h).1 hpairs
      location := by
        intro p hp q hq hname
        rw [hinj p hp q hq (by rw [argumentOf, argumentOf, hname])]
      name := by
        intro p hp q hq hargument
        rw [hinj p hp q hq hargument] }
  · intro hapart
    refine List.pairwise_map.2 ?_
    refine ((pairwise_kept_iff h).2 hapart.overridesNone).imp_of_mem ?_
    intro p q hp hq hkey hargument
    have hname := hapart.name p hp q hq hargument
    exact hkey ⟨hname, hapart.location p hp q hq hname⟩

/-- **Names of arguments.** The parameters of an operation and those that its
path shares are read to the last. If neither list has two of one name and
location, their arguments have distinct names exactly if no shared parameter is
described anew, every name is used at one location and different names have
different identifiers. If all names are plain words between dashes and dots,
this is to say that no two have the same words. The method that is declared
with these parameters has an argument twice exactly if two of the names are
equal. -/
theorem nodup_arguments_iff (h : o.IsKeyed onServer) :
    ∃ ps, (Parameter.buildAll (.map o.fields) (.list o.shared) onServer).outcome =
        .ok ps ∧
      ((ps.map (·.argument)).Nodup ↔ o.TellsApart onServer) ∧
      ((∀ p ∈ o.kept onServer, ∀ w ∈ wordsOf p,
          MethodName.isPlainWord w = true) →
        ((ps.map (·.argument)).Nodup ↔
          ((o.kept onServer).map wordsOf).Nodup)) ∧
      ∀ m d, m.parameters = ps → MethodDecl.ofMethod m = .ok d →
        ((d.arguments.map (·.name)).Nodup ↔ (ps.map (·.argument)).Nodup) := by
  refine ⟨readAll onServer o.listed, rfl, ?_, ?_, ?_⟩
  · rw [map_argument_readAll]
    exact nodup_argumentOf_iff h
  · intro hplain
    rw [map_argument_readAll, List.Nodup, List.Nodup, List.pairwise_map,
      List.pairwise_map]
    refine List.Pairwise.iff_of_mem fun {p q} hp hq => not_congr ?_
    exact argumentOf_eq_iff_of_plain (hplain p hp) (hplain q hq)
  · rintro m d hm hd
    rw [← hm]
    exact (MethodDecl.names_perm hd).nodup_iff

private theorem not_sameKey_of_text {p q : Fields}
    (h : (nameOf p).text ≠ (nameOf q).text) : ¬ SameKey p q :=
  fun hsame => h (congrArg Value.text hsame.1)

/-- An operation with a size, a page and a mark, the last of them shared. -/
def paged : Operation where
  path := .str "/pets"
  verb := .str "get"
  fields :=
    [ (.str "parameters", .list
        [ .map [(.str "name", .str "page-size"), (.str "in", .str "query")],
          .map [(.str "name", .str "page"), (.str "in", .str "query")] ]) ]
  shared := [.map [(.str "name", .str "x.page"), (.str "in", .str "header")]]

theorem nodup_arguments_paged :
    ∃ ps, (Parameter.buildAll (.map paged.fields) (.list paged.shared)
        false).outcome = .ok ps ∧
      ps.map (·.argument) = ["pageSize", "page", "xPage"] ∧
      (ps.map (·.argument)).Nodup := by
  have hkeyed : paged.IsKeyed false := by
    constructor
    · refine List.Pairwise.imp not_sameKey_of_text ?_
      decide +kernel
    · exact List.pairwise_singleton _ _
  have hplain : ∀ p ∈ paged.kept false, ∀ w ∈ wordsOf p,
      MethodName.isPlainWord w = true := by
    decide +kernel
  have hwords : ((paged.kept false).map wordsOf).Nodup := by decide +kernel
  have harguments : (readAll false paged.listed).map (·.argument) =
      ["pageSize", "page", "xPage"] := by
    decide +kernel
  obtain ⟨ps, hps, -, hnodup, -⟩ := nodup_arguments_iff hkeyed
  refine ⟨ps, hps, ?_, (hnodup hplain).2 hwords⟩
  obtain rfl := Except.ok.inj hps
  exact harguments

/-- An operation that describes anew a parameter of its path. -/
def redescribed : Operation where
  path := .str "/pets"
  verb := .str "get"
  fields :=
    [ (.str "parameters", .list
        [ .map
            [ (.str "name", .str "limit"), (.str "in", .str "query"),
              (.str "type", .str "integer") ] ]) ]
  shared :=
    [ .map
        [ (.str "name", .str "limit"), (.str "in", .str "query"),
          (.str "type", .str "string") ] ]

/-- Then its method has the argument twice. -/
theorem exists_argument_twice :
    ¬ ∀ (onServer : Bool) (o : Operation), o.IsKeyed onServer →
      ∃ ps, (Parameter.buildAll (.map o.fields) (.list o.shared)
          onServer).outcome = .ok ps ∧
        (ps.map (·.argument)).Nodup := by
  intro h
  have hkeyed : redescribed.IsKeyed false :=
    ⟨List.pairwise_singleton _ _, List.pairwise_singleton _ _⟩
  obtain ⟨ps, hps, hnodup⟩ := h false redescribed hkeyed
  obtain rfl := Except.ok.inj hps
  have htwice : ¬ ((readAll false redescribed.listed).map (·.argument)).Nodup := by
    decide +kernel
  exact htwice hnodup

end Operation

end ClientGen
