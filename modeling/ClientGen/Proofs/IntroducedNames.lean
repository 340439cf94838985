import Mathlib.Data.List.Nodup
import ClientGen.Proofs.Reference
import ClientGen.Proofs.ServiceEnums

/-!
# The names that a client introduces

The service file and the barrel bring names of three origins into one scope:
those of the models, those of the enumerations that each model declares, and
those of the enumerations of the whole client. Within each origin a name is
taken once, and an enumeration of a model shadows one of the client. Nothing
else keeps names apart.

So `nodup_introduced_iff` says which collisions are left: a model that is called
like an enumeration, and two models that declare an enumeration of one name.
Both happen in documents whose models have distinct names
(`exists_introduced_clash`).
-/

namespace ClientGen

namespace Definition

/-- A model declares each of its enumerations once. -/
theorem nodup_names_enums {document : Fields} {d : Definition}
    (hd : d ∈ readAll document) : d.enums.names.Nodup := by
  obtain ⟨e, -, last, rfl⟩ := exists_entry hd
  have hnames := names_enums_read e.1 (e.2.fields?.getD [])
  change (read e.1 (e.2.fields?.getD [])).enums.names.Nodup
  rw [hnames]
  exact FirstOfEach.nodup_eraseDups _

end Definition

namespace Service

/-- The names that a client introduces: those of its models, those of the
enumerations of every model, and those of its own enumerations. -/
def introduced (s : Service) : List (Option String) :=
  s.definitions.map (·.name) ++
    (s.definitions.flatMap (·.enums.names) ++ s.enums.names).map some

/-- The names that models declare are those of the enumerations of each. -/
theorem mem_modelEnumsOf_iff {ds : List Definition} {n : String} :
    n ∈ modelEnumsOf ds ↔ ∃ d ∈ ds, n ∈ d.enums.names := by
  rw [modelEnumsOf, List.mem_eraseDups, List.mem_flatMap]
  rfl

theorem nodup_names_tableOf (document : Fields) (onServer : Bool) :
    (tableOf document onServer).names.Nodup := by
  rw [names_tableOf]
  exact (FirstOfEach.nodup_eraseDups _).filter _

/-- A name that a model declares is shadowed in the table. -/
theorem notMem_names_tableOf {document : Fields} {onServer : Bool}
    {d : Definition} (hd : d ∈ Definition.readAll document) {n : String}
    (hn : n ∈ d.enums.names) : n ∉ (tableOf document onServer).names := by
  have hmodel : n ∈ modelEnumsOf (Definition.readAll document) :=
    mem_modelEnumsOf_iff.2 ⟨d, hd, hn⟩
  rw [modelEnumsOf_readAll, List.mem_eraseDups] at hmodel
  intro htable
  rw [names_tableOf, List.mem_filter] at htable
  simp [hmodel] at htable

/-- The enumerations of all models and of the client are called differently
exactly if no two models declare one name. -/
private theorem nodup_enums_iff (document : Fields) (onServer : Bool) :
    ((Definition.readAll document).flatMap (·.enums.names) ++
        (tableOf document onServer).names).Nodup ↔
      (Definition.readAll document).Pairwise fun d d' =>
        d.enums.names.Disjoint d'.enums.names := by
  have hown : ∀ d ∈ Definition.readAll document, d.enums.names.Nodup :=
    fun _ hd => Definition.nodup_names_enums hd
  have hshadowed : ((Definition.readAll document).flatMap
      (·.enums.names)).Disjoint (tableOf document onServer).names := by
    intro n hmodels htable
    obtain ⟨d, hd, hn⟩ := List.mem_flatMap.1 hmodels
    exact notMem_names_tableOf hd hn htable
  rw [List.nodup_append', List.nodup_flatMap]
  constructor
  · rintro ⟨⟨-, hpairs⟩, -, -⟩
    exact hpairs
  · intro hpairs
    exact ⟨⟨hown, hpairs⟩, nodup_names_tableOf document onServer, hshadowed⟩

/-- **Collisions of names.** Where models have distinct names, a client
introduces each name once exactly if no model is called like an enumeration, be
it one of a model or of the client, and no two models declare an enumeration of
one name. -/
theorem nodup_introduced_iff {document : Fields} {onServer : Bool}
    {s : Service} (h : (build (.map document) onServer).outcome = .ok s)
    (hkeys : ((Definition.keys document).map Value.identifier?).Nodup) :
    s.introduced.Nodup ↔
      (∀ d ∈ s.definitions, ∀ n, d.name = some n →
        n ∉ s.modelEnums ∧ n ∉ s.enums.names) ∧
      s.definitions.Pairwise fun d d' =>
        d.enums.names.Disjoint d'.enums.names := by
  obtain ⟨methods, domain, -, -, rfl⟩ := build_outcome_eq_ok.1 h
  have hmodels : ((Definition.readAll document).map (·.name)).Nodup := by
    rw [Definition.names_readAll]
    exact hkeys
  have henums := nodup_enums_iff document onServer
  have hdeclared : ∀ n,
      n ∈ (Definition.readAll document).flatMap (·.enums.names) ↔
        n ∈ modelEnumsOf (Definition.readAll document) := by
    intro n
    rw [mem_modelEnumsOf_iff, List.mem_flatMap]
  change ((Definition.readAll document).map (·.name) ++
    ((Definition.readAll document).flatMap (·.enums.names) ++
      (tableOf document onServer).names).map some).Nodup ↔
    (∀ d ∈ Definition.readAll document, ∀ n, d.name = some n →
      n ∉ modelEnumsOf (Definition.readAll document) ∧
        n ∉ (tableOf document onServer).names) ∧
    (Definition.readAll document).Pairwise fun d d' =>
      d.enums.names.Disjoint d'.enums.names
  rw [List.nodup_append',
    List.nodup_map_iff (fun _ _ => Option.some.inj), henums]
  constructor
  · rintro ⟨-, hpairs, hdisjoint⟩
    refine ⟨?_, hpairs⟩
    intro d hd n hname
    have hmem : some n ∈ (Definition.readAll document).map (·.name) :=
      List.mem_map.2 ⟨d, hd, hname⟩
    have hfree := hdisjoint hmem
    simpa [← hdeclared] using hfree
  · rintro ⟨hfree, hpairs⟩
    refine ⟨hmodels, hpairs, ?_⟩
    intro name hmodel henum
    obtain ⟨d, hd, rfl⟩ := List.mem_map.1 hmodel
    obtain ⟨n, hn, hname⟩ := List.mem_map.1 henum
    obtain ⟨hlocal, htable⟩ := hfree d hd n hname.symm
    rcases List.mem_append.1 hn with hn | hn
    · exact hlocal ((hdeclared n).1 hn)
    · exact htable hn

/-- The shop introduces two models, one enumeration of a model and one of its
own, each under a name that no other one has. -/
theorem nodup_introduced_shop :
    ∃ s, (build (.map shop) false).outcome = .ok s ∧ s.introduced.Nodup := by
  obtain ⟨s, hs⟩ : ∃ s, (build (.map shop) false).outcome = .ok s := ⟨_, rfl⟩
  have hkeys : ((Definition.keys shop).map Value.identifier?).Nodup := by
    decide +kernel
  have hfree : ((build (.map shop) false).outcome.toOption.all fun s =>
      (s.definitions.all fun d => d.name.all fun n =>
        !s.modelEnums.contains n && !s.enums.names.contains n) &&
      decide (s.definitions.Pairwise fun d d' =>
        ∀ n ∈ d.enums.names, n ∉ d'.enums.names)) = true := by
    decide +kernel
  rw [hs] at hfree
  have hparts := Bool.and_eq_true_iff.1 hfree
  refine ⟨s, hs, (nodup_introduced_iff hs hkeys).2 ⟨?_, ?_⟩⟩
  · intro d hd n hname
    have hown := List.all_eq_true.1 hparts.1 d hd
    simpa [hname] using hown
  · have hpairs := of_decide_eq_true hparts.2
    exact hpairs.imp fun hdisjoint n hn hn' => hdisjoint n hn hn'

/-- A document with a model of pets, and a parameter that is restricted to the
kinds of a pet. -/
def petClash : Fields :=
  [ (.str "paths", .map
      [ (.str "/pets", .map
          [ (.str "get", .map
              [ (.str "parameters", .list
                  [ .map
                      [ (.str "name", .str "pet"), (.str "in", .str "query"),
                        (.str "type", .str "string"),
                        (.str "enum", .list [.str "cat", .str "dog"]) ] ]) ]) ]) ]),
    (.str "definitions", .map
      [ (.str "Pet", .map [(.str "type", .str "object")]) ]) ]

/-- Distinct names of models do not keep the names of a client distinct: the
enumeration of a parameter may be called like a model. -/
theorem exists_introduced_clash :
    ¬ ∀ (document : Fields) (onServer : Bool) (s : Service),
      (build (.map document) onServer).outcome = .ok s →
      ((Definition.keys document).map Value.identifier?).Nodup →
      s.introduced.Nodup := by
  intro h
  obtain ⟨s, hs⟩ : ∃ s, (build (.map petClash) false).outcome = .ok s := ⟨_, rfl⟩
  have hkeys : ((Definition.keys petClash).map Value.identifier?).Nodup := by
    decide +kernel
  have hclash : ((build (.map petClash) false).outcome.toOption.all fun s =>
      s.introduced == [some "Pet", some "Pet"]) = true := by
    decide +kernel
  rw [hs] at hclash
  have hnames : s.introduced = [some "Pet", some "Pet"] := beq_iff_eq.1 hclash
  have hnodup := h petClash false s hs hkeys
  rw [hnames] at hnodup
  exact absurd hnodup (by decide)

end Service

end ClientGen
