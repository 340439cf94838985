import ClientGen.Proofs.Service

/-!
# The enumerations of a service

The table of a service is threaded through all its paths, where parameters
promote enumerations, and then through all its definitions, whose own
enumerations shadow promoted ones. `enums_closed_form` says what comes out,
without the table: of what is promoted the first of each name, without the
names that definitions declare.

The names of the table and those that models declare are each distinct, and
they have none in common, so that a promoted parameter has a type that exactly
one of the two lists holds (`inOneList_of_promotes`).
-/

namespace ClientGen

namespace Operation

/-- Promoted enumerations are named by texts. -/
theorem textual_promotions (onServer : Bool) (document : Fields) :
    ∀ e ∈ promotions onServer document, e.Textual := by
  intro e he
  obtain ⟨o, -, he⟩ := List.mem_flatMap.1 he
  obtain ⟨p, -, rfl⟩ := List.mem_map.1 he
  exact ⟨_, rfl⟩

end Operation

namespace Definition

theorem map_names_readAll (document : Fields) :
    (readAll document).map (·.enums.names) =
      (schemasOf document).map fun e =>
        (declaredIn (e.2.fields?.getD [])).eraseDups := by
  refine (Traced.map_eq_of_forall₂ ((forall₂_readAll document).imp ?_)).symm
  rintro entry d ⟨last, rfl⟩
  exact (names_enums_read entry.1 _).symm

end Definition

namespace Service

/-- Models declare each name once, in the order in which they first occur. -/
theorem modelEnumsOf_readAll (document : Fields) :
    modelEnumsOf (Definition.readAll document) =
      (Definition.declaredNames document).eraseDups := by
  have hnames : modelEnumsOf (Definition.readAll document) =
      (((Definition.readAll document).map (·.enums.names)).flatten).eraseDups := by
    rw [← List.flatMap_def]
    rfl
  rw [hnames, Definition.map_names_readAll, ← List.flatMap_def,
    FirstOfEach.eraseDups_flatMap_eraseDups, Definition.declaredNames]

/-- Of the promoted enumerations the table of a service has the first of each
name, unless a definition declares that name. -/
theorem entries_tableOf (document : Fields) (onServer : Bool) :
    (tableOf document onServer).entries =
      ((Operation.promotions onServer document).eraseDupsBy
        Enumeration.sameName).filter fun e =>
          !(Definition.declaredNames document).contains e.name.text := by
  have htextual := Operation.textual_promotions onServer document
  have hnodup : (EnumTable.empty.registerAll
      (Operation.promotions onServer document)).names.Nodup := by
    rw [EnumTable.names_registerAll_empty htextual]
    exact FirstOfEach.nodup_eraseDups _
  have hentries := EnumTable.entries_registerAll_empty
    (Operation.promotions onServer document)
  have hsub : ∀ e ∈ (EnumTable.empty.registerAll
      (Operation.promotions onServer document)).entries, e.Textual := by
    intro e he
    rw [hentries] at he
    exact htextual e ((FirstOfEach.eraseDupsBy_sublist _).mem he)
  rw [tableOf, EnumTable.entries_shadowAll hsub hnodup, hentries]

/-- The names of the table of a service. -/
theorem names_tableOf (document : Fields) (onServer : Bool) :
    (tableOf document onServer).names =
      (((Operation.promotions onServer document).map
        (·.name.text)).eraseDups).filter fun n =>
          !(Definition.declaredNames document).contains n := by
  have hentries := EnumTable.entries_registerAll_empty
    (Operation.promotions onServer document)
  rw [← EnumTable.names_registerAll_empty
    (Operation.textual_promotions onServer document)]
  rw [EnumTable.names, entries_tableOf, EnumTable.names, hentries,
    List.filter_map]
  rfl

/-- Exactly one of the two lists of enumerations holds a name. -/
def InOneList (s : Service) (n : String) : Prop :=
  (n ∈ s.enums.names ∧ n ∉ s.modelEnums) ∨
    (n ∉ s.enums.names ∧ n ∈ s.modelEnums)

/-- The name of a promoted enumeration is in exactly one of the two lists. -/
theorem inOneList_of_promotes {document : Fields} {onServer : Bool}
    {methods : List Method} {domain : String} {o : Operation} {p : Fields}
    (ho : o ∈ Operation.all document) (hp : p ∈ o.kept onServer)
    (hpromotes : Parameter.promotes p = true) :
    (of document onServer methods domain).InOneList
      (Parameter.nameOf p).enumName := by
  have hpromoted : (Parameter.nameOf p).enumName ∈
      ((Operation.promotions onServer document).map (·.name.text)) := by
    refine List.mem_map.2 ⟨Parameter.enumeration p, ?_, rfl⟩
    refine List.mem_flatMap.2 ⟨o, ho, ?_⟩
    exact List.mem_map.2 ⟨p, List.mem_filter.2 ⟨hp, hpromotes⟩, rfl⟩
  have henums : ∀ n, n ∈ (of document onServer methods domain).enums.names ↔
      n ∈ (Operation.promotions onServer document).map (·.name.text) ∧
        n ∉ Definition.declaredNames document := by
    intro n
    show n ∈ (tableOf document onServer).names ↔ _
    rw [names_tableOf, List.mem_filter, List.mem_eraseDups]
    simp
  have hmodels : ∀ n, n ∈ (of document onServer methods domain).modelEnums ↔
      n ∈ Definition.declaredNames document := by
    intro n
    show n ∈ modelEnumsOf (Definition.readAll document) ↔ _
    rw [modelEnumsOf_readAll, List.mem_eraseDups]
  rw [InOneList, henums, hmodels]
  by_cases hdeclared : (Parameter.nameOf p).enumName ∈
      Definition.declaredNames document
  · right
    exact ⟨fun h => h.2 hdeclared, hdeclared⟩
  · left
    exact ⟨⟨hpromoted, hdeclared⟩, hdeclared⟩

/-- **Closed form of the enumerations.** The table has of all promoted
enumerations the first of each name, unless a definition declares that name;
the models declare each name once; both lists of names are distinct and they
have none in common; and the type of each promoted parameter is the name of its
enumeration, which exactly one of the two lists holds. -/
theorem enums_closed_form {document : Fields} {onServer : Bool} {s : Service}
    (h : (build (.map document) onServer).outcome = .ok s) :
    s.enums.entries =
      ((Operation.promotions onServer document).eraseDupsBy
        Enumeration.sameName).filter (fun e =>
          !(Definition.declaredNames document).contains e.name.text) ∧
    s.modelEnums = (Definition.declaredNames document).eraseDups ∧
    s.enums.names.Nodup ∧ s.modelEnums.Nodup ∧
    s.enums.names.Disjoint s.modelEnums ∧
    List.Forall₂
      (fun o m =>
        List.Forall₂
          (fun p q => Parameter.promotes p = true →
            q.typescriptType = (Parameter.nameOf p).enumName ∧
              s.InOneList q.typescriptType)
          (o.kept onServer) m.parameters)
      (Operation.all document) s.methods := by
  obtain ⟨methods, domain, hmethods, -, rfl⟩ := build_outcome_eq_ok.1 h
  have hmodels := modelEnumsOf_readAll document
  have hnames := names_tableOf document onServer
  refine ⟨entries_tableOf document onServer, hmodels, ?_, ?_, ?_, ?_⟩
  · show (tableOf document onServer).names.Nodup
    rw [hnames]
    exact (FirstOfEach.nodup_eraseDups _).filter _
  · show (modelEnumsOf (Definition.readAll document)).Nodup
    rw [hmodels]
    exact FirstOfEach.nodup_eraseDups _
  · show (tableOf document onServer).names.Disjoint
      (modelEnumsOf (Definition.readAll document))
    rw [hnames, hmodels]
    intro n hn hdeclared
    have hfree := (List.mem_filter.1 hn).2
    rw [List.mem_eraseDups] at hdeclared
    simp [hdeclared] at hfree
  · refine (Operation.forall₂_methodOf hmethods).imp ?_
    rintro o m ⟨ho, path, verb, isJson, -, -, -, rfl⟩
    refine (Parameter.forall₂_readAll onServer o.listed).imp ?_
    rintro p q ⟨hp, last, rfl⟩ hpromotes
    have htype := Parameter.typescriptType_read_of_promotes hpromotes
    refine ⟨htype, ?_⟩
    show InOneList _ (Parameter.read p).typescriptType
    rw [htype]
    exact inOneList_of_promotes ho hp hpromotes

/-- In the shop the first `Status` stays, and the model's `Size` is the only
one. -/
theorem enums_closed_form_shop :
    ∃ s, (build (.map shop) false).outcome = .ok s ∧
      s.enums.entries = [⟨.str "Status", [.str "open", .str "closed"]⟩] ∧
      s.modelEnums = ["Size"] := by
  obtain ⟨s, hs⟩ : ∃ s, (build (.map shop) false).outcome = .ok s := ⟨_, rfl⟩
  obtain ⟨hentries, hmodels, -⟩ := enums_closed_form hs
  have hpromotions : Operation.promotions false shop =
      [ ⟨.str "Size", [.str "small", .str "large"]⟩,
        ⟨.str "Status", [.str "open", .str "closed"]⟩,
        ⟨.str "Status", [.str "old", .str "new"]⟩,
        ⟨.str "Status", [.str "open", .str "closed"]⟩ ] := rfl
  have hdeclared : Definition.declaredNames shop = ["Size"] := rfl
  rw [hpromotions, hdeclared] at hentries
  refine ⟨s, hs, hentries.trans ?_, hmodels⟩
  simp [List.eraseDupsBy, List.eraseDupsBy.loop, Enumeration.sameName]

end Service

end ClientGen
