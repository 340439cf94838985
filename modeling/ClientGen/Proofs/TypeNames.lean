import ClientGen.Proofs.IntroducedNames

/-!
# The names of types

A client declares types under the names of its models and of its enumerations.
The name of a model is the identifier of a key, in which no delimiter is left.
That of an enumeration is only the capitalized name of the parameter or property
that it belongs to, its *owner*, and keeps whatever delimiters that has.

So the types of a client are all called by identifiers exactly if no owner has a
delimiter in its name (`typeNames_isIdentifier_iff`), and there are documents
with such owners (`exists_delimited_type`).
-/

namespace ClientGen

/-! ### Names that are identifiers -/

namespace Text

/-- A name is an identifier if it is its own one. -/
def IsIdentifier (s : String) : Prop := identifier s = s

instance (s : String) : Decidable (IsIdentifier s) := by
  unfold IsIdentifier
  infer_instance

/-- Identifiers are the names without delimiters. -/
theorem isIdentifier_iff {s : String} :
    IsIdentifier s ↔ '-' ∉ s.toList ∧ '.' ∉ s.toList := by
  constructor
  · intro h
    have hchars : identifierChars s.toList = s.toList := by
      rw [← toList_identifier]
      exact congrArg String.toList h
    rw [← hchars]
    exact ⟨dash_notMem_identifierChars _, dot_notMem_identifierChars _⟩
  · rintro ⟨hdash, hdot⟩
    rw [IsIdentifier, identifier, identifierChars_of_not_mem hdash hdot]
    exact String.ofList_toList

/-- A capitalized name is an identifier exactly if the name has no
delimiters. -/
theorem isIdentifier_capitalize {s : String} :
    IsIdentifier (capitalize s) ↔ '-' ∉ s.toList ∧ '.' ∉ s.toList := by
  have hmem : ∀ d, IsMark d → upperChar d = [d] →
      (d ∈ (capitalize s).toList ↔ d ∈ s.toList) := by
    intro d hmark hd
    rw [toList_capitalize]
    exact ⟨mem_of_mem_upperFirst hmark, mem_upperFirst_of_mem hd⟩
  rw [isIdentifier_iff, hmem '-' (by decide) (by decide),
    hmem '.' (by decide) (by decide)]

end Text

/-! ### Owners of enumerations -/

namespace Operation

/-- The names of the parameters of a document that promote an enumeration. -/
def promotingNames (onServer : Bool) (document : Fields) : List Value :=
  (all document).flatMap fun o =>
    ((o.kept onServer).filter Parameter.promotes).map Parameter.nameOf

theorem names_promotions (onServer : Bool) (document : Fields) :
    (promotions onServer document).map (·.name.text) =
      (promotingNames onServer document).map Value.enumName := by
  rw [promotions, promotingNames, List.map_flatMap, List.map_flatMap]
  congr 1
  funext o
  rw [Parameter.promotions, List.map_map, List.map_map]
  rfl

end Operation

namespace Definition

/-- The names of the properties of a document that declare an enumeration. -/
def declaringNames (document : Fields) : List Value :=
  (schemasOf document).flatMap fun e =>
    ((sources (e.2.fields?.getD [])).filter fun p =>
      Property.declares p.2).map (·.1)

theorem declaredNames_eq (document : Fields) :
    declaredNames document =
      (declaringNames document).map Value.enumName := by
  rw [declaredNames, declaringNames, List.map_flatMap]
  congr 1
  funext e
  rw [declaredIn, List.map_map]
  rfl

end Definition

namespace Service

/-- The names of the parameters and properties of a document that an enumeration
belongs to. -/
def owners (document : Fields) (onServer : Bool) : List Value :=
  Operation.promotingNames onServer document ++
    Definition.declaringNames document

/-- The names of all enumerations of a client. -/
def enumNames (s : Service) : List String :=
  s.enums.names ++ s.definitions.flatMap (·.enums.names) ++ s.modelEnums

/-- The names of all types that a client declares. -/
def typeNames (s : Service) : List String :=
  s.definitions.filterMap (·.name) ++ s.enumNames

/-- The enumerations of a client are called by the capitalized names of their
owners. Which of two enumerations of one name is kept makes no difference. -/
theorem mem_enumNames_iff {document : Fields} {onServer : Bool}
    {methods : List Method} {domain n : String} :
    n ∈ (of document onServer methods domain).enumNames ↔
      ∃ owner ∈ owners document onServer, owner.enumName = n := by
  have htable : n ∈ (tableOf document onServer).names ↔
      n ∈ (Operation.promotingNames onServer document).map Value.enumName ∧
        n ∉ Definition.declaredNames document := by
    rw [names_tableOf, List.mem_filter, List.mem_eraseDups,
      Operation.names_promotions]
    simp
  have hmodels : n ∈ modelEnumsOf (Definition.readAll document) ↔
      n ∈ Definition.declaredNames document := by
    rw [modelEnumsOf_readAll, List.mem_eraseDups]
  have hlocal : n ∈ (Definition.readAll document).flatMap (·.enums.names) ↔
      n ∈ Definition.declaredNames document := by
    rw [← hmodels, mem_modelEnumsOf_iff, List.mem_flatMap]
  have hnames : n ∈ (of document onServer methods domain).enumNames ↔
      n ∈ (Operation.promotingNames onServer document).map Value.enumName ∨
        n ∈ Definition.declaredNames document := by
    change n ∈ (tableOf document onServer).names ++
      (Definition.readAll document).flatMap (·.enums.names) ++
      modelEnumsOf (Definition.readAll document) ↔ _
    rw [List.mem_append, List.mem_append, htable, hlocal, hmodels]
    by_cases hdeclared : n ∈ Definition.declaredNames document
    · simp only [hdeclared, or_true]
    · simp only [hdeclared, not_false_eq_true, and_true, or_false]
  rw [hnames, Definition.declaredNames_eq, ← List.mem_append, ← List.map_append,
    List.mem_map]
  rfl

/-- Models are called by identifiers. -/
theorem isIdentifier_of_model {document : Fields} {n : String}
    (h : n ∈ (Definition.readAll document).filterMap (·.name)) :
    Text.IsIdentifier n := by
  obtain ⟨d, hd, hname⟩ := List.mem_filterMap.1 h
  obtain ⟨key, -, hkey⟩ := Definition.exists_key_of_mem hd
  obtain ⟨-, rfl⟩ := Value.identifier?_eq_some_iff.1 (hkey.symm.trans hname)
  exact Text.identifier_identifier _

/-- **The names of types.** Models are called by identifiers. All types of a
client are, its enumerations included, exactly if no parameter or property that
an enumeration belongs to has a delimiter in its name. -/
theorem typeNames_isIdentifier_iff {document : Fields} {onServer : Bool}
    {s : Service} (h : (build (.map document) onServer).outcome = .ok s) :
    (∀ n ∈ s.definitions.filterMap (·.name), Text.IsIdentifier n) ∧
    ((∀ n ∈ s.typeNames, Text.IsIdentifier n) ↔
      ∀ owner ∈ owners document onServer,
        '-' ∉ owner.text.toList ∧ '.' ∉ owner.text.toList) := by
  obtain ⟨methods, domain, -, -, rfl⟩ := build_outcome_eq_ok.1 h
  have hmodels : ∀ n ∈ (of document onServer methods domain).definitions.filterMap
      (·.name), Text.IsIdentifier n := fun _ hn => isIdentifier_of_model hn
  refine ⟨hmodels, ?_⟩
  constructor
  · intro hall owner howner
    refine Text.isIdentifier_capitalize.1 (hall owner.enumName ?_)
    exact List.mem_append_right _ (mem_enumNames_iff.2 ⟨owner, howner, rfl⟩)
  · intro hfree n hn
    rcases List.mem_append.1 hn with hn | hn
    · exact hmodels n hn
    · obtain ⟨owner, howner, rfl⟩ := mem_enumNames_iff.1 hn
      exact Text.isIdentifier_capitalize.2 (hfree owner howner)

/-- The owners in the shop have plain names, and so have its types. -/
theorem typeNames_isIdentifier_shop :
    ∃ s, (build (.map shop) false).outcome = .ok s ∧
      s.typeNames = ["salesOrder", "Line", "Status", "Size", "Size"] ∧
      ∀ n ∈ s.typeNames, Text.IsIdentifier n := by
  obtain ⟨s, hs⟩ : ∃ s, (build (.map shop) false).outcome = .ok s := ⟨_, rfl⟩
  have hnames : ((build (.map shop) false).outcome.toOption.all fun s =>
      s.typeNames == ["salesOrder", "Line", "Status", "Size", "Size"]) = true := by
    decide +kernel
  rw [hs] at hnames
  have howners : ∀ owner ∈ owners shop false,
      '-' ∉ owner.text.toList ∧ '.' ∉ owner.text.toList := by
    decide +kernel
  exact ⟨s, hs, beq_iff_eq.1 hnames,
    (typeNames_isIdentifier_iff hs).2.2 howners⟩

/-- A document with a parameter that has a dash in its name and is restricted to
two values. -/
def sorted : Fields :=
  [ (.str "paths", .map
      [ (.str "/pets", .map
          [ (.str "get", .map
              [ (.str "parameters", .list
                  [ .map
                      [ (.str "name", .str "sort-order"),
                        (.str "in", .str "query"), (.str "type", .str "string"),
                        (.str "enum", .list [.str "up", .str "down"]) ] ]) ]) ]) ]) ]

/-- A type may have a name with a delimiter in it. -/
theorem exists_delimited_type :
    ¬ ∀ (document : Fields) (onServer : Bool) (s : Service),
      (build (.map document) onServer).outcome = .ok s →
      ∀ n ∈ s.typeNames, Text.IsIdentifier n := by
  intro h
  obtain ⟨s, hs⟩ : ∃ s, (build (.map sorted) false).outcome = .ok s := ⟨_, rfl⟩
  have hnames : ((build (.map sorted) false).outcome.toOption.all fun s =>
      s.typeNames == ["Sort-order"]) = true := by
    decide +kernel
  rw [hs] at hnames
  have hmem : "Sort-order" ∈ s.typeNames := by
    rw [beq_iff_eq.1 hnames]
    exact List.mem_cons_self
  exact absurd (h sorted false s hs "Sort-order" hmem) (by decide)

end Service

end ClientGen
