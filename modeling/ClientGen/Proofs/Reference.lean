import ClientGen.Proofs.Identifier
import ClientGen.Proofs.Service

/-!
# References to definitions

A reference points at a definition if it is the key of the definition, or the
path to it. Provided that keys have no slashes, the type of such a reference is
the identifier of the key (`referenceType_of_resolves`), which is what the
model of the definition is called (`exists_named`). So a reference and the
model that it points at agree on one name, although each puts the key into
another form on its own.
-/

namespace ClientGen

namespace Definition

/-- The keys of the definitions of a document. -/
def keys (document : Fields) : List Value := (schemasOf document).map (·.1)

/-- Keys are texts without slashes that have an identifier. -/
def WellKeyed (document : Fields) : Prop :=
  ∀ key ∈ keys document,
    ∃ k, key = .str k ∧ '/' ∉ k.toList ∧ Text.identifier k ≠ ""

/-- A reference points at a definition: it is its key or the path to it. -/
def Resolves (document : Fields) (ref : Value) : Prop :=
  ∃ k, .str k ∈ keys document ∧
    (ref = .str k ∨ ref = .str ("#/definitions/" ++ k))

/-! ### The names of models -/

/-- Models are called by the identifiers of their keys. -/
theorem names_readAll (document : Fields) :
    (readAll document).map (·.name) =
      (keys document).map Value.identifier? := by
  rw [keys, List.map_map]
  refine (Traced.map_eq_of_forall₂ ((forall₂_readAll document).imp ?_)).symm
  rintro entry d ⟨last, rfl⟩
  rfl

/-- Every key has a model that is called by its identifier. -/
theorem exists_model_of_key {document : Fields} {key : Value}
    (h : key ∈ keys document) :
    ∃ d ∈ readAll document, d.name = key.identifier? := by
  have hname : key.identifier? ∈ (readAll document).map (·.name) := by
    rw [names_readAll]
    exact List.mem_map.2 ⟨key, h, rfl⟩
  exact List.mem_map.1 hname

/-- Every key that is a text has a model of its name. -/
theorem exists_named {document : Fields} {k : String}
    (h : .str k ∈ keys document) :
    ∃ d ∈ readAll document, d.name = some (Text.identifier k) :=
  exists_model_of_key h

/-- Every model is called by the identifier of a key. -/
theorem exists_key_of_mem {document : Fields} {d : Definition}
    (hd : d ∈ readAll document) :
    ∃ key ∈ keys document, d.name = key.identifier? := by
  have hname : d.name ∈ (readAll document).map (·.name) :=
    List.mem_map.2 ⟨d, hd, rfl⟩
  rw [names_readAll] at hname
  obtain ⟨key, hkey, hsame⟩ := List.mem_map.1 hname
  exact ⟨key, hkey, hsame.symm⟩

/-- Where all keys are texts, every model is called by that of one of them. -/
theorem exists_key {document : Fields} (hkeys : WellKeyed document)
    {d : Definition} (hd : d ∈ readAll document) :
    ∃ k, .str k ∈ keys document ∧ '/' ∉ k.toList ∧
      d.name = some (Text.identifier k) := by
  obtain ⟨key, hkey, hname⟩ := exists_key_of_mem hd
  obtain ⟨k, rfl, hslash, -⟩ := hkeys key hkey
  exact ⟨k, hkey, hslash, hname⟩

/-- Every model is read from an entry of the document. -/
theorem exists_entry {document : Fields} {d : Definition}
    (hd : d ∈ readAll document) :
    ∃ e ∈ schemasOf document, ∃ last,
      d = { read e.1 (e.2.fields?.getD []) with isLast := last } :=
  Traced.exists_of_mem_right (forall₂_readAll document) hd

end Definition

/-! ### The types of references -/

namespace Schema

/-- A text without slashes points at what it says. -/
theorem referenceTarget_of_slash_notMem {k : String} (h : '/' ∉ k.toList) :
    referenceTarget k = k := by
  rw [referenceTarget, List.splitOn_eq_singleton h]
  exact String.ofList_toList

/-- The path to a definition is divided before its key, and then as the key
is. -/
private theorem splitOn_path (k : String) :
    ("#/definitions/" ++ k).toList.splitOn '/' =
      ['#'] :: "definitions".toList :: k.toList.splitOn '/' := by
  have hchars : ("#/definitions/" ++ k).toList =
      ['#'] ++ '/' :: ("definitions".toList ++ '/' :: k.toList) := by
    rw [String.toList_append]
    rfl
  rw [hchars, List.splitOn_append_cons_self_of_not_mem (by decide),
    List.splitOn_append_cons_self_of_not_mem (by decide)]

/-- The path to a definition points at its key. -/
theorem referenceTarget_path {k : String} (h : '/' ∉ k.toList) :
    referenceTarget ("#/definitions/" ++ k) = k := by
  rw [referenceTarget, splitOn_path, List.splitOn_eq_singleton h]
  exact String.ofList_toList

/-- If the key has slashes, there are too many pieces, and the path points at the
first of them. -/
theorem referenceTarget_path_of_slash_mem {k : String} (h : '/' ∈ k.toList) :
    referenceTarget ("#/definitions/" ++ k) = "#" := by
  obtain ⟨before, after, hk, hbefore⟩ := List.eq_append_cons_of_mem h
  rw [referenceTarget, splitOn_path, hk,
    List.splitOn_append_cons_self_of_not_mem hbefore]
  cases hafter : after.splitOn '/' with
  | nil => exact absurd hafter (List.splitOn_ne_nil '/' after)
  | cons _ _ => rfl

/-- A reference that points at a definition is of the type that the key of the
definition names. -/
theorem referenceType_of_resolves {document : Fields}
    (hkeys : Definition.WellKeyed document) {ref : Value}
    (h : Definition.Resolves document ref) :
    ∃ k, .str k ∈ Definition.keys document ∧
      referenceType ref = Text.identifier k := by
  obtain ⟨k, hk, href⟩ := h
  obtain ⟨k', hsame, hslash, hname⟩ := hkeys _ hk
  cases hsame
  refine ⟨k, hk, ?_⟩
  rcases href with rfl | rfl
  · rw [referenceType, referenceTarget_of_slash_notMem hslash]
    exact if_neg hname
  · rw [referenceType, referenceTarget_path hslash]
    exact if_neg hname

end Schema

namespace Service

/-- A service has a model of a name. -/
def HasModel (s : Service) (n : String) : Prop :=
  ∃ d ∈ s.definitions, d.name = some n

/-- A service has a model for each definition of a document. -/
def HasModels (s : Service) (document : Fields) : Prop :=
  ∀ k, .str k ∈ Definition.keys document → s.HasModel (Text.identifier k)

theorem hasModels_of (document : Fields) (onServer : Bool)
    (methods : List Method) (domain : String) :
    (of document onServer methods domain).HasModels document :=
  fun _ hk => Definition.exists_named hk

/-! ### The references of the small document -/

theorem wellKeyed_shop : Definition.WellKeyed shop := by
  intro key hkey
  have hkeys : Definition.keys shop = [.str "sales-order", .str "Line"] := rfl
  rw [hkeys, List.mem_cons, List.mem_singleton] at hkey
  rcases hkey with rfl | rfl
  · exact ⟨_, rfl, by decide, by decide +kernel⟩
  · exact ⟨_, rfl, by decide, by decide +kernel⟩

theorem resolves_order_shop :
    Definition.Resolves shop (.str "sales-order") :=
  ⟨"sales-order", List.mem_cons_self, Or.inl rfl⟩

theorem resolves_orderPath_shop :
    Definition.Resolves shop (.str "#/definitions/sales-order") :=
  ⟨"sales-order", List.mem_cons_self,
    Or.inr (congrArg Value.str (by decide))⟩

theorem resolves_line_shop :
    Definition.Resolves shop (.str "#/definitions/Line") :=
  ⟨"Line", List.mem_cons_of_mem _ List.mem_cons_self,
    Or.inr (congrArg Value.str (by decide))⟩

end Service

end ClientGen
