import Mathlib.Data.List.Nodup
import ClientGen.Proofs.PathSpelling
import ClientGen.Proofs.Service

/-!
# The names of methods

Operations that ask for no name are named by their verbs and paths. Two of them
get one name exactly if their verbs are the same in lower case and their paths
are spelled alike (`nodup_methodNames_iff`).

For a client whose paths are plain it is enough that the document tells its
operations apart (`Distinguished`). Otherwise it is not: `/a-b` and `/a/b` are
two paths, and yet their methods have one name (`exists_methodName_clash`).
-/

namespace ClientGen

/-- What a method without a name of its own is told apart by: its verb, and the
spelling of its path. -/
def Method.signature (m : Method) : String × List Char :=
  (m.call, MethodName.pathSpelling m.path.toList)

namespace Operation

/-- What the method of an operation is told apart by. -/
def signature (o : Operation) : String × List Char :=
  (Text.lower o.verb.text, MethodName.pathSpelling o.path.text.toList)

/-- Whether an operation asks for no name. -/
def IsUnnamed (o : Operation) : Prop :=
  (o.fields.get MethodName.extensionField).truthy = false ∧
    (o.fields.get "operationId").truthy = false

instance (o : Operation) : Decidable o.IsUnnamed := by
  unfold IsUnnamed
  infer_instance

theorem IsUnnamed.explicit?_eq_none {o : Operation} (h : o.IsUnnamed) :
    MethodName.explicit? o.fields = none := by
  simp only [MethodName.explicit?, Value.orElse, h.1, Bool.false_eq_true,
    if_false, h.2]

/-- The operation that an entry of a path is has the path and the key of the
entry, and the key spells a verb. -/
private theorem atKey?_eq_some {path : Value} {shared : List Value}
    {entry : Value × Value} {o : Operation}
    (h : atKey? path shared entry = some o) :
    o.path = path ∧ o.verb = entry.1 ∧ ∃ verb, entry.1 = .str verb ∧
      Method.SpellsVerb verb.toList := by
  unfold atKey? at h
  split at h
  · next hverb =>
    obtain ⟨fields, -, rfl⟩ := Option.map_eq_some_iff.1 h
    refine ⟨rfl, rfl, ?_⟩
    rcases entry.1.text_or_none with ⟨verb, hstr⟩ | hnone
    · rw [hstr] at hverb
      exact ⟨verb, hstr, Method.isVerb_str.1 hverb⟩
    · cases hkey : entry.1 with
      | str verb => rw [hkey] at hnone; cases hnone
      | _ => rw [hkey] at hverb; cases hverb
  · cases h

private theorem mem_ofPath {entry : Value × Value} {o : Operation}
    (h : o ∈ ofPath entry) :
    o.path = entry.1 ∧ ∃ verb, o.verb = .str verb ∧
      Method.SpellsVerb verb.toList := by
  obtain ⟨e, -, hkey⟩ := List.mem_filterMap.1 h
  obtain ⟨hpath, hverb, verb, hstr, hspells⟩ := atKey?_eq_some hkey
  exact ⟨hpath, verb, hverb.trans hstr, hspells⟩

/-- The methods of a document and its operations, looked at in ways that agree
on each. -/
private theorem map_methods_eq {α : Type} {document : Fields} {onServer : Bool}
    {ms : List Method} {f : Method → α} {g : Operation → α}
    (h : (Method.buildAll (.map document) onServer).outcome = .ok ms)
    (hagree : ∀ o ∈ all document, ∀ path verb isJson, o.path = .str path →
      o.verb = .str verb →
      g o = f (o.methodOf document onServer path verb isJson)) :
    (all document).map g = ms.map f := by
  refine Traced.map_eq_of_forall₂ ((forall₂_methodOf h).imp ?_)
  rintro o m ⟨ho, path, verb, isJson, hpath, hverb, -, rfl⟩
  exact hagree o ho path verb isJson hpath hverb

end Operation

/-! ### Documents that tell their operations apart -/

/-- Whether two paths are equal up to a slash at the end. -/
def SameUpToSlash (path path' : List Char) : Prop :=
  path = path' ∨ path = path' ++ ['/'] ∨ path' = path ++ ['/']

instance (path path' : List Char) : Decidable (SameUpToSlash path path') := by
  unfold SameUpToSlash
  infer_instance

theorem sameUpToSlash_of_dropFinalSlash {path path' : List Char}
    (h : MethodName.dropFinalSlash path = MethodName.dropFinalSlash path') :
    SameUpToSlash path path' := by
  have hends : ∀ path, MethodName.dropFinalSlash path = path ∨
      path = MethodName.dropFinalSlash path ++ ['/'] := by
    intro path
    unfold MethodName.dropFinalSlash
    split
    · next hslash =>
      obtain ⟨rest, rfl⟩ := List.getLast?_eq_some_iff.1 (beq_iff_eq.1 hslash)
      rw [List.dropLast_concat]
      exact Or.inr rfl
    · exact Or.inl rfl
  rcases hends path with hpath | hpath <;>
    rcases hends path' with hpath' | hpath'
  · exact Or.inl (hpath.symm.trans (h.trans hpath'))
  · refine Or.inr (Or.inr ?_)
    rw [hpath', ← h, hpath]
  · refine Or.inr (Or.inl ?_)
    rw [hpath, h, hpath']
  · refine Or.inl ?_
    rw [hpath, hpath', h]

/-- Whether a path is a text that starts with a slash. -/
def Method.isRooted (path : Value) : Bool :=
  path.text?.any fun s => s.toList.head? == some '/'

theorem Method.head?_of_isRooted {path : Value} (h : isRooted path = true) :
    path.text.toList.head? = some '/' := by
  rcases path.text_or_none with ⟨s, rfl⟩ | hnone
  · rw [Value.text_str]
    exact beq_iff_eq.1 h
  · rw [isRooted, hnone] at h
    cases h

/-- The verb that a key of a path is, in upper case. -/
def Method.verb? (key : Value) : Option String :=
  if isVerb key then key.text?.map Text.upper else none

/-- A document whose paths start with a slash and are told apart by more than a
slash at the end, whose paths have each verb once, however it is spelled, and
whose operations ask for no names. -/
structure Distinguished (document : Fields) : Prop where
  rooted : ∀ e ∈ Method.pathsOf document, Method.isRooted e.1 = true
  apart : (Method.pathsOf document).Pairwise fun e e' =>
    ¬ SameUpToSlash e.1.text.toList e'.1.text.toList
  verbs : ∀ e ∈ Method.pathsOf document,
    (((e.2.fields?.getD []).map (·.1)).filterMap Method.verb?).Nodup
  unnamed : ∀ o ∈ Operation.all document, o.IsUnnamed

namespace Distinguished

open Operation

variable {document : Fields}

/-- The operations of one path differ in their verbs. -/
private theorem nodup_signature_ofPath (h : Distinguished document)
    {e : Value × Value} (he : e ∈ Method.pathsOf document) :
    ((ofPath e).map signature).Nodup := by
  have hverbs := h.verbs e he
  rw [List.Nodup, List.pairwise_filterMap, List.pairwise_map] at hverbs
  rw [List.Nodup, List.pairwise_map, ofPath, List.pairwise_filterMap]
  refine hverbs.imp ?_
  intro entry entry' hne o ho o' ho' hsame
  obtain ⟨-, hverb, verb, hkey, hspells⟩ := atKey?_eq_some ho
  obtain ⟨-, hverb', verb', hkey', hspells'⟩ := atKey?_eq_some ho'
  have hlower : Text.lowerChars verb.toList = Text.lowerChars verb'.toList := by
    have hfirst := congrArg Prod.fst hsame
    simp only [signature, hverb, hverb', hkey, hkey', Value.text_str] at hfirst
    exact String.ofList_injective hfirst
  have hupper : Text.upper verb = Text.upper verb' := by
    rw [Text.upper, Text.upper,
      ← Method.upperChars_lowerChars_of_spellsVerb hspells, hlower,
      Method.upperChars_lowerChars_of_spellsVerb hspells']
  have hkeyed : ∀ {key : Value} {v : String}, key = .str v →
      Method.SpellsVerb v.toList → Method.verb? key = some (Text.upper v) := by
    rintro _ v rfl hv
    rw [Method.verb?, if_pos (Method.isVerb_str.2 hv)]
    rfl
  exact hne _ (hkeyed hkey hspells) _ (hkeyed hkey' hspells') hupper

/-- Operations of plain paths are told apart. -/
private theorem nodup_signature (h : Distinguished document)
    (hplain : ∀ e ∈ Method.pathsOf document,
      MethodName.IsPlain e.1.text.toList) :
    ((all document).map signature).Nodup := by
  rw [all, List.map_flatMap, List.nodup_flatMap]
  refine ⟨fun e he => h.nodup_signature_ofPath he, ?_⟩
  refine h.apart.imp_of_mem ?_
  intro e e' he he' hapart sig hsig hsig'
  obtain ⟨o, ho, rfl⟩ := List.mem_map.1 hsig
  obtain ⟨o', ho', hsame⟩ := List.mem_map.1 hsig'
  have hroot := Method.head?_of_isRooted (h.rooted e he)
  have hroot' := Method.head?_of_isRooted (h.rooted e' he')
  have hspelled := congrArg Prod.snd hsame
  simp only [signature, (mem_ofPath ho).1, (mem_ofPath ho').1] at hspelled
  exact hapart (sameUpToSlash_of_dropFinalSlash
    (MethodName.pathSpelling_inj hroot hroot' (hplain e he) (hplain e' he')
      hspelled.symm))

end Distinguished

/-! ### Names and signatures -/

namespace Service

open Operation

/-- Methods that no operation asks a name for have one name if and only if they
have one signature. -/
private theorem nodup_names_iff {document : Fields} {onServer : Bool}
    {ms : List Method}
    (h : (Method.buildAll (.map document) onServer).outcome = .ok ms)
    (hunnamed : ∀ o ∈ all document, o.IsUnnamed) :
    (ms.map (·.name)).Nodup ↔ ((all document).map signature).Nodup := by
  have hnames : (all document).map
      (fun o => .str (MethodName.ofPath o.verb.text o.path.text)) =
        ms.map (·.name) := by
    refine map_methods_eq h ?_
    intro o ho path verb isJson hpath hverb
    rw [methodOf, (hunnamed o ho).explicit?_eq_none, hpath, hverb,
      Value.text_str, Value.text_str]
    rfl
  rw [← hnames, List.Nodup, List.Nodup, List.pairwise_map, List.pairwise_map]
  refine List.Pairwise.iff_of_mem ?_
  intro o o' ho ho'
  obtain ⟨-, verb, -, -, hverb, hspells, -⟩ := mem_all_iff.1 ho
  obtain ⟨-, verb', -, -, hverb', hspells', -⟩ := mem_all_iff.1 ho'
  rw [signature, signature, hverb, hverb', Value.text_str, Value.text_str, Ne,
    Ne, not_iff_not, Value.str.injEq, MethodName.ofPath_inj hspells hspells',
    Prod.mk.injEq]

/-- **The names of methods.** Methods have distinct names if and only if no two
of them have the same verb in lower case and paths that are spelled alike. Where
all paths are plain, they have distinct names. -/
theorem nodup_methodNames_iff {document : Fields} {onServer : Bool}
    {s : Service} (h : (build (.map document) onServer).outcome = .ok s)
    (hd : Distinguished document) :
    ((s.methods.map (·.name)).Nodup ↔
      (s.methods.map Method.signature).Nodup) ∧
    ((∀ e ∈ Method.pathsOf document, MethodName.IsPlain e.1.text.toList) →
      (s.methods.map (·.name)).Nodup) := by
  obtain ⟨methods, domain, hmethods, -, rfl⟩ := build_outcome_eq_ok.1 h
  have hnames := nodup_names_iff hmethods hd.unnamed
  have hsignatures : (all document).map signature =
      methods.map Method.signature := by
    refine map_methods_eq hmethods ?_
    intro o ho path verb isJson hpath hverb
    rw [signature, hpath, hverb, Value.text_str, Value.text_str]
    rfl
  constructor
  · rw [hsignatures] at hnames
    exact hnames
  · intro hplain
    exact hnames.2 (hd.nodup_signature hplain)

/-- A document with a path of pets, one of each pet, and one of its owners. -/
def pets : Fields :=
  [ (.str "paths", .map
      [ (.str "/pets", .map
          [ (.str "get", .map []), (.str "post", .map []) ]),
        (.str "/pets/\x7bid\x7d", .map
          [ (.str "get", .map []), (.str "DELETE", .map []) ]),
        (.str "/pets/\x7bid\x7d/owners/", .map
          [ (.str "get", .map []) ]) ]) ]

/-- The paths of pets are plain, and so no two methods have one name. -/
theorem nodup_methodNames_pets :
    ∃ s, (build (.map pets) false).outcome = .ok s ∧
      s.methods.map (·.name.text) =
        ["getPets", "postPets", "getPetsById", "deletePetsById",
          "getPetsByIdOwners"] ∧
      (s.methods.map (·.name)).Nodup := by
  obtain ⟨s, hs⟩ : ∃ s, (build (.map pets) false).outcome = .ok s := ⟨_, rfl⟩
  have hnames : ((build (.map pets) false).outcome.toOption.all fun s =>
      s.methods.map (·.name.text) ==
        ["getPets", "postPets", "getPetsById", "deletePetsById",
          "getPetsByIdOwners"]) = true := by
    decide +kernel
  rw [hs] at hnames
  have hd : Distinguished pets :=
    ⟨by decide +kernel, by decide +kernel, by decide +kernel, by decide +kernel⟩
  have hsegments : ∀ segment ∈ (Method.pathsOf pets).flatMap (fun e =>
      MethodName.segments e.1.text.toList), segment = "pets".toList ∨
        segment = "\x7bid\x7d".toList ∨ segment = "owners".toList := by
    decide +kernel
  have hplain : ∀ e ∈ Method.pathsOf pets,
      MethodName.IsPlain e.1.text.toList := by
    intro e he segment hsegment
    rcases hsegments segment (List.mem_flatMap.2 ⟨e, he, hsegment⟩) with
      rfl | rfl | rfl
    · exact .word (by decide) (by decide)
    · exact .slot (w := "id".toList) (by decide)
    · exact .word (by decide) (by decide)
  exact ⟨s, hs, beq_iff_eq.1 hnames, (nodup_methodNames_iff hs hd).2 hplain⟩

/-- A document with two paths that are divided in one place, by a dash and by a
slash. -/
def divided : Fields :=
  [ (.str "paths", .map
      [ (.str "/a-b", .map [(.str "get", .map [])]),
        (.str "/a/b", .map [(.str "get", .map [])]) ]) ]

/-- Operations that are told apart may get methods of one name. -/
theorem exists_methodName_clash :
    ¬ ∀ (document : Fields) (onServer : Bool) (s : Service),
      (build (.map document) onServer).outcome = .ok s →
      Distinguished document → (s.methods.map (·.name)).Nodup := by
  intro h
  obtain ⟨s, hs⟩ : ∃ s, (build (.map divided) false).outcome = .ok s := ⟨_, rfl⟩
  have hd : Distinguished divided :=
    ⟨by decide +kernel, by decide +kernel, by decide +kernel, by decide +kernel⟩
  have hnodup := h divided false s hs hd
  obtain ⟨methods, domain, hmethods, -, rfl⟩ := build_outcome_eq_ok.1 hs
  have hsame : ¬ ((all divided).map signature).Nodup := by
    decide +kernel
  exact hsame ((nodup_names_iff hmethods hd.unnamed).1 hnodup)

end Service

end ClientGen
