import ClientGen.Proofs.Service
import ClientGen.Session

/-!
# Records of their own

All parts of a document are read with one table of enumerations in hand
(`build_eq_buildInHand`), and yet a record says nothing of the table or of the
other parts. `built_alone` puts it in two ways: each operation and each
definition of a document has exactly one record, which is what reading that part
alone yields from any table; and whatever becomes of the paths and definitions
around it, the record stays the same. Only the mark of the last definition tells
where it stands.

What a record takes from the document around it are two fields
(`isJson_congr`, `methodOf_congr`), neither of which holds the paths or the
definitions.
-/

namespace ClientGen

open Traced

/-! ### What a record takes from its document -/

/-- Two documents have the same fields, but for their paths and
definitions. -/
def Fields.SameRest (document document' : Fields) : Prop :=
  ∀ name, name ≠ "paths" → name ≠ "definitions" →
    document.get? name = document'.get? name

namespace Operation

variable {document document' : Fields}

private theorem isJson_congr (h : document.SameRest document')
    (operation : Fields) :
    Response.isJson operation (.map document) =
      Response.isJson operation (.map document') := by
  have hproduces : document.get? "produces" = document'.get? "produces" :=
    h "produces" (by decide) (by decide)
  have hmedia : Response.produced operation (.map document) =
      Response.produced operation (.map document') := by
    simp only [Response.produced, Value.fields?, Fields.get, hproduces]
    rfl
  rw [Response.isJson, Response.isJson, hmedia]

private theorem methodOf_congr (h : document.SameRest document')
    (onServer : Bool) (o : Operation) (path verb : String) (isJson : Bool) :
    o.methodOf document onServer path verb isJson =
      o.methodOf document' onServer path verb isJson := by
  have hsecurity : document.has "security" = document'.has "security" :=
    congrArg Option.isSome (h "security" (by decide) (by decide))
  rw [methodOf, methodOf, hsecurity]

/-- The same operation becomes the same method in documents that have the same
fields but for their paths and definitions. -/
theorem build_outcome_congr (h : document.SameRest document')
    (onServer : Bool) (o : Operation) :
    (o.build document onServer).outcome =
      (o.build document' onServer).outcome := by
  rcases o.verb.text_or_none with ⟨verb, hverb⟩ | hverb
  · rcases o.path.text_or_none with ⟨path, hpath⟩ | hpath
    · have hmethod : o.methodOf document onServer path verb =
          o.methodOf document' onServer path verb :=
        funext fun isJson => methodOf_congr h onServer o path verb isJson
      rw [build_eq document onServer o hpath hverb,
        build_eq document' onServer o hpath hverb, isJson_congr h, hmethod]
    · rw [build_of_path document onServer o hverb hpath,
        build_of_path document' onServer o hverb hpath]
  · rw [build_of_verb document onServer o hverb,
      build_of_verb document' onServer o hverb]

/-- The step that reads one operation of a document. -/
def step (document : Fields) (onServer : Bool) (o : Operation) : Session.Step :=
  .method (.map document) o.path o.verb (.map o.fields) (.list o.shared)
    onServer

/-- Reading one operation answers with its method, whatever the table. -/
theorem answer_step {onServer : Bool} {o : Operation} {m : Method}
    (h : (o.build document onServer).outcome = .ok m) (t : EnumTable) :
    ((o.step document onServer).run t).1 = .ok (.method m) :=
  congrArg (Except.map Session.Answer.method) h

end Operation

/-! ### The mark of the last definition -/

namespace Definition

/-- The mark is set on the last definition, and no other one changes. -/
theorem getElem?_markLast (ds : List Definition) (i : Nat) :
    (markLast ds)[i]? = ds[i]?.map fun d =>
      { d with isLast := d.isLast || decide (i + 1 = ds.length) } := by
  fun_induction markLast ds generalizing i with
  | case1 => rfl
  | case2 d =>
    cases i with
    | zero => simp
    | succ i => rfl
  | case3 d rest hrest ih =>
    cases i with
    | zero =>
      have hmore : rest ≠ [] := hrest
      simp [hmore]
    | succ i =>
      have hlast : i + 1 + 1 = (d :: rest).length ↔ i + 1 = rest.length := by
        rw [List.length_cons]
        omega
      rw [List.getElem?_cons_succ, List.getElem?_cons_succ, ih]
      simp only [hlast]

/-- The definition that an entry of a document is, read alone. A schema that is
no mapping says nothing. -/
def ofEntry (entry : Value × Value) : Definition :=
  read entry.1 (entry.2.fields?.getD [])

/-- The step that reads one definition. -/
def step (entry : Value × Value) : Session.Step :=
  .definition entry.1 (.map (entry.2.fields?.getD []))

/-- Reading one definition answers with it, whatever the table. -/
theorem answer_step (entry : Value × Value) (t : EnumTable) :
    ((step entry).run t).1 = .ok (.definition (ofEntry entry)) := rfl

/-- The definitions of a document, one by one. -/
theorem getElem?_readAll (document : Fields) (i : Nat) :
    (readAll document)[i]? = (schemasOf document)[i]?.map fun e =>
      { ofEntry e with
        isLast := decide (i + 1 = (schemasOf document).length) } := by
  have hread : readAll document =
      markLast ((schemasOf document).map ofEntry) := rfl
  rw [hread, getElem?_markLast, List.getElem?_map, List.length_map,
    Option.map_map]
  rfl

end Definition

/-! ### The records of a service -/

namespace Service

open Definition (schemasOf)

/-- A service has one record for each operation and each definition of a
document, in its order. A record is the answer to reading that part alone,
whatever the table; of the definitions, the last one is marked in addition. -/
structure ReadAlone (document : Fields) (onServer : Bool) (s : Service) :
    Prop where
  methods : List.Forall₂
    (fun o m => ∀ t, ((o.step document onServer).run t).1 = .ok (.method m))
    (Operation.all document) s.methods
  count : s.definitions.length = (schemasOf document).length
  definitions : ∀ (i : Nat) (e : Value × Value),
    (schemasOf document)[i]? = some e →
    ∃ d, (∀ t, ((Definition.step e).run t).1 = .ok (.definition d)) ∧
      s.definitions[i]? =
        some { d with isLast := decide (i + 1 = (schemasOf document).length) }

/-- Wherever an operation or a definition stands in two documents, its records
are the same, but for the mark of the last definition. -/
structure SameRecords (document document' : Fields) (s s' : Service) :
    Prop where
  methods : ∀ (i j : Nat) (o : Operation),
    (Operation.all document)[i]? = some o →
    (Operation.all document')[j]? = some o →
    ∃ m, s.methods[i]? = some m ∧ s'.methods[j]? = some m
  definitions : ∀ (i j : Nat) (e : Value × Value),
    (schemasOf document)[i]? = some e →
    (schemasOf document')[j]? = some e →
    ∃ (d : Definition) (last last' : Bool),
      s.definitions[i]? = some { d with isLast := last } ∧
      s'.definitions[j]? = some { d with isLast := last' }

/-- The method of an operation, found by its index. -/
private theorem getElem?_methods {document : Fields} {onServer : Bool}
    {s : Service} (h : (build (.map document) onServer).outcome = .ok s)
    {i : Nat} {o : Operation} (ho : (Operation.all document)[i]? = some o) :
    ∃ m, s.methods[i]? = some m ∧
      (o.build document onServer).outcome = .ok m := by
  obtain ⟨methods, domain, hmethods, -, rfl⟩ := build_outcome_eq_ok.1 h
  change ∃ m, methods[i]? = some m ∧ _
  have hforall := Operation.forall₂_buildAll hmethods
  obtain ⟨hi, rfl⟩ := List.getElem?_eq_some_iff.1 ho
  have hi' : i < methods.length := hforall.length_eq ▸ hi
  exact ⟨methods[i], List.getElem?_eq_getElem hi', hforall.get hi hi'⟩

private theorem getElem?_definitions {document : Fields} {onServer : Bool}
    {s : Service} (h : (build (.map document) onServer).outcome = .ok s)
    {i : Nat} {e : Value × Value} (he : (schemasOf document)[i]? = some e) :
    s.definitions[i]? = some { Definition.ofEntry e with
      isLast := decide (i + 1 = (schemasOf document).length) } := by
  obtain ⟨methods, domain, -, -, rfl⟩ := build_outcome_eq_ok.1 h
  change (Definition.readAll document)[i]? = _
  rw [Definition.getElem?_readAll, he]
  rfl

private theorem readAlone_of_build {document : Fields} {onServer : Bool}
    {s : Service} (h : (build (.map document) onServer).outcome = .ok s) :
    ReadAlone document onServer s := by
  obtain ⟨methods, domain, hmethods, -, hs⟩ := build_outcome_eq_ok.1 h
  refine { methods := ?_, count := ?_, definitions := ?_ }
  · subst hs
    exact (Operation.forall₂_buildAll hmethods).imp fun o m hm t =>
      Operation.answer_step hm t
  · subst hs
    exact (Definition.length_markLast _).trans (List.length_map _)
  · intro i e he
    exact ⟨Definition.ofEntry e, Definition.answer_step e,
      getElem?_definitions h he⟩

private theorem sameRecords_of_build {document document' : Fields}
    {onServer : Bool} {s s' : Service} (hrest : document.SameRest document')
    (h : (build (.map document) onServer).outcome = .ok s)
    (h' : (build (.map document') onServer).outcome = .ok s') :
    SameRecords document document' s s' := by
  refine { methods := ?_, definitions := ?_ }
  · intro i j o hi hj
    obtain ⟨m, hm, hbuilt⟩ := getElem?_methods h hi
    obtain ⟨m', hm', hbuilt'⟩ := getElem?_methods h' hj
    have hsame := hbuilt.symm.trans
      ((Operation.build_outcome_congr hrest onServer o).trans hbuilt')
    cases hsame
    exact ⟨m, hm, hm'⟩
  · intro i j e hi hj
    exact ⟨Definition.ofEntry e, _, _, getElem?_definitions h hi,
      getElem?_definitions h' hj⟩

/-- **Records of their own.** A service that is built has exactly one record
for each operation and each definition of its document, in order, and each is
what reading that part alone yields. Whatever is added to the paths and the
definitions, removed from them or reordered, what remains keeps its records,
but for the mark of the last definition. -/
theorem built_alone {document : Fields} {onServer : Bool} {s : Service}
    (h : (build (.map document) onServer).outcome = .ok s) :
    ReadAlone document onServer s ∧
      ∀ document' s', document.SameRest document' →
        (build (.map document') onServer).outcome = .ok s' →
        SameRecords document document' s s' :=
  ⟨readAlone_of_build h, fun _ _ hrest h' => sameRecords_of_build hrest h h'⟩

/-- The shop with one more path before the others, and its definitions the
other way round. -/
def shopTurned : Fields :=
  [ (.str "paths", .map
      ((.str "/health", .map [ (.str "get", .map []) ]) ::
        Method.pathsOf shop)),
    (.str "definitions", .map (schemasOf shop).reverse) ]

/-- In the shop that is turned round the first method and the first definition
are found again, each in its new place. -/
theorem built_alone_shop :
    ∃ s s', (build (.map shop) false).outcome = .ok s ∧
      (build (.map shopTurned) false).outcome = .ok s' ∧
      ReadAlone shop false s ∧ s.methods.length = 2 ∧
      (∃ m, s.methods[0]? = some m ∧ s'.methods[1]? = some m) ∧
      ∃ (d : Definition) (last last' : Bool),
        s.definitions[0]? = some { d with isLast := last } ∧
        s'.definitions[1]? = some { d with isLast := last' } := by
  obtain ⟨s, hs⟩ : ∃ s, (build (.map shop) false).outcome = .ok s := ⟨_, rfl⟩
  obtain ⟨s', hs'⟩ : ∃ s', (build (.map shopTurned) false).outcome = .ok s' :=
    ⟨_, rfl⟩
  have hrest : shop.SameRest shopTurned := by
    intro name hpaths hdefinitions
    simp [shop, shopTurned, Fields.get?_cons_str, Ne.symm hpaths,
      Ne.symm hdefinitions]
  obtain ⟨halone, hlocal⟩ := built_alone hs
  have hcount : (Operation.all shop).length = 2 := rfl
  have hsame := hlocal shopTurned s' hrest hs'
  refine ⟨s, s', hs, hs', halone, halone.methods.length_eq ▸ hcount, ?_, ?_⟩
  · exact hsame.methods 0 1 _ rfl rfl
  · exact hsame.definitions 0 1 _ rfl rfl

end Service

end ClientGen
