import ClientGen.Proofs.Service
import ClientGen.Proofs.ServiceFile
import ClientGen.Template

/-!
# Signatures of methods

The arguments of a method are its parameters in another order: the required ones
come first (`pairwise_signature`), and within both parts the order of the
document is kept. An argument has a question mark or a default or neither, as
its parameter says (`Argument.Presents`). Hence the list can be called: what has
to be given never follows what may be left out (`MethodDecl.IsSigned`).

Every method of a client is written with such a signature, in whatever file it
is rendered (`signatures_of_build`).
-/

namespace ClientGen.TypeScript

/-! ### The order of the arguments -/

/-- A required parameter comes after required ones only. -/
theorem pairwise_signature (ps : List Parameter) :
    (signature ps).Pairwise fun p q => q.required = true → p.required = true := by
  rw [signature, List.pairwise_append]
  refine ⟨?_, ?_, ?_⟩
  · refine List.pairwise_of_forall_mem_list fun p hp q _ _ => ?_
    exact (List.mem_filter.1 hp).2
  · refine List.pairwise_of_forall_mem_list fun p _ q hq hrequired => ?_
    simp [hrequired] at hq
  · intro p hp q _ _
    exact (List.mem_filter.1 hp).2

/-! ### Arguments -/

/-- What an argument shows of its parameter. -/
structure Argument.Presents (p : Parameter) (a : Argument) : Prop where
  text : a.text =
    p.argument ++ (if a.isOptional then "?" else "") ++ ": " ++
      p.typescriptType ++ a.defaultValue.elim "" (" = " ++ ·)
  docLine : a.docLine =
    "     * @param " ++ p.argument ++ " " ++ p.description.text ++ "\n"
  /-- A question mark is for what is neither required nor given a default. -/
  isOptional : a.isOptional = true ↔ p.required = false ∧ p.singleton = none
  /-- A default is the literal of the only value. -/
  defaultValue : p.singleton = none ∧ a.defaultValue = none ∨
    ∃ v l, p.singleton = some v ∧ Json.literal? v = some l ∧
      a.defaultValue = some (String.ofList l)

/-- A parameter yields a default exactly if it has an only value, and no default
otherwise. -/
private theorem defaultOf_eq_ok {p : Parameter} {d : Option String}
    (h : Argument.defaultOf p = .ok d) :
    p.singleton = none ∧ d = none ∨
      ∃ v l, p.singleton = some v ∧ Json.literal? v = some l ∧
        d = some (String.ofList l) := by
  unfold Argument.defaultOf at h
  cases hsingleton : p.singleton with
  | none =>
    rw [hsingleton] at h
    cases h
    exact Or.inl ⟨rfl, rfl⟩
  | some v =>
    rw [hsingleton] at h
    cases hliteral : Json.literal? v with
    | none =>
      simp only [hliteral] at h
      cases h
    | some l =>
      simp only [hliteral] at h
      cases h
      exact Or.inr ⟨v, l, rfl, hliteral, rfl⟩

theorem Argument.presents_of_ofParameter {p : Parameter} {a : Argument}
    (h : ofParameter p = .ok a) : a.Presents p := by
  rw [ofParameter_eq] at h
  obtain ⟨d, hdefault, rfl⟩ := exists_of_map_eq_ok h
  exact {
    text := by cases d <;> rfl
    docLine := rfl
    isOptional := by simp [of]
    defaultValue := defaultOf_eq_ok hdefault }

/-- An argument that may be left out, or has a default. -/
def Argument.MayBeOmitted (a : Argument) : Prop :=
  a.isOptional = true ∨ a.defaultValue.isSome = true

/-- What is not required may be left out or has a default. -/
theorem Argument.Presents.mayBeOmitted {p : Parameter} {a : Argument}
    (h : a.Presents p) (hp : p.required = false) : a.MayBeOmitted := by
  rcases h.defaultValue with ⟨hnone, -⟩ | ⟨v, l, -, -, hdefault⟩
  · exact Or.inl (h.isOptional.2 ⟨hp, hnone⟩)
  · exact Or.inr (by rw [hdefault]; rfl)

/-! ### Declarations -/

/-- A declaration has the parameters of its method for arguments, the required
ones first. -/
structure MethodDecl.IsSigned (ps : List Parameter) (d : MethodDecl) : Prop where
  arguments : List.Forall₂ (fun p a => Argument.Presents p a)
    (ps.filter (·.required) ++ ps.filter (!·.required)) d.arguments
  length_arguments : d.arguments.length = ps.length
  /-- The lines of the comment are in the order of the arguments. -/
  comment : ∃ front, d.comment =
    front ++ String.join (d.arguments.map Argument.docLine) ++ "     */\n"
  /-- The arguments are separated by commas, with none at the end. -/
  opening : ∃ type, d.opening = "    public " ++ d.name ++ "(" ++
    ", ".intercalate (d.arguments.map Argument.text) ++ "): Observable<" ++
      type ++ "> \x7b\n"
  text : ∃ body, d.text = "\n" ++ d.comment ++ d.opening ++ body
  /-- What has to be given never follows what may be left out. -/
  pairwise : d.arguments.Pairwise fun a b =>
    a.isOptional = true → b.MayBeOmitted

/-- The line that opens a method comes after its comment. -/
private theorem MethodDecl.exists_text_eq (d : MethodDecl) :
    ∃ body, d.text = "\n" ++ d.comment ++ d.opening ++ body := by
  unfold text
  simp only [String.append_assoc, -String.reduceAppend]
  exact ⟨_, rfl⟩

theorem MethodDecl.isSigned_of_ofMethod {m : Method} {d : MethodDecl}
    (h : ofMethod m = .ok d) : d.IsSigned m.parameters := by
  obtain ⟨arguments, rfl, harguments⟩ := exists_of_ofMethod h
  have hpresents : List.Forall₂ (fun p a => Argument.Presents p a)
      (signature m.parameters) arguments :=
    harguments.imp fun _ _ => Argument.presents_of_ofParameter
  have hpairwise : arguments.Pairwise fun a b =>
      a.isOptional = true → b.MayBeOmitted := by
    refine Traced.pairwise_of_forall₂ hpresents
      (pairwise_signature m.parameters) ?_
    intro p q a b ha hb hrequired hoptional
    -- What has a question mark is not required, so neither is what follows.
    have hp := (ha.isOptional.1 hoptional).1
    refine hb.mayBeOmitted ?_
    cases hq : q.required with
    | false => rfl
    | true =>
      rw [hrequired hq] at hp
      cases hp
  exact {
    arguments := hpresents
    length_arguments :=
      hpresents.length_eq.symm.trans (signature_perm m.parameters).length_eq
    comment := ⟨_, rfl⟩
    opening := ⟨_, rfl⟩
    text := exists_text_eq _
    pairwise := hpairwise }

end ClientGen.TypeScript

namespace ClientGen.Service

open TypeScript

/-- The packaged view of a service is the text of its file. -/
theorem exists_file {s : Service} {text : String}
    (h : TemplateSet.packaged.service s = .ok text) :
    ∃ f, ServiceFile.ofService s = .ok f ∧ text = f.text := by
  unfold TemplateSet.service TemplateSet.choose at h
  cases hfile : ServiceFile.ofService s with
  | error e =>
    simp only [hfile] at h
    cases h
  | ok f =>
    simp only [hfile] at h
    cases h
    exact ⟨f, rfl, rfl⟩

/-- A document that becomes a service has a record for each parameter of its
operations, in order. A file that is rendered from any of its methods declares
each of them with a signature of these records. -/
theorem signatures_of_build {document : Fields} {onServer : Bool} {s : Service}
    (h : (build (.map document) onServer).outcome = .ok s) :
    List.Forall₂ (fun (o : Operation) (m : Method) =>
      List.Forall₂ (fun fields p =>
        ∃ last, p = { Parameter.read fields with isLast := last })
        (o.kept onServer) m.parameters) (Operation.all document) s.methods ∧
    ∀ ms ⊆ s.methods, ∀ text,
      TemplateSet.packaged.service { s with methods := ms } = .ok text →
      ∃ ds before after,
        List.Forall₂ (fun m d => MethodDecl.ofMethod m = .ok d ∧
          MethodDecl.IsSigned m.parameters d) ms ds ∧
        text = before ++ String.join (ds.map MethodDecl.text) ++ after := by
  obtain ⟨methods, domain, hmethods, -, rfl⟩ := build_outcome_eq_ok.1 h
  constructor
  · refine (Operation.forall₂_methodOf hmethods).imp ?_
    rintro o m ⟨-, path, verb, isJson, -, -, -, rfl⟩
    exact (Parameter.forall₂_readAll onServer o.listed).imp fun _ _ hp => hp.2
  · intro ms _ text htext
    obtain ⟨f, hfile, rfl⟩ := exists_file htext
    obtain ⟨ds, rfl, hds⟩ := ServiceFile.forall₂_of_ofService hfile
    refine ⟨ds, _, _, hds.imp fun m d hd => ?_, rfl⟩
    exact ⟨hd, MethodDecl.isSigned_of_ofMethod hd⟩

/-- A document with parameters of all kinds, none of them where its argument
is. -/
def mixed : Fields :=
  [ (.str "paths", .map
      [ (.str "/pets/\x7bid\x7d", .map
          [ (.str "get", .map
              [ (.str "parameters", .list
                  [ .map
                      [ (.str "name", .str "limit"), (.str "in", .str "query"),
                        (.str "type", .str "integer") ],
                    .map
                      [ (.str "name", .str "mode"), (.str "in", .str "query"),
                        (.str "type", .str "string"),
                        (.str "enum", .list [.str "fast"]) ],
                    .map
                      [ (.str "name", .str "id"), (.str "in", .str "path"),
                        (.str "required", .bool true),
                        (.str "type", .str "string") ],
                    .map
                      [ (.str "name", .str "api-version"),
                        (.str "in", .str "header"),
                        (.str "required", .bool true),
                        (.str "type", .str "integer"),
                        (.str "enum", .list [.int 2]) ],
                    .map
                      [ (.str "name", .str "tag"), (.str "in", .str "query"),
                        (.str "type", .str "string") ] ]) ]) ]) ]) ]

/-- The line that opens its method. -/
def mixedOpening : String :=
  "    public getPetsById(id: string, apiVersion: number = 2, " ++
    "limit?: number, mode: string = \"fast\", tag?: string): " ++
    "Observable<Response> \x7b\n"

theorem signatures_of_build_mixed :
    ∃ (s : Service) (m : Method) (d : MethodDecl) (before after : String),
      (build (.map mixed) false).outcome = .ok s ∧ s.methods = [m] ∧
      d.IsSigned m.parameters ∧ d.opening = mixedOpening ∧
      TemplateSet.packaged.service s = .ok (before ++ d.text ++ after) := by
  obtain ⟨s, hs⟩ : ∃ s, (build (.map mixed) false).outcome = .ok s := ⟨_, rfl⟩
  have hrendered : ((build (.map mixed) false).outcome.toOption.all fun s =>
      (TemplateSet.packaged.service s).toOption.isSome &&
        s.methods.map (fun m => (MethodDecl.ofMethod m).toOption.map (·.opening)) ==
          [some mixedOpening]) = true := by
    decide +kernel
  rw [hs] at hrendered
  obtain ⟨hsome, hopenings⟩ := Bool.and_eq_true_iff.1 hrendered
  obtain ⟨text, htext⟩ : ∃ text, TemplateSet.packaged.service s = .ok text := by
    cases htext : TemplateSet.packaged.service s with
    | ok text => exact ⟨text, rfl⟩
    | error e => rw [htext] at hsome; cases hsome
  obtain ⟨m, hmethods, hopening⟩ :=
    List.map_eq_singleton_iff.1 (beq_iff_eq.1 hopenings)
  obtain ⟨ds, before, after, hsigned, hlayout⟩ :=
    (signatures_of_build hs).2 s.methods (List.Subset.refl _) text htext
  rw [hmethods, List.forall₂_cons_left_iff] at hsigned
  obtain ⟨d, rest, ⟨hd, hdsigned⟩, hrest, rfl⟩ := hsigned
  rw [List.forall₂_nil_left_iff.1 hrest] at hlayout
  rw [hd] at hopening
  refine ⟨s, m, d, before, after, hs, hmethods, hdsigned,
    Option.some.inj hopening, ?_⟩
  rw [htext, hlayout]
  simp

end ClientGen.Service
