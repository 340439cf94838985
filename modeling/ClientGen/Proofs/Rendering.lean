import ClientGen.Proofs.Literal
import ClientGen.Proofs.Service
import ClientGen.Proofs.ServiceFile
import ClientGen.Template

/-!
# Rendering

The packaged views of a service are texts, with one exception: the service file
has the only value of a parameter as the default of its argument, written as a
literal, and not every value has one. From the argument to the file each stage
succeeds if all such values have a literal and otherwise fails for want of one
(`LiteralOr`), so that `render_outcome` can say which documents have a service
file.

That failure is not among those that are reported (`exists_unreported`): a date
in a document is enough to bring it about.
-/

namespace ClientGen

namespace TypeScript

/-! ### The stages of a service file -/

/-- A stage succeeds if a condition holds, and otherwise fails because a value
has no literal. -/
def LiteralOr {α : Type} (P : Prop) (x : Except Fault α) : Prop :=
  (P ∧ ∃ a, x = .ok a) ∨ (¬ P ∧ x = .error .notLiteral)

theorem LiteralOr.map {α β : Type} {P : Prop} {x : Except Fault α}
    (h : LiteralOr P x) (f : α → β) : LiteralOr P (x.map f) := by
  rcases h with ⟨hP, a, rfl⟩ | ⟨hP, rfl⟩
  · exact Or.inl ⟨hP, f a, rfl⟩
  · exact Or.inr ⟨hP, rfl⟩

theorem LiteralOr.congr {α : Type} {P Q : Prop} {x : Except Fault α}
    (h : LiteralOr P x) (hPQ : P ↔ Q) : LiteralOr Q x := by
  simpa only [LiteralOr, hPQ] using h

/-- A traversal succeeds if the conditions of all its steps hold. -/
theorem LiteralOr.mapM {α β : Type} {P : α → Prop} {f : α → Except Fault β}
    (as : List α) (h : ∀ a, LiteralOr (P a) (f a)) :
    LiteralOr (∀ a ∈ as, P a) (as.mapM f) := by
  induction as with
  | nil => exact Or.inl ⟨List.forall_mem_nil P, [], rfl⟩
  | cons a as ih =>
    rw [List.mapM_cons]
    rcases h a with ⟨ha, b, hb⟩ | ⟨ha, hb⟩
    · rcases ih with ⟨has, bs, hbs⟩ | ⟨has, hbs⟩
      · refine Or.inl ⟨List.forall_mem_cons.2 ⟨ha, has⟩, b :: bs, ?_⟩
        simp [hb, hbs, bind, Except.bind, pure, Except.pure]
      · refine Or.inr ⟨fun hall => has (List.forall_mem_cons.1 hall).2, ?_⟩
        simp [hb, hbs, bind, Except.bind]
    · refine Or.inr ⟨fun hall => ha (List.forall_mem_cons.1 hall).1, ?_⟩
      simp [hb, bind, Except.bind]

/-- The only value of a parameter, if it has one, has a literal. -/
def HasDefault (p : Parameter) : Prop :=
  ∀ v, p.singleton = some v → Json.HasLiteral v

theorem literalOr_defaultOf (p : Parameter) :
    LiteralOr (HasDefault p) (Argument.defaultOf p) := by
  unfold LiteralOr HasDefault Argument.defaultOf
  cases hsingleton : p.singleton with
  | none => simp
  | some v =>
    have hliteral := Json.isSome_literal?_iff v
    cases htext : Json.literal? v with
    | none =>
      have hnone : ¬ Json.HasLiteral v := by
        rw [← hliteral, htext]
        simp
      simp [hnone, htext]
    | some cs =>
      have hsome : Json.HasLiteral v := by
        rw [← hliteral, htext]
        rfl
      simp [hsome, htext]

theorem literalOr_ofParameter (p : Parameter) :
    LiteralOr (HasDefault p) (Argument.ofParameter p) := by
  rw [Argument.ofParameter_eq]
  exact (literalOr_defaultOf p).map _

theorem literalOr_ofMethod (m : Method) :
    LiteralOr (∀ p ∈ m.parameters, HasDefault p) (MethodDecl.ofMethod m) := by
  rw [MethodDecl.ofMethod_eq]
  have harguments := LiteralOr.mapM (signature m.parameters) literalOr_ofParameter
  simp only [mem_signature] at harguments
  exact harguments.map _

theorem literalOr_ofService (s : Service) :
    LiteralOr (∀ m ∈ s.methods, ∀ p ∈ m.parameters, HasDefault p)
      (ServiceFile.ofService s) := by
  rw [ServiceFile.ofService_eq]
  exact (LiteralOr.mapM s.methods literalOr_ofMethod).map _

end TypeScript

/-! ### The values that a document has for defaults -/

namespace Operation

/-- Whatever value a parameter of a document is restricted to alone has a
literal. -/
def HasDefaults (onServer : Bool) (document : Fields) : Prop :=
  ∀ o ∈ all document, ∀ p ∈ o.kept onServer,
    ∀ v, Parameter.allowedValues p = [v] → Json.HasLiteral v

theorem hasDefault_read (p : Fields) (last : Bool) :
    TypeScript.HasDefault { Parameter.read p with isLast := last } ↔
      ∀ v, Parameter.allowedValues p = [v] → Json.HasLiteral v := by
  have hsingleton : ∀ v, (Parameter.read p).singleton = some v ↔
      Parameter.allowedValues p = [v] := by
    intro v
    unfold Parameter.read
    match Parameter.allowedValues p with
    | [] => simp
    | [w] => simp
    | _ :: _ :: _ => simp
  simp only [TypeScript.HasDefault, hsingleton]

/-- The methods of a document have literals for their defaults exactly if its
parameters do. -/
theorem hasDefaults_iff {document : Fields} {onServer : Bool}
    {ms : List Method}
    (h : (Method.buildAll (.map document) onServer).outcome = .ok ms) :
    HasDefaults onServer document ↔
      ∀ m ∈ ms, ∀ p ∈ m.parameters, TypeScript.HasDefault p := by
  refine Traced.forall_mem_congr (forall₂_methodOf h) ?_
  rintro o m ⟨-, path, verb, isJson, -, -, -, rfl⟩
  refine Traced.forall_mem_congr (Parameter.forall₂_readAll onServer o.listed) ?_
  rintro p q ⟨-, last, rfl⟩
  exact (hasDefault_read p last).symm

end Operation

namespace Service

/-- **Rendering.** The views of the models and of their barrel are always
texts. That of the service is one exactly if all values that are defaults have a
literal, and else it fails because one has none. -/
theorem render_outcome {document : Fields} {onServer : Bool} {s : Service}
    (h : (build (.map document) onServer).outcome = .ok s) :
    (∃ text, TemplateSet.packaged.barrel s = .ok text) ∧
    (∀ d ∈ s.definitions, ∃ text, TemplateSet.packaged.model d = .ok text) ∧
    ((Operation.HasDefaults onServer document ∧
        ∃ text, TemplateSet.packaged.service s = .ok text) ∨
      (¬ Operation.HasDefaults onServer document ∧
        TemplateSet.packaged.service s = .error (.fault .notLiteral))) := by
  obtain ⟨methods, domain, hmethods, -, rfl⟩ := build_outcome_eq_ok.1 h
  refine ⟨⟨_, rfl⟩, fun d _ => ⟨_, rfl⟩, ?_⟩
  have hfile := (TypeScript.literalOr_ofService
    (of document onServer methods domain)).congr
      (Operation.hasDefaults_iff hmethods).symm
  rcases hfile with ⟨hdefaults, f, hf⟩ | ⟨hdefaults, hf⟩
  · refine Or.inl ⟨hdefaults, f.text, ?_⟩
    simp only [TemplateSet.service, TemplateSet.choose, hf]
  · refine Or.inr ⟨hdefaults, ?_⟩
    simp only [TemplateSet.service, TemplateSet.choose, hf]

/-- A document with one parameter that is restricted to one value. -/
def restricted (v : Value) : Fields :=
  [ (.str "paths", .map
      [ (.str "/pets", .map
          [ (.str "get", .map
              [ (.str "parameters", .list
                  [ .map
                      [ (.str "name", .str "since"), (.str "in", .str "query"),
                        (.str "type", .str "string"),
                        (.str "enum", .list [v]) ] ]) ]) ]) ]) ]

theorem hasDefaults_restricted {v : Value} (h : Json.HasLiteral v) :
    Operation.HasDefaults false (restricted v) := by
  intro o ho p hp w hw
  obtain rfl := List.mem_singleton.1 ho
  obtain rfl := List.mem_singleton.1 hp
  obtain rfl : v = w := (List.cons.inj hw).1
  exact h

/-- A mapping with numbers for keys, and a list in it, has a literal. -/
theorem render_outcome_restricted :
    ∃ s, (build (.map (restricted
        (.map [(.int 2, .list [.null, .str "a"]), (.bool true, .str "b")])))
      false).outcome = .ok s ∧
      ∃ text, TemplateSet.packaged.service s = .ok text := by
  have hliteral : Json.HasLiteral
      (.map [(.int 2, .list [.null, .str "a"]), (.bool true, .str "b")]) := by
    refine .map ?_ (Or.inr (Or.inl ?_))
    · simp only [List.forall_mem_cons]
      refine ⟨.list ?_, .str "b", List.forall_mem_nil _⟩
      simp only [List.forall_mem_cons]
      exact ⟨.null, .str "a", List.forall_mem_nil _⟩
    · decide
  obtain ⟨s, hs⟩ : ∃ s, (build (.map (restricted
      (.map [(.int 2, .list [.null, .str "a"]), (.bool true, .str "b")])))
        false).outcome = .ok s := ⟨_, rfl⟩
  obtain ⟨-, -, ⟨-, htext⟩ | ⟨hnone, -⟩⟩ := render_outcome hs
  · exact ⟨s, hs, htext⟩
  · exact absurd (hasDefaults_restricted hliteral) hnone

/-- A view may fail in a way that is not reported: a parameter is restricted to
a date. -/
theorem exists_unreported :
    ¬ ∀ (document : Fields) (onServer : Bool) (s : Service),
      (build (.map document) onServer).outcome = .ok s →
      ∀ f, TemplateSet.packaged.service s = .error f →
        ∃ name cause, f.report? = some (.render name cause) := by
  intro h
  obtain ⟨name, cause, hreport⟩ :=
    h (restricted (.date ⟨2020, 1, 2⟩)) false _ rfl (.fault .notLiteral) rfl
  cases hreport

end Service

end ClientGen
