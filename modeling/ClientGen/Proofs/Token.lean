import ClientGen.Proofs.Service
import ClientGen.Proofs.ServiceFile

/-!
# The token

A method that asks for security sends a token, which it reads from a field of
the class. The class declares the field if the document has definitions of
security. The two are decided apart, by different fields of the document, and
so a client may read a token that it does not declare (`exists_undeclared_token`).
`token_declared_iff` says when this cannot happen, and that the texts of the
class and of its methods have the lines on the token exactly as these flags say.
-/

namespace ClientGen

namespace TypeScript

/-- The text of a method sends the token as the flag says: the lines are there
or not, and all else is the same. -/
def MethodDecl.SendsToken (d : MethodDecl) (secure : Bool) : Prop :=
  d.isSecure = secure ∧ ∃ before after, ∀ b,
    ({ d with isSecure := b } : MethodDecl).text =
      before ++ (if b then tokenUse else "") ++ after

/-- The text of a file declares the token, and how it is set, as the flag
says. -/
def ServiceFile.DeclaresToken (f : ServiceFile) (secure : Bool) : Prop :=
  f.isSecure = secure ∧ ∃ before between after, ∀ b,
    ({ f with isSecure := b } : ServiceFile).text =
      before ++ (if b then tokenField else "") ++ between ++
        (if b then tokenSetter else "") ++ after

theorem MethodDecl.sendsToken (d : MethodDecl) : d.SendsToken d.isSecure := by
  refine ⟨rfl, d.start ++ String.join (d.setters.map Setter.text), d.finish, ?_⟩
  intro b
  rw [MethodDecl.text_eq]
  rfl

theorem ServiceFile.declaresToken (f : ServiceFile) :
    f.DeclaresToken f.isSecure := by
  refine ⟨rfl, f.start ++ String.join (f.enums.map EnumDecl.text) ++
    f.classOpening, f.constructorLines,
    String.join (f.methods.map MethodDecl.text) ++ "\x7d\n", ?_⟩
  intro b
  rw [ServiceFile.text_eq, String.append_assoc]
  rfl

end TypeScript

namespace Service

open TypeScript

/-- **The token.** A client declares the token that its methods read exactly if
the document defines security or neither it nor one of its operations asks for
it. -/
theorem token_declared_iff {document : Fields} {onServer : Bool} {s : Service}
    (h : (build (.map document) onServer).outcome = .ok s) :
    ((∀ m ∈ s.methods, m.isSecure = true → s.isSecure = true) ↔
      document.has "securityDefinitions" = true ∨
        ∀ o ∈ Operation.all document,
          document.has "security" = false ∧ o.fields.has "security" = false) ∧
    ∀ f, ServiceFile.ofService s = .ok f →
      f.DeclaresToken s.isSecure ∧
        List.Forall₂ (fun m d => d.SendsToken m.isSecure) s.methods f.methods := by
  obtain ⟨methods, domain, hmethods, -, rfl⟩ := build_outcome_eq_ok.1 h
  constructor
  · have hsecure : ∀ o m, (o ∈ Operation.all document ∧
        ∃ path verb isJson, o.path = .str path ∧ o.verb = .str verb ∧
          Response.isJson o.fields (.map document) = .ok isJson ∧
          m = o.methodOf document onServer path verb isJson) →
        ((document.has "securityDefinitions" = true ∨
            (document.has "security" = false ∧
              o.fields.has "security" = false)) ↔
          (m.isSecure = true → document.has "securityDefinitions" = true)) := by
      rintro o m ⟨-, path, verb, isJson, -, -, -, rfl⟩
      simp only [Operation.methodOf]
      cases document.has "securityDefinitions" <;>
        cases document.has "security" <;> simp
    have hall := Traced.forall_mem_congr
      (Operation.forall₂_methodOf hmethods) hsecure
    show (∀ m ∈ methods, m.isSecure = true →
      document.has "securityDefinitions" = true) ↔ _
    rw [← hall]
    by_cases hdefined : document.has "securityDefinitions" = true
    · simp [hdefined]
    · simp [hdefined]
  · intro f hf
    obtain ⟨ds, rfl, hds⟩ := ServiceFile.exists_of_ofService hf
    refine ⟨ServiceFile.declaresToken _, hds.imp fun m d hd => ?_⟩
    obtain ⟨arguments, rfl⟩ := hd
    exact MethodDecl.sendsToken _

/-- A document with one operation, and fields that ask for security, next to its
paths and in the operation. -/
def securable (own : Fields) (around : Fields) : Fields :=
  (.str "paths", .map [(.str "/pets", .map [(.str "get", .map own)])]) :: around

/-- A document that defines the security that it asks for declares the token. -/
theorem token_declared_securable :
    ∃ s, (build (.map (securable [] [(.str "security", .list []),
        (.str "securityDefinitions", .map [])])) false).outcome = .ok s ∧
      (∃ m ∈ s.methods, m.isSecure = true) ∧
      ∀ m ∈ s.methods, m.isSecure = true → s.isSecure = true := by
  obtain ⟨s, hs, hasked⟩ : ∃ s, (build (.map (securable []
      [(.str "security", .list []), (.str "securityDefinitions", .map [])]))
        false).outcome = .ok s ∧ ∃ m ∈ s.methods, m.isSecure = true :=
    ⟨_, rfl, _, List.mem_cons_self, rfl⟩
  refine ⟨s, hs, hasked, (token_declared_iff hs).1.2 ?_⟩
  left
  decide

/-- A client may read a token that it does not declare: an operation has a list
of what security it asks for, and the document defines none. -/
theorem exists_undeclared_token :
    ∃ s f, (build (.map (securable [(.str "security", .list [])] []))
        false).outcome = .ok s ∧
      ServiceFile.ofService s = .ok f ∧
      (∃ m ∈ s.methods, m.isSecure = true) ∧ s.isSecure = false ∧
      f.DeclaresToken false ∧ ∃ d ∈ f.methods, d.SendsToken true := by
  refine ⟨_, _, rfl, rfl, ⟨_, List.mem_cons_self, rfl⟩, rfl, ?_, ?_⟩
  · exact ServiceFile.declaresToken _
  · exact ⟨_, List.mem_cons_self, MethodDecl.sendsToken _⟩

end Service

end ClientGen
