import Mathlib.Data.List.Forall2
import ClientGen.TypeScript.ServiceFile

/-!
# How a service file is made

A service file is made of one declaration for each method, and these of one
argument for each parameter. Each step may fail, so both are traversals that
stop at the first fault. They are stated here as what they yield: a method
becomes its declaration around its arguments (`ofMethod_eq`), a service the
file around its declarations (`ofService_eq`). What is made has an argument for
each parameter (`exists_of_ofMethod`) and a declaration for each method
(`forall₂_of_ofService`), in order.

The text of a method is cut at its setters and at the lines that send a token
(`MethodDecl.text_eq`), that of the file at its enumerations, at the lines that
declare the token and at its methods (`ServiceFile.text_eq`).
-/

namespace ClientGen.TypeScript

/-! ### Traversals that may fail -/

section Traversal

variable {α β : Type} {f : α → Except Fault β}

/-- A traversal that succeeds yields what each step does, in order. -/
theorem forall₂_of_mapM {as : List α} {bs : List β}
    (h : as.mapM f = .ok bs) :
    List.Forall₂ (fun a b => f a = .ok b) as bs := by
  induction as generalizing bs with
  | nil =>
    cases h
    exact List.Forall₂.nil
  | cons a as ih =>
    rw [List.mapM_cons] at h
    cases ha : f a with
    | error e => simp [ha, bind, Except.bind] at h
    | ok b =>
      cases has : as.mapM f with
      | error e => simp [ha, has, bind, Except.bind] at h
      | ok rest =>
        simp only [ha, has, bind, Except.bind, pure, Except.pure,
          Except.ok.injEq] at h
        subst h
        exact List.Forall₂.cons ha (ih has)

/-- What is made of a result has a result to be made of. -/
theorem exists_of_map_eq_ok {x : Except Fault α} {g : α → β} {b : β}
    (h : x.map g = .ok b) : ∃ a, x = .ok a ∧ b = g a := by
  cases x with
  | error e => cases h
  | ok a =>
    cases h
    exact ⟨a, rfl, rfl⟩

end Traversal

/-- The arguments of a method are its parameters in another order. -/
theorem signature_perm (ps : List Parameter) : (signature ps).Perm ps :=
  List.filter_append_perm (fun p : Parameter => p.required) ps

theorem mem_signature {ps : List Parameter} {p : Parameter} :
    p ∈ signature ps ↔ p ∈ ps := (signature_perm ps).mem_iff

/-! ### Arguments -/

namespace Argument

/-- The argument of a parameter around its default. -/
def of (p : Parameter) (defaultValue : Option String) : Argument where
  name := p.argument
  isOptional := !p.required && p.singleton.isNone
  type := p.typescriptType
  defaultValue := defaultValue
  doc := p.description.text

theorem ofParameter_eq (p : Parameter) :
    ofParameter p = (defaultOf p).map (of p) := by
  unfold ofParameter
  cases defaultOf p <;> rfl

end Argument

/-! ### Declarations -/

namespace MethodDecl

/-- The declaration of a method around its arguments. -/
def of (m : Method) (arguments : List Argument) : MethodDecl where
  summary := m.summary
  name := m.name.text
  verb := m.verb
  path := m.path
  arguments := arguments
  jsonType := if m.isJson then some m.response else none
  uri := UrlTemplate.interpolated m.path
  hasForm := m.hasAt .form
  setters := m.parameters.filterMap Setter.ofParameter?
  isSecure := m.isSecure
  call := m.call
  body := bodyOf m

theorem ofMethod_eq (m : Method) :
    ofMethod m =
      ((signature m.parameters).mapM Argument.ofParameter).map (of m) := by
  unfold ofMethod
  cases (signature m.parameters).mapM Argument.ofParameter <;> rfl

/-- A method that is declared has an argument for each parameter, in the order
of its signature. -/
theorem exists_of_ofMethod {m : Method} {d : MethodDecl}
    (h : ofMethod m = .ok d) :
    ∃ arguments, d = of m arguments ∧
      List.Forall₂ (fun p a => Argument.ofParameter p = .ok a)
        (signature m.parameters) arguments := by
  rw [ofMethod_eq] at h
  obtain ⟨arguments, harguments, rfl⟩ := exists_of_map_eq_ok h
  exact ⟨arguments, rfl, forall₂_of_mapM harguments⟩

/-- The lines that send the token along with a request. -/
def tokenUse : String :=
  "        if (this.token) \x7b\n" ++
    "            headers.set('Authorization', 'Bearer ' + this.token);\n" ++
    "        \x7d\n"

/-- The text of a method in front of its setters. -/
def start (m : MethodDecl) : String :=
  "\n" ++ m.comment ++ m.opening ++
    "        let uri = `" ++ m.uri ++ "`;\n" ++
    "        let headers = new Headers();\n" ++
    "        let params = new URLSearchParams();\n" ++
    (if m.hasForm then "        let form = new URLSearchParams();\n" else "")

/-- The text of a method after the lines that send the token. -/
def finish (m : MethodDecl) : String :=
  (if m.jsonType.isSome then
      "        headers.set('Accept', 'application/json');\n"
    else "") ++
    m.bodyLines ++ m.callLine ++ m.returnLine ++ "    \x7d\n"

theorem text_eq (m : MethodDecl) :
    m.text = m.start ++ String.join (m.setters.map Setter.text) ++
      (if m.isSecure then tokenUse else "") ++ m.finish := by
  unfold text start finish tokenUse
  simp only [String.append_assoc, -String.reduceAppend]

end MethodDecl

/-! ### Files -/

namespace ServiceFile

/-- The file of a service around the declarations of its methods. -/
def of (s : Service) (methods : List MethodDecl) : ServiceFile where
  imports := (s.definitions.map fun d => nameText d.name) ++ s.modelEnums
  enums := s.enums.entries.map EnumDecl.ofEnumeration
  heading := headingOf s
  doc := textIfTruthy s.description
  domain := s.domain
  isSecure := s.isSecure
  onServer := s.onServer
  methods := methods

theorem ofService_eq (s : Service) :
    ofService s = (s.methods.mapM MethodDecl.ofMethod).map (of s) := by
  unfold ofService
  cases s.methods.mapM MethodDecl.ofMethod <;> rfl

/-- The line that declares the token. -/
def tokenField : String := "    private token: string;\n"

/-- The lines that declare how the token is set. -/
def tokenSetter : String :=
  "\n    public setToken(token: string): void \x7b\n" ++
    "        this.token = token;\n    \x7d\n"

/-- The text of a file in front of its enumerations. -/
def start (f : ServiceFile) : String :=
  "/* tslint:disable */\n" ++
    "import \x7b Injectable \x7d from '@angular/core';\n" ++
    "import \x7b Http, Headers, URLSearchParams, Response \x7d from '@angular/http';\n" ++
    "import \x7b Observable \x7d from 'rxjs/Observable';\n" ++
    "import 'rxjs/add/operator/map';\n" ++ importLine f.imports

/-- The lines that open the class. -/
def classOpening (f : ServiceFile) : String :=
  "\n/**\n" ++ commentLine f.heading ++ commentLine f.doc ++
    " * Generated by swaggen. Do not edit.\n */\n" ++
    "@Injectable()\nexport class ApiClientService \x7b\n\n" ++
    "    private domain = '" ++ f.domain ++ "';\n"

/-- The lines from the fields of the class to its constructor. -/
def constructorLines (f : ServiceFile) : String :=
  (if f.onServer then "    private isNode = true;\n" else "") ++
    "\n    constructor(private http: Http) \x7b\x7d\n"

theorem text_eq (f : ServiceFile) :
    f.text = f.start ++ String.join (f.enums.map EnumDecl.text) ++
      f.classOpening ++ (if f.isSecure then tokenField else "") ++
      f.constructorLines ++ (if f.isSecure then tokenSetter else "") ++
      String.join (f.methods.map MethodDecl.text) ++ "\x7d\n" := by
  unfold text preamble classHead start classOpening constructorLines tokenField
    tokenSetter
  simp only [String.append_assoc, -String.reduceAppend]

/-- A file that is made has the declaration of each method, in order. -/
theorem forall₂_of_ofService {s : Service} {f : ServiceFile}
    (h : ofService s = .ok f) :
    ∃ ds, f = of s ds ∧
      List.Forall₂ (fun m d => MethodDecl.ofMethod m = .ok d) s.methods ds := by
  rw [ofService_eq] at h
  obtain ⟨ds, hmethods, rfl⟩ := exists_of_map_eq_ok h
  exact ⟨ds, rfl, forall₂_of_mapM hmethods⟩

/-- A file that is made has a declaration for each method, in order. -/
theorem exists_of_ofService {s : Service} {f : ServiceFile}
    (h : ofService s = .ok f) :
    ∃ ds, f = of s ds ∧
      List.Forall₂ (fun m d => ∃ arguments, d = MethodDecl.of m arguments)
        s.methods ds := by
  obtain ⟨ds, hf, hds⟩ := forall₂_of_ofService h
  refine ⟨ds, hf, hds.imp fun m d hd => ?_⟩
  obtain ⟨arguments, hd, -⟩ := MethodDecl.exists_of_ofMethod hd
  exact ⟨arguments, hd⟩

end ServiceFile

end ClientGen.TypeScript
