import ClientGen.Json.Writer
import ClientGen.Service
import ClientGen.TypeScript.ModelFile

/-!
# The service file

The class with one method for each operation. A method has an argument for
each parameter, the required ones first; it sets what it is given on the
request and sends it. The only value of a parameter that has just one is the
default of its argument, as a literal; a value without a literal form is a
fault.
-/

namespace ClientGen.TypeScript

/-- An argument of a method. -/
structure Argument where
  name : String
  /-- Whether it may be left out without having a default. -/
  isOptional : Bool
  type : String
  defaultValue : Option String
  /-- What its line in the comment says. -/
  doc : String
  deriving DecidableEq, Repr

/-- What a method sets an argument on. -/
inductive Target where
  | query
  | header
  | form
  deriving DecidableEq, Repr

/-- A statement that sets an argument, if it is given, under a key. -/
structure Setter where
  target : Target
  key : String
  argument : String
  deriving DecidableEq, Repr

/-- The body of a request. -/
inductive Body where
  /-- The verb sends none. -/
  | absent
  /-- The JSON form of an argument. -/
  | json (argument : String)
  /-- The form that was filled in. -/
  | form
  /-- None, though the verb sends one. -/
  | empty
  deriving DecidableEq, Repr

/-- A method of the service class. -/
structure MethodDecl where
  summary : List String
  name : String
  verb : String
  path : String
  arguments : List Argument
  /-- The type that a JSON response is read as. -/
  jsonType : Option String
  uri : String
  hasForm : Bool
  setters : List Setter
  isSecure : Bool
  call : String
  body : Body
  deriving DecidableEq, Repr

/-- The service file. -/
structure ServiceFile where
  /-- The names that come from the models. -/
  imports : List String
  enums : List EnumDecl
  heading : Option String
  doc : Option String
  domain : String
  isSecure : Bool
  onServer : Bool
  methods : List MethodDecl
  deriving DecidableEq, Repr

namespace Argument

/-- The default of a parameter with a single value. -/
def defaultOf (p : Parameter) : Except Fault (Option String) :=
  match p.singleton with
  | none => .ok none
  | some v =>
    match Json.literal? v with
    | some cs => .ok (some (String.ofList cs))
    | none => .error .notLiteral

/-- The argument of a parameter. -/
def ofParameter (p : Parameter) : Except Fault Argument := do
  return {
    name := p.argument
    isOptional := !p.required && p.singleton.isNone
    type := p.typescriptType
    defaultValue := ← defaultOf p
    doc := p.description.text }

/-- An argument in the list of its method. -/
def text (a : Argument) : String :=
  a.name ++ (if a.isOptional then "?" else "") ++ ": " ++ a.type ++
    (match a.defaultValue with
      | some l => " = " ++ l
      | none => "")

/-- The line of an argument in the comment of its method. -/
def docLine (a : Argument) : String :=
  "     * @param " ++ a.name ++ " " ++ a.doc ++ "\n"

end Argument

/-- The parameters in the order of the arguments: the required ones, then the
others. -/
def signature (ps : List Parameter) : List Parameter :=
  ps.filter (·.required) ++ ps.filter (!·.required)

namespace Setter

/-- The statement that sets a parameter, if there is one for its location. -/
def ofParameter? (p : Parameter) : Option Setter :=
  match p.location with
  | some .query => some ⟨.query, p.name.text, p.argument⟩
  | some .header => some ⟨.header, p.name.text, p.argument⟩
  | some .form => some ⟨.form, p.name.text, p.argument⟩
  | _ => none

/-- The variable of a target. -/
def variableOf : Target → String
  | .query => "params"
  | .header => "headers"
  | .form => "form"

/-- The lines of a setter. -/
def text (s : Setter) : String :=
  "        if (" ++ s.argument ++ " !== undefined) \x7b\n" ++
    "            " ++ variableOf s.target ++ ".set(" ++ singleQuoted s.key ++
    ", String(" ++ s.argument ++ "));\n" ++ "        \x7d\n"

end Setter

namespace MethodDecl

/-- The body of a method's request: that of the first body parameter if there
is one, and otherwise a form if there is one. -/
def bodyOf (m : Method) : Body :=
  if !m.hasPayload then .absent
  else
    match m.parameters.find? fun p => p.location == some .body with
    | some p => .json p.argument
    | none => if m.hasAt .form then .form else .empty

/-- The declaration of a method. -/
def ofMethod (m : Method) : Except Fault MethodDecl := do
  let arguments ← (signature m.parameters).mapM Argument.ofParameter
  return {
    summary := m.summary
    name := m.name.text
    verb := m.verb
    path := m.path
    arguments
    jsonType := if m.isJson then some m.response else none
    uri := UrlTemplate.interpolated m.path
    hasForm := m.hasAt .form
    setters := m.parameters.filterMap Setter.ofParameter?
    isSecure := m.isSecure
    call := m.call
    body := bodyOf m }

/-- The comment of a method. -/
def comment (m : MethodDecl) : String :=
  "    /**\n" ++ String.join (m.summary.map fun l => "     * " ++ l ++ "\n") ++
    "     * Method " ++ m.name ++ " (" ++ m.verb ++ " " ++ m.path ++ ")\n" ++
    String.join (m.arguments.map Argument.docLine) ++ "     */\n"

/-- The line that opens a method. -/
def opening (m : MethodDecl) : String :=
  "    public " ++ m.name ++ "(" ++
    ", ".intercalate (m.arguments.map Argument.text) ++ "): Observable<" ++
    m.jsonType.getD "Response" ++ "> \x7b\n"

/-- The lines that make the body of the request. -/
def bodyLines (m : MethodDecl) : String :=
  match m.body with
  | .absent => ""
  | .json argument =>
    "        headers.set('Content-Type', 'application/json');\n" ++
      "        let body = JSON.stringify(" ++ argument ++ ");\n"
  | .form =>
    "        headers.set('Content-Type', 'application/x-www-form-urlencoded');\n" ++
      "        let body = form.toString();\n"
  | .empty => "        let body = null;\n"

/-- The line that sends the request. -/
def callLine (m : MethodDecl) : String :=
  "        let response = this.http." ++ m.call ++ "(this.domain + uri, " ++
    (if m.body = .absent then "" else "body, ") ++
    "\x7b headers: headers, search: params \x7d);\n"

/-- The line that returns the response. -/
def returnLine (m : MethodDecl) : String :=
  match m.jsonType with
  | some t =>
    "        return response.map((res: Response) => res.json() as " ++ t ++ ");\n"
  | none => "        return response;\n"

/-- The text of a method, after an empty line. -/
def text (m : MethodDecl) : String :=
  "\n" ++ m.comment ++ m.opening ++
    "        let uri = `" ++ m.uri ++ "`;\n" ++
    "        let headers = new Headers();\n" ++
    "        let params = new URLSearchParams();\n" ++
    (if m.hasForm then "        let form = new URLSearchParams();\n" else "") ++
    String.join (m.setters.map Setter.text) ++
    (if m.isSecure then
      "        if (this.token) \x7b\n" ++
        "            headers.set('Authorization', 'Bearer ' + this.token);\n" ++
        "        \x7d\n"
     else "") ++
    (if m.jsonType.isSome then
      "        headers.set('Accept', 'application/json');\n"
     else "") ++
    m.bodyLines ++ m.callLine ++ m.returnLine ++ "    \x7d\n"

end MethodDecl

namespace ServiceFile

/-- The first line of the comment of the class: the title, and the version if
there is one. -/
def headingOf (s : Service) : Option String :=
  (textIfTruthy s.title).map fun title =>
    title ++
      (match textIfTruthy s.version with
        | some v => " " ++ v
        | none => "")

/-- The file of a service. -/
def ofService (s : Service) : Except Fault ServiceFile := do
  let methods ← s.methods.mapM MethodDecl.ofMethod
  return {
    imports := (s.definitions.map fun d => nameText d.name) ++ s.modelEnums
    enums := s.enums.entries.map EnumDecl.ofEnumeration
    heading := headingOf s
    doc := textIfTruthy s.description
    domain := s.domain
    isSecure := s.isSecure
    onServer := s.onServer
    methods }

/-- The line that imports from the models, if there is anything to import. -/
def importLine (names : List String) : String :=
  if names.isEmpty then ""
  else
    "import \x7b " ++ ", ".intercalate names ++ " \x7d from './models';\n"

/-- A line of the comment of the class. -/
def commentLine : Option String → String
  | some l => " * " ++ l ++ "\n"
  | none => ""

/-- The lines in front of the class. -/
def preamble (f : ServiceFile) : String :=
  "/* tslint:disable */\n" ++
    "import \x7b Injectable \x7d from '@angular/core';\n" ++
    "import \x7b Http, Headers, URLSearchParams, Response \x7d from '@angular/http';\n" ++
    "import \x7b Observable \x7d from 'rxjs/Observable';\n" ++
    "import 'rxjs/add/operator/map';\n" ++ importLine f.imports ++
    String.join (f.enums.map EnumDecl.text) ++ "\n/**\n" ++
    commentLine f.heading ++ commentLine f.doc ++
    " * Generated by swaggen. Do not edit.\n */\n"

/-- The fields and the constructor of the class. -/
def classHead (f : ServiceFile) : String :=
  "@Injectable()\nexport class ApiClientService \x7b\n\n" ++
    "    private domain = '" ++ f.domain ++ "';\n" ++
    (if f.isSecure then "    private token: string;\n" else "") ++
    (if f.onServer then "    private isNode = true;\n" else "") ++
    "\n    constructor(private http: Http) \x7b\x7d\n" ++
    (if f.isSecure then
      "\n    public setToken(token: string): void \x7b\n" ++
        "        this.token = token;\n    \x7d\n"
     else "")

/-- The text of the file. -/
def text (f : ServiceFile) : String :=
  f.preamble ++ f.classHead ++ String.join (f.methods.map MethodDecl.text) ++
    "\x7d\n"

end ServiceFile

end ClientGen.TypeScript
