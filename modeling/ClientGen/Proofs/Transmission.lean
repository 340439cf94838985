import ClientGen.Proofs.Signature

/-!
# What becomes of arguments

A method sets the parameters of queries and headers on the request, and those of
forms on a form. Then it sends at most one body, which is the JSON form of an
argument or the form that was filled in, and some verbs have none. So a
parameter of a query or a header is always transmitted, and one of a body or a
form only where the verb has a body that is made of it (`transmits_iff`). A
client accepts the others all the same (`exists_ignored_body`). What is set and
what is sent is told by the lines of the method (`Sets`, `Sends`).
-/

namespace ClientGen

/-! ### Locations -/

/-- The locations of what a request carries apart from its path. -/
def Location.carriedNames : List String :=
  ["query", "modelbinding", "header", "body", "formData"]

/-- A parameter with such a location is in one of four places. -/
theorem Parameter.location_read_of_carried {fields : Fields}
    (h : ∃ word ∈ Location.carriedNames, fields.get "in" = .str word) :
    (read fields).location ∈
      [some .query, some .header, some .body, some .form] := by
  have hnames : ∀ word ∈ Location.carriedNames,
      Location.ofValue? (.str word) ∈
        [some .query, some .header, some .body, some .form] := by
    decide
  obtain ⟨word, hword, hin⟩ := h
  rw [read, hin]
  exact hnames word hword

/-- The verbs whose requests have a body. -/
def Method.payloadVerbs : List String := ["POST", "PUT", "PATCH"]

theorem Method.hasPayload_iff {m : Method} (h : m.verb ∈ verbs) :
    m.hasPayload = true ↔ m.verb ∈ payloadVerbs := by
  have hverbs : ∀ verb ∈ verbs,
      (!bodiless.contains verb) = true ↔ verb ∈ payloadVerbs := by
    decide
  exact hverbs m.verb h

/-- The first parameter that is a body. -/
def Method.firstBody? (m : Method) : Option Parameter :=
  m.parameters.find? fun p => p.location == some .body

theorem Method.firstBody?_eq_none_iff {m : Method} :
    m.firstBody? = none ↔ ∀ q ∈ m.parameters, q.location ≠ some .body := by
  rw [firstBody?, List.find?_eq_none]
  simp

namespace TypeScript

variable {m : Method} {d : MethodDecl} {p : Parameter}

/-! ### Setters and bodies in the text of a method -/

namespace MethodDecl

/-- The lines that make the body of a request and send it by a call. -/
def sentLines (call : String) : Body → String
  | .absent =>
    "        let response = this.http." ++ call ++
      "(this.domain + uri, \x7b headers: headers, search: params \x7d);\n"
  | .json argument =>
    "        headers.set('Content-Type', 'application/json');\n" ++
      "        let body = JSON.stringify(" ++ argument ++ ");\n" ++
      "        let response = this.http." ++ call ++
      "(this.domain + uri, body, \x7b headers: headers, search: params \x7d);\n"
  | .form =>
    "        headers.set('Content-Type', 'application/x-www-form-urlencoded');\n" ++
      "        let body = form.toString();\n" ++
      "        let response = this.http." ++ call ++
      "(this.domain + uri, body, \x7b headers: headers, search: params \x7d);\n"
  | .empty =>
    "        let body = null;\n" ++
      "        let response = this.http." ++ call ++
      "(this.domain + uri, body, \x7b headers: headers, search: params \x7d);\n"

/-- A declaration sets an argument on a variable, if it is given: after the
variable is declared, and before the request is sent. -/
structure Sets (d : MethodDecl) (s : Setter) (name : String) : Prop where
  mem : s ∈ d.setters
  /-- There is a form to be filled in. -/
  hasForm : s.target = .form → d.hasForm = true
  text : ∃ front before between after, d.text = front ++
    "        let headers = new Headers();\n" ++
    "        let params = new URLSearchParams();\n" ++
    (if d.hasForm then "        let form = new URLSearchParams();\n" else "") ++
    before ++
    "        if (" ++ s.argument ++ " !== undefined) \x7b\n" ++
    "            " ++ name ++ ".set('" ++ s.key ++ "', String(" ++ s.argument ++
      "));\n" ++
    "        \x7d\n" ++
    between ++ sentLines d.call d.body ++ after

/-- A declaration sends a body. -/
structure Sends (d : MethodDecl) (b : Body) : Prop where
  body : d.body = b
  text : ∃ before after, d.text = before ++ sentLines d.call b ++ after

/-- A declaration transmits a parameter in the way of its location. -/
inductive Transmits (d : MethodDecl) (p : Parameter) : Prop
  | query (hlocation : p.location = some .query)
      (hset : d.Sets ⟨.query, p.name.text, p.argument⟩ "params")
  | header (hlocation : p.location = some .header)
      (hset : d.Sets ⟨.header, p.name.text, p.argument⟩ "headers")
  | form (hlocation : p.location = some .form)
      (hset : d.Sets ⟨.form, p.name.text, p.argument⟩ "form")
      (hsent : d.Sends .form)
  | body (hlocation : p.location = some .body)
      (hsent : d.Sends (.json p.argument))

/-- The text of a method between its setters and the lines that send its
request. -/
private def tokenLines (d : MethodDecl) : String :=
  (if d.isSecure then tokenUse else "") ++
    (if d.jsonType.isSome then
      "        headers.set('Accept', 'application/json');\n"
    else "")

/-- The body and the call of a declaration are sent in these lines. -/
private theorem sentLines_eq (d : MethodDecl) :
    d.bodyLines ++ d.callLine = sentLines d.call d.body := by
  have habsent : "(this.domain + uri, " ++
      "\x7b headers: headers, search: params \x7d);\n" =
      "(this.domain + uri, \x7b headers: headers, search: params \x7d);\n" := by
    decide
  have hbody : "(this.domain + uri, " ++
      ("body, " ++ "\x7b headers: headers, search: params \x7d);\n") =
      "(this.domain + uri, body, \x7b headers: headers, search: params \x7d);\n" := by
    decide
  unfold bodyLines callLine sentLines
  cases d.body <;>
    simp [String.append_assoc, habsent, hbody, -String.reduceAppend]

/-- The lines of a setter. -/
private theorem setterText_eq (s : Setter) :
    s.text = "        if (" ++ s.argument ++ " !== undefined) \x7b\n" ++
      "            " ++ Setter.variableOf s.target ++ ".set('" ++ s.key ++
      "', String(" ++ s.argument ++ "));\n" ++ "        \x7d\n" := by
  have hopen : ".set('" = ".set(" ++ "'" := by decide
  have hclose : "', String(" = "'" ++ ", String(" := by decide
  unfold Setter.text singleQuoted
  rw [hopen, hclose]
  simp only [String.append_assoc, -String.reduceAppend]

private theorem text_eq_sentLines (d : MethodDecl) :
    d.text = d.start ++ String.join (d.setters.map Setter.text) ++
      d.tokenLines ++ sentLines d.call d.body ++
      (d.returnLine ++ "    \x7d\n") := by
  rw [text_eq, finish, tokenLines, ← sentLines_eq]
  simp only [String.append_assoc, -String.reduceAppend]

theorem sends_body (d : MethodDecl) : d.Sends d.body where
  body := rfl
  text := ⟨_, _, d.text_eq_sentLines⟩

theorem sets_of_mem {s : Setter} (h : s ∈ d.setters)
    (hform : s.target = .form → d.hasForm = true) :
    d.Sets s (Setter.variableOf s.target) where
  mem := h
  hasForm := hform
  text := by
    obtain ⟨before, after, hsplit⟩ := List.append_of_mem h
    refine ⟨"\n" ++ d.comment ++ d.opening ++ "        let uri = `" ++ d.uri ++
        "`;\n", String.join (before.map Setter.text),
      String.join (after.map Setter.text) ++ d.tokenLines,
      d.returnLine ++ "    \x7d\n", ?_⟩
    rw [text_eq_sentLines, hsplit, start, List.map_append, List.map_cons,
      String.join_append, String.join_cons, setterText_eq s]
    simp only [String.append_assoc, -String.reduceAppend]

/-- Every parameter that has a setter is set. -/
theorem sets_of_ofMethod (h : ofMethod m = .ok d) (hp : p ∈ m.parameters)
    {s : Setter} (hs : Setter.ofParameter? p = some s) :
    d.Sets s (Setter.variableOf s.target) := by
  obtain ⟨arguments, rfl, -⟩ := exists_of_ofMethod h
  refine sets_of_mem (List.mem_filterMap.2 ⟨p, hp, hs⟩) fun htarget => ?_
  -- Only a parameter of a form is set on one.
  have hlocation : p.location = some .form := by
    unfold Setter.ofParameter? at hs
    split at hs <;> cases hs
    · cases htarget
    · cases htarget
    · assumption
  exact List.any_eq_true.2 ⟨p, hp, beq_iff_eq.2 hlocation⟩

theorem sends_iff (h : ofMethod m = .ok d) {b : Body} :
    d.Sends b ↔ bodyOf m = b := by
  obtain ⟨arguments, rfl, -⟩ := exists_of_ofMethod h
  constructor
  · exact Sends.body
  · rintro rfl
    exact sends_body _

/-! ### Which body is sent -/

theorem bodyOf_eq_json_iff {argument : String} :
    bodyOf m = .json argument ↔
      m.hasPayload = true ∧ m.firstBody?.map (·.argument) = some argument := by
  rw [bodyOf, Method.firstBody?]
  cases hpayload : m.hasPayload with
  | false => simp
  | true =>
    cases m.parameters.find? fun p => p.location == some .body with
    | some q => simp
    | none => cases m.hasAt .form <;> simp

theorem bodyOf_eq_form_iff (hp : p ∈ m.parameters)
    (hlocation : p.location = some .form) :
    bodyOf m = .form ↔ m.hasPayload = true ∧ m.firstBody? = none := by
  have hform : m.hasAt .form = true :=
    List.any_eq_true.2 ⟨p, hp, beq_iff_eq.2 hlocation⟩
  rw [bodyOf, Method.firstBody?, hform]
  cases hpayload : m.hasPayload with
  | false => simp
  | true =>
    cases m.parameters.find? fun p => p.location == some .body <;> simp

/-- A parameter of a body is transmitted by a body. -/
theorem transmits_iff_sends_json (h : p.location = some .body) :
    d.Transmits p ↔ d.Sends (.json p.argument) := by
  constructor
  · intro htransmits
    cases htransmits with
    | body _ hsent => exact hsent
    | query hother => simp [h] at hother
    | header hother => simp [h] at hother
    | form hother => simp [h] at hother
  · exact .body h

/-- A parameter that is set on a form is transmitted by it. -/
theorem transmits_iff_sends_form (h : p.location = some .form)
    (hset : d.Sets ⟨.form, p.name.text, p.argument⟩ "form") :
    d.Transmits p ↔ d.Sends .form := by
  constructor
  · intro htransmits
    cases htransmits with
    | form _ _ hsent => exact hsent
    | query hother => simp [h] at hother
    | header hother => simp [h] at hother
    | body hother => simp [h] at hother
  · exact .form h hset

/-- A parameter is transmitted unless it is for a body that is not sent, or that
is made of others. -/
theorem transmits_iff_of_ofMethod (h : ofMethod m = .ok d)
    (hp : p ∈ m.parameters)
    (hlocation : p.location ∈
      [some .query, some .header, some .body, some .form]) :
    d.Transmits p ↔
      (p.location = some .form →
        m.hasPayload = true ∧ m.firstBody? = none) ∧
      (p.location = some .body →
        m.hasPayload = true ∧
          m.firstBody?.map (·.argument) = some p.argument) := by
  have hset : ∀ s, Setter.ofParameter? p = some s →
      d.Sets s (Setter.variableOf s.target) := fun s => sets_of_ofMethod h hp
  simp only [List.mem_cons, List.not_mem_nil, or_false] at hlocation
  rcases hlocation with hquery | hheader | hbody | hform
  · have htransmits : d.Transmits p :=
      .query hquery (hset _ (by rw [Setter.ofParameter?, hquery]))
    simp [htransmits, hquery]
  · have htransmits : d.Transmits p :=
      .header hheader (hset _ (by rw [Setter.ofParameter?, hheader]))
    simp [htransmits, hheader]
  · rw [transmits_iff_sends_json hbody, sends_iff h, bodyOf_eq_json_iff]
    simp [hbody]
  · have hfilled := hset _ (by rw [Setter.ofParameter?, hform])
    rw [transmits_iff_sends_form hform hfilled, sends_iff h,
      bodyOf_eq_form_iff hp hform]
    simp [hform]

end MethodDecl

/-- The text of a file has that of each of its methods. -/
theorem ServiceFile.exists_text_eq {f : ServiceFile} (h : d ∈ f.methods) :
    ∃ before after, f.text = before ++ d.text ++ after := by
  obtain ⟨earlier, later, hsplit⟩ := List.append_of_mem h
  refine ⟨f.preamble ++ f.classHead ++ String.join (earlier.map MethodDecl.text),
    String.join (later.map MethodDecl.text) ++ "\x7d\n", ?_⟩
  rw [ServiceFile.text, hsplit]
  simp [String.append_assoc, -String.reduceAppend]

end TypeScript

namespace Operation

open TypeScript

/-- The parameters of an operation are in places that a request carries apart
from its path. -/
def IsCarried (onServer : Bool) (o : Operation) : Prop :=
  ∀ fields ∈ o.kept onServer,
    ∃ word ∈ Location.carriedNames, fields.get "in" = .str word

/-- **What becomes of arguments.** The packaged view has a declaration for each
method of its service. One that an operation with a verb became, all of whose
parameters are carried apart from the path, sets each of those of a form on the
form. It transmits every parameter but these: those of forms and bodies if the
verb has no body, those of a form if there is a parameter of a body, and those
of a body after the first one, unless they have the same argument. -/
theorem transmits_iff {document : Fields} {onServer : Bool} {o : Operation}
    {m : Method} {s : Service} {text : String}
    (hverb : Method.isVerb o.verb = true) (hcarried : o.IsCarried onServer)
    (h : (o.build document onServer).outcome = .ok m) (hm : m ∈ s.methods)
    (htext : TemplateSet.packaged.service s = .ok text) :
    ∃ d before after, MethodDecl.ofMethod m = .ok d ∧
      text = before ++ d.text ++ after ∧
      (∀ p ∈ m.parameters, p.location = some .form →
        d.Sets ⟨.form, p.name.text, p.argument⟩ "form") ∧
      ∀ p ∈ m.parameters, d.Transmits p ↔
        (p.location = some .form →
          m.verb ∈ Method.payloadVerbs ∧
            ∀ q ∈ m.parameters, q.location ≠ some .body) ∧
        (p.location = some .body →
          m.verb ∈ Method.payloadVerbs ∧
            m.firstBody?.map (·.argument) = some p.argument) := by
  obtain ⟨f, hfile, rfl⟩ := Service.exists_file htext
  obtain ⟨ds, rfl, hds⟩ := ServiceFile.forall₂_of_ofService hfile
  obtain ⟨d, hmem, hd⟩ := Traced.exists_of_mem_right hds.flip hm
  obtain ⟨before, after, hlayout⟩ :=
    @ServiceFile.exists_text_eq d (ServiceFile.of s ds) hmem
  obtain ⟨path, verb, isJson, -, hstr, -, rfl⟩ := build_outcome_eq_ok.1 h
  have hverbs : (o.methodOf document onServer path verb isJson).verb ∈
      Method.verbs := by
    rw [hstr, Method.isVerb, List.contains_iff_mem] at hverb
    exact hverb
  have hlocation : ∀ p ∈ Parameter.readAll onServer o.listed, p.location ∈
      [some .query, some .header, some .body, some .form] := by
    intro p hp
    obtain ⟨fields, hfields, -, last, rfl⟩ := Traced.exists_of_mem_right
      (Parameter.forall₂_readAll onServer o.listed) hp
    exact Parameter.location_read_of_carried (hcarried fields hfields)
  refine ⟨d, before, after, hd, hlayout, ?_, ?_⟩
  · intro p hp hform
    exact MethodDecl.sets_of_ofMethod hd hp (by rw [Setter.ofParameter?, hform])
  · intro p hp
    rw [MethodDecl.transmits_iff_of_ofMethod hd hp (hlocation p hp),
      Method.hasPayload_iff hverbs, Method.firstBody?_eq_none_iff]

/-- A path shares a parameter of queries and one of bodies. -/
def petShared : List Value :=
  [ .map [(.str "name", .str "lang"), (.str "in", .str "modelbinding")],
    .map [(.str "name", .str "pet"), (.str "in", .str "body")] ]

/-- One of its operations has a body, and a header of its own. -/
def adoption : Operation where
  path := .str "/pets"
  verb := .str "post"
  fields :=
    [ (.str "parameters", .list
        [ .map [(.str "name", .str "X-Trace"), (.str "in", .str "header")] ]) ]
  shared := petShared

/-- The other one has no body. -/
def release : Operation where
  path := .str "/pets"
  verb := .str "delete"
  fields := []
  shared := petShared

/-- The document with the two. -/
def petDocument : Fields :=
  [ (.str "paths", .map
      [ (adoption.path, .map
          [ (.str "parameters", .list petShared),
            (adoption.verb, .map adoption.fields),
            (release.verb, .map release.fields) ]) ]) ]

private theorem isCarried_of_isText {onServer : Bool} {o : Operation}
    (h : ∀ fields ∈ o.kept onServer,
      ∃ word ∈ Location.carriedNames, (fields.get "in").isText word = true) :
    o.IsCarried onServer := by
  intro fields hfields
  obtain ⟨word, hword, hin⟩ := h fields hfields
  exact ⟨word, hword, Value.isText_iff.1 hin⟩

/-- What is rendered of that document has a method for each operation. -/
private theorem exists_rendered_petDocument :
    ∃ s text, (Service.build (.map petDocument) false).outcome = .ok s ∧
      TemplateSet.packaged.service s = .ok text ∧
      ∀ o ∈ [adoption, release], ∃ m ∈ s.methods,
        (o.build petDocument false).outcome = .ok m := by
  obtain ⟨s, hs⟩ :
      ∃ s, (Service.build (.map petDocument) false).outcome = .ok s := ⟨_, rfl⟩
  have hrendered : ((Service.build (.map petDocument) false).outcome.toOption.all
      fun s => (TemplateSet.packaged.service s).toOption.isSome) = true := by
    decide +kernel
  rw [hs] at hrendered
  obtain ⟨methods, domain, hmethods, -, hservice⟩ :=
    Service.build_outcome_eq_ok.1 hs
  cases htext : TemplateSet.packaged.service s with
  | error e => simp [htext, Except.toOption] at hrendered
  | ok text =>
    refine ⟨s, text, hs, htext, fun o ho => ?_⟩
    rw [hservice]
    exact Traced.exists_of_mem_right (forall₂_buildAll hmethods).flip ho

theorem transmits_adoption :
    ∃ (s : Service) (m : Method) (d : MethodDecl) (before after : String),
      (Service.build (.map petDocument) false).outcome = .ok s ∧
      m ∈ s.methods ∧ (adoption.build petDocument false).outcome = .ok m ∧
      MethodDecl.ofMethod m = .ok d ∧
      TemplateSet.packaged.service s = .ok (before ++ d.text ++ after) ∧
      m.parameters.map (·.argument) = ["XTrace", "lang", "pet"] ∧
      ∀ p ∈ m.parameters, d.Transmits p := by
  obtain ⟨s, text, hs, htext, hmethods⟩ := exists_rendered_petDocument
  obtain ⟨m, hm, hbuild⟩ := hmethods adoption (by simp)
  have hcarried : adoption.IsCarried false := isCarried_of_isText (by decide +kernel)
  obtain ⟨d, before, after, hd, rfl, -, htransmits⟩ :=
    transmits_iff rfl hcarried hbuild hm htext
  obtain ⟨path, verb, isJson, -, hverb, -, rfl⟩ := build_outcome_eq_ok.1 hbuild
  obtain rfl := Value.str.inj hverb
  have hpost : Text.upper "post" ∈ Method.payloadVerbs := by decide +kernel
  have harguments : (Parameter.readAll false adoption.listed).map (·.argument) =
      ["XTrace", "lang", "pet"] := by
    decide +kernel
  have hplaces : ∀ p ∈ Parameter.readAll false adoption.listed,
      p.location ≠ some .form ∧
        (p.location = some .body → p.argument = "pet") := by
    decide +kernel
  have hfirst : ((Parameter.readAll false adoption.listed).find? fun p =>
      p.location == some .body).map (·.argument) = some "pet" := by
    decide +kernel
  refine ⟨s, _, d, before, after, hs, hm, hbuild, hd, htext, harguments, ?_⟩
  intro p hp
  obtain ⟨hform, hbody⟩ := hplaces p hp
  refine (htransmits p hp).2 ⟨fun h => absurd h hform, fun h => ⟨hpost, ?_⟩⟩
  rw [hbody h]
  exact hfirst

/-- A parameter of a body is ignored where the verb has none. -/
theorem exists_ignored_body :
    ¬ ∀ (document : Fields) (onServer : Bool) (o : Operation) (m : Method)
      (s : Service) (text : String), Method.isVerb o.verb = true →
      o.IsCarried onServer → (o.build document onServer).outcome = .ok m →
      m ∈ s.methods → TemplateSet.packaged.service s = .ok text →
      ∃ d before after, MethodDecl.ofMethod m = .ok d ∧
        text = before ++ d.text ++ after ∧ ∀ p ∈ m.parameters, d.Transmits p := by
  intro h
  obtain ⟨s, text, -, htext, hmethods⟩ := exists_rendered_petDocument
  obtain ⟨m, hm, hbuild⟩ := hmethods release (by simp)
  obtain ⟨d, before, after, hd, -, htransmits⟩ := h petDocument false release m s
    text rfl (isCarried_of_isText (by decide +kernel)) hbuild hm htext
  obtain ⟨path, verb, isJson, -, hverb, -, rfl⟩ := build_outcome_eq_ok.1 hbuild
  obtain rfl := Value.str.inj hverb
  obtain ⟨p, hp, hbody⟩ : ∃ p ∈ Parameter.readAll false release.listed,
      p.location = some .body := by
    decide +kernel
  have hsends := (MethodDecl.transmits_iff_sends_json hbody).1 (htransmits p hp)
  have hpayload : (!Method.bodiless.contains (Text.upper "delete")) = true :=
    (MethodDecl.bodyOf_eq_json_iff.1 ((MethodDecl.sends_iff hd).1 hsends)).1
  have hdelete : Method.bodiless.contains (Text.upper "delete") = true := by
    decide +kernel
  rw [hdelete] at hpayload
  cases hpayload

end Operation

end ClientGen
