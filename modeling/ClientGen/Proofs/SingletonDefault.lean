import ClientGen.Proofs.JsonRoundTrip
import ClientGen.Proofs.Signature
import ClientGen.Proofs.Transmission
import ClientGen.Source

/-!
# Defaults that read back

A parameter that is restricted to one value has it for a default: the value goes
from the document into the record, and from there as a literal into the list of
arguments of its method. What makes a value exact keeps it exact on this way, so
that the loader of documents reads the literal as the value again
(`default_reads_back`). The literal ends neither its line nor the script around
it, whatever texts the value has in it.
-/

namespace ClientGen

/-- A file that is not YAML has the value that its text has as JSON, if there is
room for it and it escapes no half of a pair. -/
theorem Source.parse_of_read {readers : Readers} {p : Path}
    (hp : isYaml p = false) {text : String} {v : Value}
    (hroom : readers.room text = none) (h : Json.read text = .ok v)
    (hwhole : Json.hasHalf 0 text.toList = false) :
    parse readers p text = .ok (.tree v) := by
  simp [parse, hp, hroom, h, hwhole]

namespace TypeScript

/-- A rendered file lists an argument in the line that opens a method. -/
def Lists (text : String) (m : Method) (a : Argument) : Prop :=
  ∃ (before after : String) (front back : List String),
    text = before ++ "    public " ++ m.name.text ++ "(" ++
      ", ".intercalate (front ++ a.text :: back) ++ "): Observable<" ++ after

/-- The argument of each parameter is listed with its method. -/
theorem lists_of_ofParameter {s : Service} {m : Method} {p : Parameter}
    {a : Argument} {text : String} (hm : m ∈ s.methods) (hp : p ∈ m.parameters)
    (ha : Argument.ofParameter p = .ok a)
    (htext : TemplateSet.packaged.service s = .ok text) : Lists text m a := by
  obtain ⟨f, hfile, rfl⟩ := Service.exists_file htext
  obtain ⟨ds, rfl, hds⟩ := ServiceFile.forall₂_of_ofService hfile
  obtain ⟨d, hmem, hd⟩ := Traced.exists_of_mem_right hds.flip hm
  obtain ⟨arguments, hdecl, harguments⟩ := MethodDecl.exists_of_ofMethod hd
  have hname : d.name = m.name.text := by
    rw [hdecl]
    rfl
  obtain ⟨a', ha', hofp⟩ := Traced.exists_of_mem_right harguments.flip
    (mem_signature.2 hp)
  obtain rfl : a' = a := Except.ok.inj (hofp.symm.trans ha)
  have hlisted : a'.text ∈ d.arguments.map Argument.text := by
    rw [hdecl]
    exact List.mem_map.2 ⟨a', ha', rfl⟩
  obtain ⟨front, back, hsplit⟩ := List.append_of_mem hlisted
  have hsigned := MethodDecl.isSigned_of_ofMethod hd
  obtain ⟨type, hopening⟩ := hsigned.opening
  obtain ⟨body, hbody⟩ := hsigned.text
  obtain ⟨before, after, hlayout⟩ :=
    @ServiceFile.exists_text_eq d (ServiceFile.of s ds) hmem
  refine ⟨before ++ "\n" ++ d.comment, type ++ "> \x7b\n" ++ body ++ after, front,
    back, ?_⟩
  rw [hlayout, hbody, hopening, hsplit, hname]
  simp only [String.append_assoc, -String.reduceAppend]

/-- **Defaults read back.** A parameter that is restricted to one value, which is
exact, keeps it in its record. Its argument ends in a literal, which stands with
it in the opening line of every method that has the parameter; the loader reads
it as that value where there is room for it, and it has safe characters only. -/
theorem default_reads_back {fields : Fields} {v : Value}
    (henum : fields.get "enum" = .list [v]) (hv : Json.IsExact v) :
    ∃ (p : Parameter) (l : String),
      (Parameter.build (.map fields)).outcome = .ok p ∧ p.singleton = some v ∧
      Json.IsSafeText l.toList ∧
      Json.read l = .ok v ∧
      (∀ readers path, Source.isYaml path = false → readers.room l = none →
        Source.parse readers path l = .ok (.tree v)) ∧
      ∀ last, ∃ a,
        Argument.ofParameter { p with isLast := last } = .ok a ∧
        a.text = p.argument ++ ": " ++ p.typescriptType ++ " = " ++ l ∧
        ∀ s : Service, ∀ m ∈ s.methods, { p with isLast := last } ∈ m.parameters →
          ∀ text, TemplateSet.packaged.service s = .ok text → Lists text m a := by
  obtain ⟨l, hliteral, hdenotes, hsafe, hwhole⟩ :=
    Json.exists_literal?_of_isExact hv
  have hsingleton : (Parameter.read fields).singleton = some v := by
    simp [Parameter.read, Parameter.allowedValues, henum, Value.items?]
  have hread := Json.read_of_denotes hdenotes hsafe
  have hnone : Json.hasHalf 0 (String.ofList l).toList = false := by
    have hend := hwhole []
    rwa [List.append_nil, ← String.toList_ofList (l := l)] at hend
  refine ⟨Parameter.read fields, String.ofList l, rfl, hsingleton, ?_, hread,
    fun readers path hpath hroom =>
      Source.parse_of_read hpath hroom hread hnone, fun last => ?_⟩
  · rwa [String.toList_ofList]
  · have hdefault : Argument.defaultOf
        { Parameter.read fields with isLast := last } =
          .ok (some (String.ofList l)) := by
      simp only [Argument.defaultOf, hsingleton, hliteral]
    have hargument := Argument.ofParameter_eq
      { Parameter.read fields with isLast := last }
    rw [hdefault] at hargument
    refine ⟨_, hargument, ?_, fun s m hm hp text htext =>
      lists_of_ofParameter hm hp hargument htext⟩
    simp [Argument.text, Argument.of, hsingleton, String.append_assoc,
      -String.reduceAppend]

/-- A list of what is escaped in texts, and of the other kinds of values. -/
def note : Value :=
  .list
    [ .str "it's <b>\"𝄞\"</b>\\\n&", .list [.int (-70), .null, .bool true],
      .list [] ]

/-- Its literal. -/
def noteLiteral : String :=
  "[\"it\\u0027s \\u003cb\\u003e\\\"\\ud834\\udd1e\\\"\\u003c/b\\u003e\\\\\\n\\u0026\", " ++
    "[-70, null, true], []]"

/-- A parameter that is restricted to it. -/
def noteField : Fields :=
  [ (.str "name", .str "note"), (.str "in", .str "query"),
    (.str "type", .str "string"), (.str "enum", .list [note]) ]

theorem isExact_note : Json.IsExact note := by
  refine .list (List.forall_mem_cons.2 ⟨.str _, List.forall_mem_cons.2 ⟨?_,
    List.forall_mem_singleton.2 (.list (List.forall_mem_nil _))⟩⟩)
  exact .list (List.forall_mem_cons.2 ⟨.int (by decide), List.forall_mem_cons.2
    ⟨.null, List.forall_mem_singleton.2 (.bool true)⟩⟩)

/-- It is read from the end of its argument. -/
theorem default_reads_back_note :
    ∃ a, Argument.ofParameter (Parameter.read noteField) = .ok a ∧
      a.text = "note: string = " ++ noteLiteral ∧
      Json.read noteLiteral = .ok note := by
  obtain ⟨p, l, hp, -, -, hread, -, harguments⟩ :=
    @default_reads_back noteField note rfl isExact_note
  obtain rfl : Parameter.read noteField = p := Except.ok.inj hp
  obtain ⟨a, ha, htext, -⟩ := harguments false
  have hrecord : { Parameter.read noteField with isLast := false } =
      Parameter.read noteField := rfl
  have hprinted : (Argument.ofParameter (Parameter.read noteField)).toOption.map
      Argument.text = some ("note: string = " ++ noteLiteral) := by
    decide +kernel
  have hfront : (Parameter.read noteField).argument ++ ": " ++
      (Parameter.read noteField).typescriptType ++ " = " = "note: string = " := by
    decide +kernel
  rw [hrecord] at ha
  rw [ha] at hprinted
  have hliteral : l = noteLiteral := by
    have hsame := htext.symm.trans (Option.some.inj hprinted)
    rw [hfront] at hsame
    exact String.append_right_inj _ |>.1 hsame
  exact ⟨a, ha, Option.some.inj hprinted, hliteral ▸ hread⟩

end TypeScript

end ClientGen
