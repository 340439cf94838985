import ClientGen.Proofs.Generation
import ClientGen.Proofs.ImportTargets
import ClientGen.Proofs.Reference

/-!
# The modules of a client

Model files import one another, and the barrel exports them all. An imported
name comes from a reference, the name of a model from a key, and the name of a
file from the model; each is put into its form on its own. Here they are shown
to meet in the texts that a run leaves on the disk: `no_dangling_module` says that
no import line and no export line leads to a file that is not written, and that
the barrel has a line for each model.
-/

namespace ClientGen

namespace Property

/-- The references of a schema point at definitions, and a schema that is a
reference is no array and not restricted to values. -/
structure LinksWithin (document : Fields) (schema : Value) : Prop where
  own : ∀ ref, (schema.fields?.getD []).get? "$ref" = some ref →
    Definition.Resolves document ref
  items : ∀ ref, ((schema.fields?.getD []).inner "items").get? "$ref" = some ref →
    Definition.Resolves document ref
  plain : (schema.fields?.getD []).has "$ref" = true →
    ((schema.fields?.getD []).get "type").isText "array" = false ∧
      allowedValues schema = []

/-- No reference is overridden. -/
private theorem LinksWithin.overriding?_eq_none {document : Fields}
    {name schema : Value} (h : LinksWithin document schema) :
    overriding? name schema = none := by
  unfold overriding?
  cases hown : (schema.fields?.getD []).has "$ref" with
  | false => simp [hown]
  | true =>
    obtain ⟨harray, hvalues⟩ := h.plain hown
    unfold allowedValues at hvalues
    simp [harray, declares, hvalues]

/-- A property that points at a model is called like a reference to a
definition. -/
theorem type_read_of_isRef {document : Fields} {name schema : Value}
    (hlinks : LinksWithin document schema)
    (h : (read name schema).1.isRef = true) :
    ∃ ref, Definition.Resolves document ref ∧
      (read name schema).1.type = .str (Schema.referenceType ref) := by
  obtain ⟨ref, href, htype⟩ :=
    exists_reference_of_isRef h hlinks.overriding?_eq_none
  rw [references, List.mem_append, Option.mem_toList, Option.mem_toList] at href
  exact ⟨ref, href.elim (hlinks.own ref) (hlinks.items ref), htype⟩

end Property

namespace Definition

/-- All properties of all definitions point at definitions. -/
def LinksWithin (document : Fields) : Prop :=
  ∀ e ∈ schemasOf document, ∀ p ∈ sources (e.2.fields?.getD []),
    Property.LinksWithin document p.2

/-- What a model imports is called like a reference of one of its
properties. -/
theorem exists_ref_of_mem_imports {document : Fields} {name : Value}
    {schema : Fields}
    (hlinks : ∀ p ∈ sources schema, Property.LinksWithin document p.2)
    {n : String} (hn : n ∈ (read name schema).imports) :
    ∃ ref, Resolves document ref ∧ n = Schema.referenceType ref := by
  obtain ⟨q, hq, htype⟩ := (mem_imports_read name schema).1 hn
  rw [refs_read, List.mem_map] at hq
  obtain ⟨p, hp, rfl⟩ := hq
  obtain ⟨hp, hisRef⟩ := List.mem_filter.1 hp
  obtain ⟨ref, hresolves, hname⟩ :=
    Property.type_read_of_isRef (hlinks p hp) hisRef
  exact ⟨ref, hresolves, Value.str.inj (htype.symm.trans hname)⟩

/-- What a model imports is the name of a definition. -/
theorem exists_key_of_mem_imports {document : Fields}
    (hkeys : WellKeyed document) (hlinks : LinksWithin document)
    {d : Definition} (hd : d ∈ readAll document) {n : String}
    (hn : n ∈ d.imports) :
    ∃ k, .str k ∈ keys document ∧ n = Text.identifier k := by
  obtain ⟨e, he, last, rfl⟩ := exists_entry hd
  have hread : n ∈ (read e.1 (e.2.fields?.getD [])).imports := hn
  obtain ⟨ref, hresolves, rfl⟩ := exists_ref_of_mem_imports (hlinks e he) hread
  exact Schema.referenceType_of_resolves hkeys hresolves

end Definition

namespace TypeScript

private theorem append_moduleEnding (s n : String) :
    s ++ (n ++ ".model") ++ "';\n" = s ++ n ++ ".model';\n" := by
  have hending : ".model" ++ "';\n" = ".model';\n" := by decide
  calc s ++ (n ++ ".model") ++ "';\n"
      = s ++ n ++ (".model" ++ "';\n") := by simp only [String.append_assoc]
    _ = s ++ n ++ ".model';\n" := by rw [hending]

/-- The line that imports a model names its module in lower case. -/
theorem ModelFile.importLine_eq (n : String) :
    importLine n = "import \x7b " ++ n ++ " \x7d from './" ++ Text.lower n ++
      ".model';\n" :=
  append_moduleEnding _ _

/-- The line that exports a model names its module in lower case. -/
theorem Barrel.exportLine_eq (n : String) :
    exportLine n = "export * from './models/" ++ Text.lower n ++
      ".model';\n" :=
  append_moduleEnding _ _

end TypeScript

namespace Definition

/-- What the file of a model holds below its imports: its enumerations and its
interface. -/
def belowImports (d : Definition) : String :=
  String.join (d.enums.entries.map fun e =>
      (TypeScript.EnumDecl.ofEnumeration e).text) ++ "\n" ++
    (TypeScript.textIfTruthy d.description).elim ""
      (fun t => "/**\n * " ++ t ++ "\n */\n") ++
    "export interface " ++ nameText d.name ++ " \x7b\n" ++
    String.join ((d.properties ++ d.refs).map fun p =>
      (TypeScript.Field.ofProperty p).text) ++ "\x7d\n"

/-- The text of the file of a model starts with one line for each model that it
imports. -/
private theorem packaged_model (d : Definition) :
    TemplateSet.packaged.model d = .ok ("/* tslint:disable */\n" ++
      String.join (d.imports.map fun n =>
        "import \x7b " ++ n ++ " \x7d from './" ++ Text.lower n ++
          ".model';\n") ++ d.belowImports) := by
  have hlines : (fun n => "import \x7b " ++ n ++ " \x7d from './" ++
      Text.lower n ++ ".model';\n") = TypeScript.ModelFile.importLine :=
    funext fun n => (TypeScript.ModelFile.importLine_eq n).symm
  have htext : (TypeScript.ModelFile.ofDefinition d).text =
      "/* tslint:disable */\n" ++
        String.join (d.imports.map TypeScript.ModelFile.importLine) ++
        d.belowImports := by
    unfold TypeScript.ModelFile.text TypeScript.ModelFile.ofDefinition
      belowImports
    simp only [List.map_map, Function.comp_def, String.append_assoc]
    cases TypeScript.textIfTruthy d.description with
    | none => rfl
    | some t => rfl
  rw [hlines, ← htext]
  rfl

end Definition

/-- The text of the file that exports the models has one line for each. -/
private theorem Service.packaged_barrel (s : Service) :
    TemplateSet.packaged.barrel s = .ok ("/* tslint:disable */\n" ++
      String.join (s.definitions.map fun d =>
        "export * from './models/" ++ Text.lower (nameText d.name) ++
          ".model';\n")) := by
  have hlines : (fun n => "export * from './models/" ++ Text.lower n ++
      ".model';\n") = TypeScript.Barrel.exportLine :=
    funext fun n => (TypeScript.Barrel.exportLine_eq n).symm
  have htext : (TypeScript.Barrel.ofDefinitions s.definitions).text =
      "/* tslint:disable */\n" ++ String.join (s.definitions.map fun d =>
        TypeScript.Barrel.exportLine (nameText d.name)) := by
    unfold TypeScript.Barrel.text TypeScript.Barrel.ofDefinitions
    simp only [List.map_map, Function.comp_def]
  rw [← hlines] at htext
  rw [← htext]
  rfl

namespace Generation

variable {engine : Engine} {s : Service} {out : Path} {disk : Disk}
  {paths : List Path}

/-- The file that exports the models is written last. -/
private theorem readFile_barrel_of_run
    (h : (run engine none s out disk).result = .ok paths) :
    ∃ text, TemplateSet.packaged.barrel s = .ok text ∧
      (run engine none s out disk).disk.readFile (out.child "models.ts") =
        .ok text.toUTF8 := by
  obtain ⟨os, ws, -, -, hreceives, hall⟩ :=
    exists_written engine none s out disk
  obtain ⟨rfl, -, hwritten⟩ := hall paths h
  have hplan : planned engine none s out disk =
      (Output.service .packaged s out ::
        s.definitions.mapIdx fun _ d => Output.model .packaged out d) ++
      Output.barrel .packaged s out :: [] := rfl
  rw [hplan] at hwritten
  obtain ⟨before, w, later, rfl, hw, hlater⟩ := exists_split_of_forall₂ hwritten
  obtain rfl := List.forall₂_nil_left_iff.1 hlater
  have hpath : out.child "models.ts" = w.path := Except.ok.inj hw.path
  refine ⟨w.text, hw.text, ?_⟩
  rw [hpath]
  refine hreceives.last before w [] rfl fun v hv => ?_
  cases hv

/-- Where the file of a model lies there is the text of a model whose file has
the same name. -/
private theorem exists_readFile_model_of_run
    (h : (run engine none s out disk).result = .ok paths) {d : Definition}
    (hd : d ∈ s.definitions)
    (hpaths : ∀ own ∈ s.definitions, (Output.model .packaged out own).path =
      .ok (Output.modelPath out (Text.lower (nameText own.name)))) :
    ∃ own ∈ s.definitions, ∃ text,
      Text.lower (nameText own.name) = Text.lower (nameText d.name) ∧
      TemplateSet.packaged.model own = .ok text ∧
      (run engine none s out disk).disk.readFile
        (Output.modelPath out (Text.lower (nameText d.name))) =
          .ok text.toUTF8 := by
  obtain ⟨os, ws, -, hput, hreceives, hall⟩ :=
    exists_written engine none s out disk
  obtain ⟨rfl, -, hwritten⟩ := hall paths h
  have hplan : planned engine none s out disk =
      Output.plan (fun _ => .packaged) s out := rfl
  obtain ⟨turn, hmem⟩ :=
    Output.exists_model_mem_plan (fun _ => .packaged) out hd
  obtain ⟨w, hw, hone⟩ := Traced.exists_of_mem_right hput.flip (hplan ▸ hmem)
  have hpath : w.path = Output.modelPath out (Text.lower (nameText d.name)) :=
    Except.ok.inj (hone.path.symm.trans (hpaths d hd))
  obtain ⟨v, hv, hplace, hread⟩ := hreceives.exists_read hput hw
  obtain ⟨o, ho, hlast⟩ := Traced.exists_of_mem_right hwritten hv
  rw [hplan] at ho
  -- What lies there is the file of a model: the other two are named otherwise.
  obtain ⟨n, -, hchild⟩ := Output.name_of_path hone.path
  have hresolve := hone.place
  rw [hchild, ← hplace] at hresolve
  rcases Output.mem_plan.1 ho with rfl | ⟨i, hi, rfl⟩ | rfl
  · have hservice : v.path = out.child "index.ts" :=
      (Except.ok.inj hlast.path).symm
    exact absurd rfl
      (Output.place_ne_service hresolve (hservice ▸ hlast.place))
  · have hown : s.definitions[i] ∈ s.definitions := List.getElem_mem hi
    have hpath' : v.path =
        Output.modelPath out (Text.lower (nameText s.definitions[i].name)) :=
      Except.ok.inj (hlast.path.symm.trans (hpaths _ hown))
    refine ⟨s.definitions[i], hown, v.text, ?_, hlast.text, hpath ▸ hread⟩
    exact Output.module_eq_of_resolve (hpath' ▸ hlast.place)
      (hplace ▸ hpath ▸ hone.place)
  · have hbarrel : v.path = out.child "models.ts" :=
      (Except.ok.inj hlast.path).symm
    exact absurd rfl
      (Output.place_ne_barrel hresolve (hbarrel ▸ hlast.place))

end Generation

namespace Service

/-- The file of a model is called like the model in lower case. -/
private theorem path_of_wellKeyed {document : Fields}
    (hkeys : Definition.WellKeyed document) (out : Path) {d : Definition}
    (hd : d ∈ Definition.readAll document) :
    (Output.model .packaged out d).path =
      .ok (Output.modelPath out (Text.lower (nameText d.name))) := by
  obtain ⟨k, -, hslash, hname⟩ := Definition.exists_key hkeys hd
  have hpath := Output.path_model .packaged out hname
    (Text.slash_notMem_identifier hslash)
  rw [hpath, hname]
  rfl

/-- **No dangling module.** Whatever a model imports is a model of the service.
Of a generation that succeeds with the packaged views, the text of each model
file starts with its imports, and each of them leads to a file that was written.
On the disk lies, for each model, the text of a model with the same file, and in
the barrel one line for each model, which leads to the file of this model; that
file was written, too. -/
theorem no_dangling_module {document : Fields} {onServer : Bool} {s : Service}
    (hkeys : Definition.WellKeyed document)
    (hlinks : Definition.LinksWithin document)
    (h : (build (.map document) onServer).outcome = .ok s) :
    (∀ d ∈ s.definitions, ∀ n ∈ d.imports, s.HasModel n) ∧
    ∀ engine out disk paths,
      (Generation.run engine none s out disk).result = .ok paths →
      (∀ d ∈ s.definitions,
        TemplateSet.packaged.model d = .ok ("/* tslint:disable */\n" ++
          String.join (d.imports.map fun n =>
            "import \x7b " ++ n ++ " \x7d from './" ++ Text.lower n ++
              ".model';\n") ++ d.belowImports) ∧
        ∀ n ∈ d.imports, Output.modelPath out (Text.lower n) ∈ paths) ∧
      (∀ d ∈ s.definitions, ∃ own ∈ s.definitions, ∃ text,
        Text.lower (nameText own.name) = Text.lower (nameText d.name) ∧
        TemplateSet.packaged.model own = .ok text ∧
        (Generation.run engine none s out disk).disk.readFile
          (Output.modelPath out (Text.lower (nameText d.name))) =
            .ok text.toUTF8) ∧
      (Generation.run engine none s out disk).disk.readFile
          (out.child "models.ts") = .ok ("/* tslint:disable */\n" ++
        String.join (s.definitions.map fun d =>
          "export * from './models/" ++ Text.lower (nameText d.name) ++
            ".model';\n")).toUTF8 ∧
      ∀ d ∈ s.definitions,
        (Output.model .packaged out d).path =
          .ok (Output.modelPath out (Text.lower (nameText d.name))) ∧
        Output.modelPath out (Text.lower (nameText d.name)) ∈ paths := by
  obtain ⟨methods, domain, -, -, rfl⟩ := build_outcome_eq_ok.1 h
  have hmodel : ∀ d ∈ Definition.readAll document, ∀ n ∈ d.imports,
      ∃ k, .str k ∈ Definition.keys document ∧ n = Text.identifier k :=
    fun d hd n hn => Definition.exists_key_of_mem_imports hkeys hlinks hd hn
  constructor
  · intro d hd n hn
    obtain ⟨k, hk, rfl⟩ := hmodel d hd n hn
    exact Definition.exists_named hk
  · intro engine out disk paths hrun
    have hpaths : ∀ own ∈ Definition.readAll document,
        (Output.model .packaged out own).path =
          .ok (Output.modelPath out (Text.lower (nameText own.name))) :=
      fun own hown => path_of_wellKeyed hkeys out hown
    have hwritten : ∀ own ∈ Definition.readAll document,
        Output.modelPath out (Text.lower (nameText own.name)) ∈ paths := by
      intro own hown
      obtain ⟨k, -, hslash, hname⟩ := Definition.exists_key hkeys hown
      have hmem := Generation.modelPath_mem_of_run hrun hown hname
        (Text.slash_notMem_identifier hslash)
      rw [hname]
      exact hmem
    refine ⟨?_, ?_, ?_, ?_⟩
    · refine fun d hd => ⟨d.packaged_model, fun n hn => ?_⟩
      obtain ⟨k, hk, rfl⟩ := hmodel d hd n hn
      obtain ⟨own, hown, hname⟩ := Definition.exists_named hk
      have hmem := hwritten own hown
      rw [hname] at hmem
      exact hmem
    · exact fun d hd =>
        Generation.exists_readFile_model_of_run hrun hd hpaths
    · obtain ⟨text, htext, hread⟩ := Generation.readFile_barrel_of_run hrun
      rw [packaged_barrel] at htext
      cases htext
      exact hread
    · exact fun d hd => ⟨hpaths d hd, hwritten d hd⟩

/-- In the shop the order and its lines point at each other. -/
private theorem linksWithin_shop : Definition.LinksWithin shop := by
  intro e he p hp
  rcases List.mem_cons.1 he with rfl | he
  · rcases List.mem_cons.1 hp with rfl | hp
    · refine ⟨?_, ?_, ?_⟩
      · intro _ h
        cases h
      · intro _ h
        cases h
      · intro h
        cases h
    · rcases List.mem_singleton.1 hp with rfl
      refine ⟨?_, ?_, ?_⟩
      · intro _ h
        cases h
      · intro ref h
        cases h
        exact resolves_line_shop
      · intro h
        cases h
  · rcases List.mem_singleton.1 he with rfl
    rcases List.mem_singleton.1 hp with rfl
    refine ⟨?_, ?_, ?_⟩
    · intro ref h
      cases h
      exact resolves_order_shop
    · intro _ h
      cases h
    · intro _
      exact ⟨rfl, rfl⟩

/-- The shop has two models that import each other, both are written, and the
file that exports them has a line for each. -/
theorem no_dangling_module_shop :
    ∃ s, (build (.map shop) false).outcome = .ok s ∧
      (∀ d ∈ s.definitions, ∀ n ∈ d.imports, s.HasModel n) ∧
      ∃ paths, (Generation.run .literal none s ⟨"", ["out"]⟩ .empty).result =
          .ok paths ∧
        (∀ d ∈ s.definitions, ∀ n ∈ d.imports,
          Output.modelPath ⟨"", ["out"]⟩ (Text.lower n) ∈ paths) ∧
        (Generation.run .literal none s ⟨"", ["out"]⟩ .empty).disk.readFile
          (Path.child ⟨"", ["out"]⟩ "models.ts") =
            .ok ("/* tslint:disable */\n" ++
              String.join (s.definitions.map fun d =>
                "export * from './models/" ++ Text.lower (nameText d.name) ++
                  ".model';\n")).toUTF8 := by
  obtain ⟨s, hs⟩ : ∃ s, (build (.map shop) false).outcome = .ok s := ⟨_, rfl⟩
  have hwritten : ((build (.map shop) false).outcome.toOption.all fun s =>
      (Generation.run .literal none s ⟨"", ["out"]⟩
        .empty).result.toBool) = true := by
    decide +kernel
  rw [hs] at hwritten
  change (Generation.run .literal none s ⟨"", ["out"]⟩
    .empty).result.toBool = true at hwritten
  obtain ⟨himports, hfiles⟩ :=
    no_dangling_module wellKeyed_shop linksWithin_shop hs
  cases hrun : (Generation.run .literal none s ⟨"", ["out"]⟩ .empty).result with
  | error f => rw [hrun] at hwritten; cases hwritten
  | ok paths =>
    obtain ⟨hmodels, -, hbarrel, -⟩ := hfiles _ _ _ paths hrun
    exact ⟨s, hs, himports, paths, hrun, fun d hd => (hmodels d hd).2, hbarrel⟩

end Service

end ClientGen
