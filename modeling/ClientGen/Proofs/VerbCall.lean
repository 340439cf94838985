import Mathlib.Data.Bool.AllAny
import ClientGen.Proofs.MethodIdentifier
import ClientGen.Proofs.Transmission
import ClientGen.Proofs.Verb

/-!
# Verbs and calls

The key of an operation gives its method a verb, the upper case of the key, and
a call, the lower case of the key. Everything that is asked of the verb is
settled by its being one of five words. The call is not: a key may have `ſ` or
`ﬆ` in it, whose upper case is ASCII and whose lower case is not. Such a key is
a verb, and the request of its method goes to a call that no client has.

So the fields of a method agree exactly if the key is ASCII (`verb_fields_iff`).
The only verb that has other keys is `POST` (`verb_of_not_isAscii`), and there
is one (`exists_call_beyond_ascii`).
-/

namespace ClientGen

/-! ### Texts in ASCII -/

namespace Text

/-- All characters are ASCII. -/
def IsAscii (s : List Char) : Prop := ∀ c ∈ s, c.toNat < 128

instance (s : List Char) : Decidable (IsAscii s) :=
  List.decidableBAll (fun c : Char => c.toNat < 128) s

variable {s : List Char}

/-- In ASCII the lower case forgets an upper case before it. -/
theorem lowerChars_upperChars_of_isAscii (h : IsAscii s) :
    lowerChars (upperChars s) = lowerChars s := by
  have hchar : ∀ c ∈ s, c.toUpper.toNat < 128 ∧ c.toUpper.toLower = c.toLower :=
    fun c hc => forall_ascii (P := fun c => c.toUpper.toNat < 128 ∧
      c.toUpper.toLower = c.toLower) (by decide) (h c hc)
  have hupper : IsAscii (s.map Char.toUpper) := by
    intro d hd
    obtain ⟨c, hc, rfl⟩ := List.mem_map.1 hd
    exact (hchar c hc).1
  rw [upperChars_of_ascii h, lowerChars, lowerChars, lowerAfter_of_ascii hupper,
    lowerAfter_of_ascii h, List.map_map]
  exact List.map_congr_left fun c hc => (hchar c hc).2

/-- The characters beyond ASCII whose upper case is ASCII are in lower case. -/
theorem mem_lowerAfter_of_mem_narrow {c : Char} (hc : c ∈ narrow) (hs : c ∈ s)
    (after : Bool) : c ∈ lowerAfter after s := by
  induction s generalizing after with
  | nil => cases hs
  | cons d rest ih =>
    rw [lowerAfter, List.mem_append]
    rcases List.mem_cons.1 hs with rfl | hrest
    · have hall : ∀ c ∈ narrow, c ≠ capitalSigma ∧ c ∈ lowerChar c :=
        List.all_iff_forall_prop.1 (by decide +kernel)
      left
      rw [if_neg (hall c hc).1]
      exact (hall c hc).2
    · exact Or.inr (ih hrest _)

/-- A character that is not ASCII but has an upper case that can be. -/
theorem exists_mem_narrow (h : ∀ c ∈ s, IsNarrow c) (hs : ¬ IsAscii s) :
    ∃ c ∈ s, c ∈ narrow := by
  unfold IsAscii at hs
  simp only [not_forall] at hs
  obtain ⟨c, hc, hhigh⟩ := hs
  exact ⟨c, hc, (h c hc).resolve_left hhigh⟩

theorem isAscii_lowerChars_iff (h : ∀ c ∈ s, IsNarrow c) :
    IsAscii (lowerChars s) ↔ IsAscii s := by
  constructor
  · intro hlower
    refine Decidable.byContradiction fun hs => ?_
    obtain ⟨c, hc, hnarrow⟩ := exists_mem_narrow h hs
    have hhigh : ∀ c ∈ narrow, ¬ c.toNat < 128 :=
      List.all_iff_forall_prop.1 (by decide)
    exact hhigh c hnarrow (hlower c (mem_lowerAfter_of_mem_narrow hnarrow hc false))
  · intro hs d hd
    have hchar : ∀ c ∈ s, c.toLower.toNat < 128 := fun c hc =>
      forall_ascii (P := fun c => c.toLower.toNat < 128) (by decide) (hs c hc)
    rw [lowerChars, lowerAfter_of_ascii hs] at hd
    obtain ⟨c, hc, rfl⟩ := List.mem_map.1 hd
    exact hchar c hc

end Text

/-! ### Keys and calls -/

namespace Method

open Text

/-- The calls that a client has. -/
def calls : List String := ["get", "post", "put", "delete", "patch"]

variable {s : List Char}

/-- The lower case of a verb is a call of its own. -/
theorem lower_of_mem_verbs {verb : String} (h : verb ∈ verbs) :
    Text.lower verb ∈ calls := by
  have hall : ∀ verb ∈ verbs, Text.lower verb ∈ calls := by decide +kernel
  exact hall verb h

/-- Of all verbs only one is spelled by characters beyond ASCII. -/
theorem verb_of_not_isAscii (h : SpellsVerb s) (hs : ¬ IsAscii s) :
    String.ofList (upperChars s) = "POST" := by
  have hall : ∀ c ∈ narrow, ∀ verb ∈ verbs, upperChar c <:+: verb.toList →
      verb = "POST" :=
    List.all_iff_forall_prop.1 (by decide +kernel)
  obtain ⟨c, hc, hnarrow⟩ := exists_mem_narrow (isNarrow_of_spellsVerb h) hs
  obtain ⟨before, after, rfl⟩ := List.append_of_mem hc
  refine hall c hnarrow _ h ⟨upperChars before, upperChars after, ?_⟩
  rw [String.toList_ofList, upperChars_append]
  simp [upperChars]

/-- A key in ASCII, and no other one, is called like its verb. -/
theorem lower_eq_lower_upper_iff {key : String} (h : SpellsVerb key.toList) :
    Text.lower key = Text.lower (Text.upper key) ↔ IsAscii key.toList := by
  rw [Text.lower, Text.lower, Text.toList_upper, String.ofList_inj]
  constructor
  · intro hsame
    have hcall : IsAscii (Text.lower (Text.upper key)).toList := by
      have hall : ∀ call ∈ calls, IsAscii call.toList := by decide
      exact hall _ (lower_of_mem_verbs h)
    rw [Text.toList_lower, Text.toList_upper, ← hsame] at hcall
    exact (isAscii_lowerChars_iff (isNarrow_of_spellsVerb h)).1 hcall
  · exact fun hascii => (lowerChars_upperChars_of_isAscii hascii).symm

/-- The lower case of a key in ASCII, and of no other one, is a call. -/
theorem lower_mem_calls_iff {key : String} (h : SpellsVerb key.toList) :
    Text.lower key ∈ calls ↔ IsAscii key.toList := by
  constructor
  · intro hmem
    have hall : ∀ call ∈ calls, IsAscii call.toList := by decide
    have hcall := hall _ hmem
    rw [Text.toList_lower] at hcall
    exact (isAscii_lowerChars_iff (isNarrow_of_spellsVerb h)).1 hcall
  · intro hascii
    rw [(lower_eq_lower_upper_iff h).2 hascii]
    exact lower_of_mem_verbs h

/-- What the fields of a method say that the verb of a key spells. -/
structure IsKeyed (key : String) (m : Method) : Prop where
  verb : m.verb = Text.upper key
  mem_verbs : m.verb ∈ verbs
  isGet : m.isGet = true ↔ m.verb = "GET"
  hasPayload : m.hasPayload = true ↔ m.verb ∈ payloadVerbs
  /-- It is called like its verb if the key is ASCII. -/
  call : m.call = Text.lower m.verb ↔ IsAscii key.toList
  mem_calls : m.call ∈ calls ↔ IsAscii key.toList
  post : ¬ IsAscii key.toList → m.verb = "POST"
  /-- The request is sent by the call. -/
  text : ∀ d, TypeScript.MethodDecl.ofMethod m = .ok d → ∃ before after,
    d.text = before ++ "        let response = this.http." ++ m.call ++
      "(this.domain + uri, " ++ after

end Method

/-- The line that sends a request, in the text of a method. -/
theorem TypeScript.MethodDecl.exists_call {m : Method} {d : MethodDecl}
    (h : ofMethod m = .ok d) :
    ∃ before after, d.text = before ++ "        let response = this.http." ++
      m.call ++ "(this.domain + uri, " ++ after := by
  have hcall : d.call = m.call := by
    obtain ⟨arguments, rfl, -⟩ := exists_of_ofMethod h
    rfl
  have hline : d.callLine = "        let response = this.http." ++ m.call ++
      "(this.domain + uri, " ++
      ((if d.body = .absent then "" else "body, ") ++
        "\x7b headers: headers, search: params \x7d);\n") := by
    unfold callLine
    rw [hcall, String.append_assoc]
  rw [text_eq, finish, hline]
  generalize (if d.body = .absent then "" else "body, ") ++
    "\x7b headers: headers, search: params \x7d);\n" = given
  refine ⟨d.start ++ String.join (d.setters.map Setter.text) ++
      (if d.isSecure then tokenUse else "") ++
      (if d.jsonType.isSome then
        "        headers.set('Accept', 'application/json');\n"
      else "") ++ d.bodyLines,
    given ++ d.returnLine ++ "    \x7d\n", ?_⟩
  simp only [String.append_assoc, -String.reduceAppend]

namespace Operation

open Method Text

theorem isKeyed_methodOf {document : Fields} {onServer : Bool} {o : Operation}
    {path key : String} {isJson : Bool} (h : Text.upper key ∈ verbs) :
    (o.methodOf document onServer path key isJson).IsKeyed key where
  verb := rfl
  mem_verbs := h
  isGet := beq_iff_eq
  hasPayload := hasPayload_iff h
  call := lower_eq_lower_upper_iff h
  mem_calls := lower_mem_calls_iff h
  post := verb_of_not_isAscii h
  text := fun _ hd => TypeScript.MethodDecl.exists_call hd

end Operation

namespace Service

/-- **Verbs and calls.** A document that becomes a service has a method for each
key of a path that is a verb and holds a mapping. Its verb is one of five words,
which decides whether it is a plain one and whether it has a body. It is called
like its verb, and by a call that clients have, exactly if the key is ASCII. The
other keys all spell one verb. -/
theorem verb_fields_iff {document : Fields} {onServer : Bool} {s : Service}
    (h : (build (.map document) onServer).outcome = .ok s) :
    List.Forall₂ (fun (o : Operation) (m : Method) =>
        ∃ key, o.verb = .str key ∧ m.IsKeyed key)
      (Operation.all document) s.methods := by
  obtain ⟨methods, domain, hmethods, -, rfl⟩ := build_outcome_eq_ok.1 h
  refine (Operation.forall₂_methodOf hmethods).imp ?_
  rintro o m ⟨ho, path, key, isJson, -, hkey, -, rfl⟩
  obtain ⟨-, key', -, -, hkey', hverb, -⟩ := Operation.mem_all_iff.1 ho
  obtain rfl := Value.str.inj (hkey.symm.trans hkey')
  exact ⟨key, hkey, Operation.isKeyed_methodOf hverb⟩

/-- A document with one path, and an operation for each of some keys. -/
def withKeys (keys : List String) : Fields :=
  [ (.str "paths", .map
      [(.str "/pets", .map (keys.map fun key => (.str key, .map [])))]) ]

/-- Keys in ASCII are called like their verbs in whatever case they are. -/
theorem verb_fields_mixed :
    ∃ s, (build (.map (withKeys ["Get", "poſt", "PATCH"])) false).outcome = .ok s ∧
      List.Forall₂ (fun (key : String) (m : Method) => m.IsKeyed key)
        ["Get", "poſt", "PATCH"] s.methods ∧
      s.methods.map (·.call) = ["get", "poſt", "patch"] := by
  obtain ⟨s, hs⟩ : ∃ s, (build (.map (withKeys ["Get", "poſt", "PATCH"]))
      false).outcome = .ok s := ⟨_, rfl⟩
  have hkeys : (Operation.all (withKeys ["Get", "poſt", "PATCH"])).map
      (·.verb.text) = ["Get", "poſt", "PATCH"] := by
    decide +kernel
  have hcalls : ((build (.map (withKeys ["Get", "poſt", "PATCH"]))
      false).outcome.toOption.map fun s => s.methods.map (·.call)) =
        some ["get", "poſt", "patch"] := by
    decide +kernel
  rw [hs] at hcalls
  refine ⟨s, hs, ?_, Option.some.inj hcalls⟩
  rw [← hkeys, List.forall₂_map_left_iff]
  refine (verb_fields_iff hs).imp ?_
  rintro o m ⟨key, hkey, hkeyed⟩
  rwa [hkey, Value.text_str]

/-- A method of a document may be called by a name that is not its verb in lower
case, nor any call that clients have. -/
theorem exists_call_beyond_ascii :
    ¬ ∀ (document : Fields) (onServer : Bool) (s : Service),
      (build (.map document) onServer).outcome = .ok s →
      ∀ m ∈ s.methods, m.call = Text.lower m.verb ∧ m.call ∈ Method.calls := by
  intro h
  obtain ⟨s, hs⟩ : ∃ s, (build (.map (withKeys ["poſt"])) false).outcome =
      .ok s := ⟨_, rfl⟩
  have hcalls : ((build (.map (withKeys ["poſt"])) false).outcome.toOption.map
      fun s => s.methods.map (·.call)) = some ["poſt"] := by
    decide +kernel
  rw [hs] at hcalls
  obtain ⟨m, hm, hcall⟩ := List.map_eq_singleton_iff.1 (Option.some.inj hcalls)
  obtain ⟨-, hmem⟩ := h _ false s hs m (by rw [hm]; exact List.mem_cons_self)
  rw [hcall] at hmem
  exact absurd hmem (by decide)

end Service

end ClientGen
