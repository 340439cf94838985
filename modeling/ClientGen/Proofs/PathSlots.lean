import ClientGen.Method
import ClientGen.Proofs.Trace
import ClientGen.Proofs.Value

/-!
# The slots of a path

A path is rewritten twice, once for the record of a method and once for the text
of the client, by search patterns that differ in what they capture. Patterns
are given a meaning here (`Pattern.foundAt`, `Pattern.replaceAll`), and both of
them are shown to find the slots that a path is cut into
(`replaceAll_wholeSlot`, `replaceAll_slotName`).

Which slots these are is said without a search (`Marks`): a slot opens as far to
the left as it can and closes at the nearest brace, which must be on its line.
A path is cut in one way only (`marks_iff`), and nothing outside of its slots
changes (`slots_agree`).
-/

namespace ClientGen.UrlTemplate

/-! ### Search patterns -/

/-- A search pattern. -/
inductive Pattern where
  | char (c : Char)
  /-- As few characters as possible, none of which ends a line. -/
  | shortest
  | seq (p q : Pattern)
  /-- What is captured. -/
  | group (p : Pattern)

/-- A place where a pattern applies. -/
structure Found where
  /-- The text that the pattern covers. -/
  text : List Char
  /-- The text that its group covers, if there is one. -/
  captured : Option (List Char)
  rest : List Char

namespace Pattern

/-- What a line starts with, the shortest text first. -/
def lineStarts : List Char → List Found
  | [] => [⟨[], none, []⟩]
  | c :: rest =>
    ⟨[], none, c :: rest⟩ ::
      if c = '\n' then []
      else (lineStarts rest).map fun m => { m with text := c :: m.text }

/-- How a pattern applies at the start of a text, the preferred way first. -/
def foundAt : Pattern → List Char → List Found
  | char _, [] => []
  | char c, d :: rest => if d = c then [⟨[d], none, rest⟩] else []
  | shortest, s => lineStarts s
  | seq p q, s =>
    (p.foundAt s).flatMap fun m =>
      (q.foundAt m.rest).map fun n =>
        ⟨m.text ++ n.text, n.captured.or m.captured, n.rest⟩
  | group p, s => (p.foundAt s).map fun m => { m with captured := some m.text }

/-- The text with each place replaced where the pattern applies, from left to
right. -/
def replaceAll (p : Pattern) (f : Found → List Char) : List Char → List Char
  | [] => ((p.foundAt []).head?.map f).getD []
  | c :: rest =>
    match (p.foundAt (c :: rest)).head? with
    | none => c :: replaceAll p f rest
    | some m =>
      -- What covers nothing is passed by one character further on.
      if m.rest.length < (c :: rest).length then f m ++ replaceAll p f m.rest
      else f m ++ c :: replaceAll p f rest
termination_by s => s.length
decreasing_by
  · exact Nat.lt_succ_self rest.length
  · assumption
  · exact Nat.lt_succ_self rest.length

/-- A slot, captured with its braces: `(\{.*?\})`. -/
def wholeSlot : Pattern :=
  group (seq (char '\x7b') (seq shortest (char '\x7d')))

/-- A slot of which the name is captured: `\{(.*?)\}`. -/
def slotName : Pattern :=
  seq (char '\x7b') (seq (group shortest) (char '\x7d'))

/-! ### What the patterns find -/

/-- A pattern finds a slot where there is one, and nothing else. -/
structure FindsSlots (p : Pattern)
    (found : List Char → List Char → Found) : Prop where
  nil : (p.foundAt []).head? = none
  other : ∀ c rest, c ≠ '\x7b' → (p.foundAt (c :: rest)).head? = none
  opening : ∀ rest, (p.foundAt ('\x7b' :: rest)).head? =
    (slot? rest).map fun e => found e.1 e.2
  rest : ∀ name after, (found name after).rest = after

/-- Of the texts that a line starts with, the first one that a closing brace
follows is the name of a slot. -/
private theorem head?_flatMap_lineStarts (k : List Char → List Char → Found)
    (s : List Char) :
    ((lineStarts s).flatMap fun m =>
      ((char '\x7d').foundAt m.rest).map fun n => k m.text n.rest).head? =
      (slot? s).map fun e => k e.1 e.2 := by
  -- One character further on, what is reported has it in front of the name.
  induction s generalizing k with
  | nil => rfl
  | cons c rest ih =>
    rw [lineStarts, List.flatMap_cons, slot?]
    by_cases hclose : c = '\x7d'
    · subst hclose
      rfl
    · have hnone : (char '\x7d').foundAt (c :: rest) = [] := by
        rw [foundAt, if_neg hclose]
      rw [hnone, List.map_nil, List.nil_append, if_neg hclose]
      by_cases hline : c = '\n'
      · rw [if_pos hline, if_pos hline]
        rfl
      · rw [if_neg hline, if_neg hline, List.flatMap_map,
          ih fun name after => k (c :: name) after, Option.map_map]
        rfl

/-- A character that is found is all that is told of it. -/
private theorem map_foundAt_char (g : Found → Found) (c : Char) (s : List Char) :
    ((char c).foundAt s).map g =
      ((char c).foundAt s).map fun m => g ⟨[c], none, m.rest⟩ := by
  cases s with
  | nil => rfl
  | cons d rest =>
    rw [foundAt]
    by_cases h : d = c
    · rw [if_pos h, h]
      rfl
    · rw [if_neg h]
      rfl

/-- A slot as it is found, whatever is captured of it. -/
def slotFound (captured : List Char → List Char) (name after : List Char) :
    Found :=
  ⟨'\x7b' :: (name ++ ['\x7d']), some (captured name), after⟩

theorem wholeSlot_findsSlots :
    wholeSlot.FindsSlots
      (slotFound fun name => '\x7b' :: (name ++ ['\x7d'])) where
  nil := rfl
  other c rest h := by simp [wholeSlot, foundAt, h]
  opening rest := by
    rw [← head?_flatMap_lineStarts]
    simp only [wholeSlot, foundAt, if_true, List.flatMap_cons, List.flatMap_nil,
      List.append_nil, List.map_map, List.map_flatMap]
    simp only [map_foundAt_char]
    rfl
  rest _ _ := rfl

theorem slotName_findsSlots : slotName.FindsSlots (slotFound id) where
  nil := rfl
  other c rest h := by simp [slotName, foundAt, h]
  opening rest := by
    rw [← head?_flatMap_lineStarts]
    simp only [slotName, foundAt, if_true, List.flatMap_cons, List.flatMap_nil,
      List.append_nil, List.map_map, List.map_flatMap, List.flatMap_map]
    simp only [map_foundAt_char]
    rfl
  rest _ _ := rfl

/-- To replace what such a pattern finds is to render the pieces. -/
private theorem replaceAll_eq {p : Pattern}
    {found : List Char → List Char → Found} (h : p.FindsSlots found)
    {f : Found → List Char} {g : List Char → List Char}
    (hf : ∀ name after,
      f (found name after) = '$' :: '\x7b' :: (g name ++ ['\x7d']))
    (s : List Char) : p.replaceAll f s = render g (pieces s) := by
  fun_induction pieces s with
  | case1 =>
    rw [replaceAll, h.nil]
    rfl
  | case2 rest name after hslot ih =>
    have hshorter : (found name after).rest.length < ('\x7b' :: rest).length := by
      rw [h.rest]
      exact Nat.lt_succ_of_lt (length_of_slot? hslot)
    have hfirst : (p.foundAt ('\x7b' :: rest)).head? = some (found name after) := by
      rw [h.opening, hslot]
      rfl
    rw [replaceAll, hfirst]
    simp only [if_pos hshorter]
    rw [h.rest, ih, hf, render]
    simp
  | case3 rest hslot ih =>
    have hfirst : (p.foundAt ('\x7b' :: rest)).head? = none := by
      rw [h.opening, hslot]
      rfl
    rw [replaceAll, hfirst, render]
    exact congrArg _ ih
  | case4 c rest hc ih =>
    rw [replaceAll, h.other c rest hc, render]
    exact congrArg _ ih

/-- A dollar sign before each slot. -/
theorem replaceAll_wholeSlot (s : List Char) :
    wholeSlot.replaceAll (fun m => '$' :: m.captured.getD []) s =
      render id (pieces s) :=
  replaceAll_eq wholeSlot_findsSlots (fun _ _ => rfl) s

/-- A dollar sign before each slot, and its name changed. -/
theorem replaceAll_slotName (f : List Char → List Char) (s : List Char) :
    slotName.replaceAll
        (fun m => '$' :: '\x7b' :: (f (m.captured.getD []) ++ ['\x7d'])) s =
      render f (pieces s) :=
  replaceAll_eq slotName_findsSlots (fun _ _ => rfl) s

end Pattern

/-! ### Slots without a search -/

/-- The text that is cut into pieces. -/
def sourceOf : List Piece → List Char
  | [] => []
  | .char c :: rest => c :: sourceOf rest
  | .slot name :: rest => '\x7b' :: (name ++ '\x7d' :: sourceOf rest)

/-- Which slots a text has: an opening brace opens one that closes at the
nearest closing brace, unless a line ends before it or there is none. -/
inductive Marks : List Char → List Piece → Prop where
  | nil : Marks [] []
  | slot {name rest : List Char} {ps : List Piece}
    (hname : ∀ c ∈ name, c ≠ '\x7d' ∧ c ≠ '\n') (hrest : Marks rest ps) :
    Marks ('\x7b' :: (name ++ '\x7d' :: rest)) (.slot name :: ps)
  | open {rest : List Char} {ps : List Piece}
    (hnone : ∀ name after, rest = name ++ '\x7d' :: after → '\n' ∈ name)
    (hrest : Marks rest ps) : Marks ('\x7b' :: rest) (.char '\x7b' :: ps)
  | char {c : Char} {rest : List Char} {ps : List Piece} (hc : c ≠ '\x7b')
    (hrest : Marks rest ps) : Marks (c :: rest) (.char c :: ps)

/-- What is found of a slot is its name, and the text after it. -/
private theorem slot?_eq_some {s name after : List Char}
    (h : slot? s = some (name, after)) :
    s = name ++ '\x7d' :: after ∧ ∀ c ∈ name, c ≠ '\x7d' ∧ c ≠ '\n' := by
  induction s generalizing name with
  | nil => cases h
  | cons c rest ih =>
    rw [slot?] at h
    by_cases hclose : c = '\x7d'
    · rw [if_pos hclose] at h
      cases h
      exact ⟨by rw [hclose]; rfl, by simp⟩
    · rw [if_neg hclose] at h
      by_cases hline : c = '\n'
      · rw [if_pos hline] at h
        cases h
      · rw [if_neg hline] at h
        obtain ⟨⟨front, more⟩, hrest, heq⟩ := Option.map_eq_some_iff.1 h
        cases heq
        obtain ⟨rfl, hfront⟩ := ih hrest
        exact ⟨rfl, List.forall_mem_cons.2 ⟨⟨hclose, hline⟩, hfront⟩⟩

/-- Where no slot is found, each closing brace is on another line. -/
private theorem slot?_eq_none_iff {s : List Char} :
    slot? s = none ↔ ∀ name after, s = name ++ '\x7d' :: after → '\n' ∈ name := by
  constructor
  · intro h name after hs
    induction s generalizing name with
    | nil => cases name <;> cases hs
    | cons c rest ih =>
      rw [slot?] at h
      by_cases hclose : c = '\x7d'
      · rw [if_pos hclose] at h
        cases h
      · cases name with
        | nil => exact absurd (List.cons.inj hs).1 hclose
        | cons d front =>
          obtain ⟨rfl, hrest⟩ := List.cons.inj hs
          by_cases hline : c = '\n'
          · rw [hline]
            exact List.mem_cons_self
          · rw [if_neg hclose, if_neg hline, Option.map_eq_none_iff] at h
            exact List.mem_cons_of_mem c (ih h front hrest)
  · intro h
    cases hslot : slot? s with
    | none => rfl
    | some e =>
      obtain ⟨hs, hname⟩ := slot?_eq_some hslot
      exact absurd rfl (hname _ (h _ _ hs)).2

/-- A text has the slots that it is cut into, and no others. -/
theorem marks_iff {s : List Char} {ps : List Piece} :
    Marks s ps ↔ ps = pieces s := by
  constructor
  · intro h
    induction h with
    | nil => exact pieces_nil.symm
    | slot hname _ ih => rw [pieces_slot (slot?_append hname _), ih]
    | «open» hnone _ ih => rw [pieces_open (slot?_eq_none_iff.2 hnone), ih]
    | char hc _ ih => rw [pieces_cons_of_ne hc, ih]
  · rintro rfl
    fun_induction pieces s with
    | case1 => exact .nil
    | case2 rest name after hslot ih =>
      obtain ⟨rfl, hname⟩ := slot?_eq_some hslot
      exact .slot hname ih
    | case3 rest hslot ih => exact .open (slot?_eq_none_iff.1 hslot) ih
    | case4 c rest hc ih => exact .char hc ih

theorem sourceOf_pieces (s : List Char) : sourceOf (pieces s) = s := by
  have h : Marks s (pieces s) := marks_iff.2 rfl
  generalize pieces s = ps at h
  induction h with
  | nil => rfl
  | slot _ _ ih => rw [sourceOf, ih]
  | «open» _ _ ih => rw [sourceOf, ih]
  | char _ _ ih => rw [sourceOf, ih]

/-! ### Paths that are written with slots -/

/-- A name in braces. -/
def braced (name : List Char) : List Char := '\x7b' :: (name ++ ['\x7d'])

/-- A text with slots in it, and the text after each of them. -/
structure Written where
  start : List Char
  slots : List (List Char × List Char)
  /-- Outside of the slots nothing opens one. -/
  start_notMem : '\x7b' ∉ start
  texts_notMem : ∀ e ∈ slots, '\x7b' ∉ e.2
  /-- A name ends neither its slot nor its line. -/
  names : ∀ e ∈ slots, ∀ c ∈ e.1, c ≠ '\x7d' ∧ c ≠ '\n'

namespace Written

/-- The text with its slots spelled in some way. -/
def spelled (w : Written) (slot : List Char → List Char) : String :=
  String.ofList (w.start ++ w.slots.flatMap fun e => slot e.1 ++ e.2)

/-- The path that is written. -/
def path (w : Written) : String := w.spelled braced

end Written

/-- A text that opens no slot is cut into its characters. -/
private theorem render_pieces_append (f : List Char → List Char)
    {text : List Char} (h : '\x7b' ∉ text) (s : List Char) :
    render f (pieces (text ++ s)) = text ++ render f (pieces s) := by
  induction text with
  | nil => rfl
  | cons c rest ih =>
    rw [List.mem_cons, not_or] at h
    rw [List.cons_append, pieces_cons_of_ne (Ne.symm h.1), render, ih h.2]
    rfl

/-- The slots of a path that is written with slots are those. -/
theorem render_pieces_path (f : List Char → List Char) (w : Written) :
    String.ofList (render f (pieces w.path.toList)) =
      w.spelled fun name => '$' :: braced (f name) := by
  obtain ⟨start, slots, hstart, htexts, hnames⟩ := w
  have hslots : render f (pieces (slots.flatMap fun e => braced e.1 ++ e.2)) =
      slots.flatMap fun e => '$' :: braced (f e.1) ++ e.2 := by
    clear hstart
    induction slots with
    | nil => simp [render]
    | cons e rest ih =>
      obtain ⟨htext, hrest⟩ := List.forall_mem_cons.1 htexts
      obtain ⟨hname, hmore⟩ := List.forall_mem_cons.1 hnames
      have hopen : braced e.1 ++ e.2 ++
          (rest.flatMap fun e => braced e.1 ++ e.2) =
            '\x7b' :: (e.1 ++ '\x7d' ::
              (e.2 ++ rest.flatMap fun e => braced e.1 ++ e.2)) := by
        simp [braced]
      rw [List.flatMap_cons, List.flatMap_cons, hopen,
        pieces_slot (slot?_append hname _), render,
        render_pieces_append f htext, ih hrest hmore]
      simp [braced]
  rw [Written.path, Written.spelled, Written.spelled, String.toList_ofList,
    render_pieces_append f hstart, hslots]

end ClientGen.UrlTemplate

namespace ClientGen

/-- A method that is read at a path, from whatever operation. -/
def Method.IsReadAt (path : String) (m : Method) : Prop :=
  ∃ document verb operation shared onServer,
    (build document (.str path) verb operation shared onServer).outcome = .ok m

theorem Method.IsReadAt.markedPath_eq {path : String} {m : Method}
    (h : m.IsReadAt path) : m.markedPath = UrlTemplate.marked path := by
  obtain ⟨document, verb, operation, shared, onServer, h⟩ := h
  cases verb with
  | str v =>
    obtain ⟨_, -, h⟩ := Traced.bind_outcome_eq_ok.1 h
    obtain ⟨ps, -, h⟩ := Traced.bind_outcome_eq_ok.1 h
    obtain ⟨p, hp, h⟩ := Traced.bind_outcome_eq_ok.1 h
    obtain ⟨name, -, h⟩ := Traced.bind_outcome_eq_ok.1 h
    obtain ⟨isSecure, -, h⟩ := Traced.bind_outcome_eq_ok.1 h
    obtain ⟨isJson, -, h⟩ := Traced.bind_outcome_eq_ok.1 h
    cases hp
    cases h
    rfl
  | _ => cases h

/-- A parameter with a name has the identifier of the name for an argument. -/
theorem Parameter.argument_read {fields : Fields} {name : String}
    (h : Fields.get fields "name" = .str name) (hne : name ≠ "") :
    (read fields).argument = Text.identifier name := by
  have hname : nameOf fields = .str name := by
    rw [nameOf, h, Value.orElse, if_pos (by simpa [Value.truthy] using hne)]
  rw [← Value.text_str name, ← hname]
  rfl

namespace UrlTemplate

open Text

/-- The record of a method and the text of the client mark the same slots. In a
path that is written with slots both have a dollar sign before each of them, and
the second has the arguments of the parameters for names. In any other path they
have the same slots too, and nothing else changes: these are what either pattern
finds. -/
theorem slots_agree (w : Written) :
    (∀ m, Method.IsReadAt w.path m →
      m.markedPath = w.spelled fun name => '$' :: braced name) ∧
    interpolate (.str w.path) =
      .ok (w.spelled fun name => '$' :: braced (identifierChars name)) ∧
    (∀ e ∈ w.slots, e.1 ≠ [] → ∀ fields : Fields,
      Fields.get fields "name" = .str (String.ofList e.1) →
      ∃ p, (Parameter.build (.map fields)).outcome = .ok p ∧
        p.argument.toList = identifierChars e.1) ∧
    ∀ path : String, ∃ ps, (∀ qs, Marks path.toList qs ↔ qs = ps) ∧
      sourceOf ps = path.toList ∧
      (∃ m, Method.IsReadAt path m) ∧
      (∀ m, Method.IsReadAt path m → m.markedPath.toList = render id ps) ∧
      Pattern.wholeSlot.replaceAll (fun m => '$' :: m.captured.getD [])
        path.toList = render id ps ∧
      interpolate (.str path) = .ok (String.ofList (render identifierChars ps)) ∧
      Pattern.slotName.replaceAll
        (fun m => '$' :: braced (identifierChars (m.captured.getD [])))
        path.toList = render identifierChars ps := by
  refine ⟨?_, ?_, ?_, ?_⟩
  · intro m hm
    rw [hm.markedPath_eq, marked, render_pieces_path]
    rfl
  · rw [interpolate, interpolated, render_pieces_path]
  · intro e _ hne fields hname
    refine ⟨_, rfl, ?_⟩
    rw [Parameter.argument_read hname (by simpa using hne), identifier,
      String.toList_ofList, String.toList_ofList]
  · intro path
    refine ⟨pieces path.toList, fun _ => marks_iff, sourceOf_pieces _,
      ⟨_, .map [], .str "get", .map [], .list [], false, rfl⟩, ?_,
      Pattern.replaceAll_wholeSlot _, rfl, Pattern.replaceAll_slotName _ _⟩
    intro m hm
    rw [hm.markedPath_eq, marked, String.toList_ofList]

/-- A path with a slot whose name has a brace, a dash and a dot in it, and an
empty one. -/
def pets : Written where
  start := "/pets\x7d/".toList
  slots := [("a\x7bpet-id.x".toList, "/".toList), ([], "-".toList)]
  start_notMem := by decide
  texts_notMem := by decide
  names := by simp

theorem slots_agree_pets :
    ∃ m p, Method.IsReadAt "/pets\x7d/\x7ba\x7bpet-id.x\x7d/\x7b\x7d-" m ∧
      m.markedPath = "/pets\x7d/$\x7ba\x7bpet-id.x\x7d/$\x7b\x7d-" ∧
      interpolate (.str "/pets\x7d/\x7ba\x7bpet-id.x\x7d/\x7b\x7d-") =
        .ok "/pets\x7d/$\x7ba\x7bpetIdX\x7d/$\x7b\x7d-" ∧
      (Parameter.build (.map [(.str "name", .str "a\x7bpet-id.x")])).outcome =
        .ok p ∧
      p.argument = "a\x7bpetIdX" := by
  have hpath : pets.path = "/pets\x7d/\x7ba\x7bpet-id.x\x7d/\x7b\x7d-" := by
    decide +kernel
  obtain ⟨hmarked, hnamed, hargument, hall⟩ := slots_agree pets
  obtain ⟨-, -, -, ⟨m, hm⟩, -⟩ := hall pets.path
  obtain ⟨p, hp, hname⟩ := hargument _ List.mem_cons_self (by decide)
    [(.str "name", .str "a\x7bpet-id.x")] rfl
  rw [← hpath]
  refine ⟨m, p, hm, (hmarked m hm).trans (by decide +kernel),
    hnamed.trans (by decide +kernel), hp, ?_⟩
  rw [← String.toList_inj, hname]
  decide +kernel

end UrlTemplate

end ClientGen
