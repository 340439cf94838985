import ClientGen.Proofs.EnumTable
import ClientGen.Proofs.Equality
import ClientGen.Proofs.Trace
import ClientGen.Session

/-!
# The table of a session

All steps of a session share one table, and a step that fails leaves in it what
happened before the fault. A step changes the table through its events only, so
it is enough to know which kinds of events it has: reading parameters and
methods shadows nothing, and reading definitions promotes nothing. This holds
whatever values the step is given and however it ends.

`run_keeps` says what follows for every step of every session that starts with
the empty table: names stay distinct, and the step either only adds at the end
or only takes out.
-/

namespace ClientGen

open Traced

namespace Event

/-- The event takes no enumeration out of a table. -/
def TakesNone (e : Event) : Prop := ∀ name, e ≠ .declared name

/-- The event adds no enumeration to a table. -/
def AddsNone (e : Event) : Prop := ∀ f, e ≠ .promoted f

end Event

namespace Enumeration

theorem name_of_build {name values : Value} {e : Enumeration}
    (h : build name values = .ok e) : e.name = name := by
  unfold build at h
  split at h
  · cases h
    rfl
  · cases h

end Enumeration

/-! ### What events do to a table -/

namespace EnumTable

/-- In a table of distinct names no entry has the name of another one, in
whichever order proper names are compared. -/
theorem Distinct.not_equals {t : EnumTable} (h : t.Distinct) {i j : Nat}
    {e f : Enumeration} (hi : t.entries[i]? = some e)
    (hj : t.entries[j]? = some f) (hij : i ≠ j) (he : e.name.Proper)
    (hf : f.name.Proper) : e.name.equals f.name = false := by
  obtain ⟨hilt, rfl⟩ := List.getElem?_eq_some_iff.1 hi
  obtain ⟨hjlt, rfl⟩ := List.getElem?_eq_some_iff.1 hj
  rcases Nat.lt_or_gt_of_ne hij with hlt | hgt
  · exact List.pairwise_iff_getElem.1 h i j hilt hjlt hlt
  · rw [Value.equals_comm he hf]
    exact List.pairwise_iff_getElem.1 h j i hjlt hilt hgt

/-- Shadowing frees a name: the first entry of that name was the only one. -/
theorem Distinct.not_equals_shadow {t : EnumTable} (h : t.Distinct)
    (hproper : ∀ e ∈ t.entries, e.name.Proper) {name : Value}
    (hname : name.Proper) {e : Enumeration}
    (he : e ∈ (t.shadow name).entries) : e.name.equals name = false := by
  have hmem := (entries_shadow_sublist t name).mem he
  rcases List.exists_or_eq_self_of_eraseP (fun f : Enumeration => f.name.equals name)
      t.entries with hself | ⟨f, before, after, hbefore, hf, hlist, hrest⟩
  · have hnone := List.eraseP_eq_self_iff.1 hself e hmem
    simpa using hnone
  · change e ∈ t.entries.eraseP _ at he
    rw [hrest, List.mem_append] at he
    rcases he with he | he
    · simpa using hbefore e he
    · -- An entry of that name after the first one would have its name.
      have hpairs : t.entries.Pairwise fun e f => e.name.equals f.name = false := h
      rw [hlist, List.pairwise_append, List.pairwise_cons] at hpairs
      have hfe := hpairs.2.1.1 e he
      have hpf := hproper f (by simp [hlist])
      cases hequal : e.name.equals name with
      | false => rfl
      | true =>
        rw [Value.equals_of_equals hpf (hproper e hmem) hname hf hequal] at hfe
        cases hfe

theorem Distinct.apply {t : EnumTable} (h : t.Distinct) (e : Event) :
    (t.apply e).Distinct := by
  cases e with
  | promoted f => exact h.register f
  | declared name => exact h.shadow name
  | _ => exact h

/-- Whatever happens, names stay distinct. -/
theorem Distinct.applyAll {t : EnumTable} (h : t.Distinct)
    (events : List Event) : (t.applyAll events).Distinct := by
  induction events generalizing t with
  | nil => exact h
  | cons e events ih => exact ih (h.apply e)

theorem entries_prefix_apply (t : EnumTable) {e : Event} (h : e.TakesNone) :
    t.entries <+: (t.apply e).entries := by
  cases e with
  | promoted f => exact entries_prefix_register t f
  | declared name => exact absurd rfl (h name)
  | _ => exact List.prefix_refl _

/-- Events that take nothing out only add at the end. -/
theorem entries_prefix_applyAll (t : EnumTable) {events : List Event}
    (h : ∀ e ∈ events, e.TakesNone) :
    t.entries <+: (t.applyAll events).entries := by
  induction events generalizing t with
  | nil => exact List.prefix_refl _
  | cons e events ih =>
    have hhead := entries_prefix_apply t (h e List.mem_cons_self)
    have htail := ih (t.apply e) fun f hf => h f (List.mem_cons_of_mem e hf)
    exact hhead.trans htail

theorem entries_apply_sublist (t : EnumTable) {e : Event} (h : e.AddsNone) :
    (t.apply e).entries.Sublist t.entries := by
  cases e with
  | promoted f => exact absurd rfl (h f)
  | declared name => exact entries_shadow_sublist t name
  | _ => exact List.Sublist.refl _

/-- Events that add nothing only take out. -/
theorem entries_applyAll_sublist (t : EnumTable) {events : List Event}
    (h : ∀ e ∈ events, e.AddsNone) :
    (t.applyAll events).entries.Sublist t.entries := by
  induction events generalizing t with
  | nil => exact List.Sublist.refl _
  | cons e events ih =>
    have hhead := entries_apply_sublist t (h e List.mem_cons_self)
    have htail := ih (t.apply e) fun f hf => h f (List.mem_cons_of_mem e hf)
    exact htail.trans hhead

end EnumTable

/-! ### Reading parameters and methods -/

namespace Parameter

theorem takesNone_of_mem_events {onServer : Bool} {params : List Value}
    {e : Event} (h : e ∈ events onServer params) : e.TakesNone := by
  obtain ⟨p, -, hp⟩ := List.mem_filterMap.1 h
  unfold event? at hp
  intro name hname
  subst hname
  split at hp
  · cases hp
  · split at hp
    · obtain ⟨f, -, hf⟩ := Option.map_eq_some_iff.1 hp
      cases hf
    · cases hp

theorem emits_build (param : Value) :
    (build param).Emits Event.TakesNone := by
  unfold build
  split
  · exact Emits.ofExcept _ _
  · intro e he name hname
    obtain ⟨f, -, hf⟩ := Option.map_eq_some_iff.1 (Option.mem_toList.1 he)
    rw [hname] at hf
    cases hf

theorem emits_buildAll (operation shared : Value) (onServer : Bool) :
    (buildAll operation shared onServer).Emits Event.TakesNone := by
  unfold buildAll
  split
  · exact Emits.ofExcept _ _
  · exact Emits.ofExcept _ _
  · intro e he
    exact takesNone_of_mem_events he

end Parameter

namespace Method

/-- Reading an operation shadows nothing, whatever it is read from. -/
theorem emits_build (document path verb operation shared : Value)
    (onServer : Bool) :
    (build document path verb operation shared onServer).Emits
      Event.TakesNone := by
  have hparameters := Parameter.emits_buildAll operation shared onServer
  unfold build
  dsimp only
  split
  · refine (Emits.pure _ _).bind fun _ => hparameters.bind fun _ => ?_
    split
    · -- What follows the parameters has no events of its own.
      exact (Emits.pure _ _).bind fun _ => (Emits.ofExcept _ _).bind fun _ =>
        (Emits.ofExcept _ _).bind fun _ => (Emits.ofExcept _ _).bind fun _ =>
        Emits.pure _ _
    · exact Emits.ofExcept _ (.error Fault.notSearchable)
  · exact Emits.ofExcept _ (.error Fault.notText)

theorem emits_ofEntry (document path : Value) (shared : List Value)
    (onServer : Bool) (key operation : Value) :
    (ofEntry document path shared onServer key operation).Emits
      Event.TakesNone := by
  unfold ofEntry
  split
  · split
    · exact Emits.pure _ _
    · intro e he name hname
      rw [List.mem_singleton.1 he] at hname
      cases hname
  · split
    · exact (emits_build _ _ _ _ _ _).bind fun _ => Emits.pure _ _
    · exact Emits.pure _ _

theorem emits_ofPath (document path item : Value) (onServer : Bool) :
    (ofPath document path item onServer).Emits Event.TakesNone := by
  unfold ofPath
  split
  · refine (Emits.collect ?_).bind fun _ => Emits.pure _ _
    intro x hx
    obtain ⟨entry, -, rfl⟩ := List.mem_map.1 hx
    exact emits_ofEntry _ _ _ _ _ _
  · exact Emits.pure _ _

/-- Reading the operations of a document shadows nothing. -/
theorem emits_buildAll (document : Value) (onServer : Bool) :
    (buildAll document onServer).Emits Event.TakesNone := by
  unfold buildAll
  refine (Emits.ofExcept _ _).bind fun paths => ?_
  refine (Emits.collect ?_).bind fun _ => Emits.pure _ _
  intro x hx
  obtain ⟨entry, -, rfl⟩ := List.mem_map.1 hx
  exact emits_ofPath _ _ _ _

end Method

/-! ### Reading definitions -/

namespace Definition

theorem addsNone_of_mem_declareEvents {owner : Option String} {t : EnumTable}
    {es : List Enumeration} {e : Event} (h : e ∈ declareEvents owner t es) :
    e.AddsNone := by
  induction es generalizing t with
  | nil => cases h
  | cons d es ih =>
    rw [declareEvents, List.mem_append, List.mem_cons] at h
    intro f hf
    subst hf
    rcases h with hagain | hdeclared | hrest
    · split at hagain
      · cases List.mem_singleton.1 hagain
      · cases hagain
    · cases hdeclared
    · exact ih hrest f rfl

theorem emits_build (name schema : Value) :
    (build name schema).Emits Event.AddsNone := by
  unfold build
  split
  · intro e he
    exact addsNone_of_mem_declareEvents he
  · exact Emits.ofExcept _ _

/-- Reading the definitions of a document promotes nothing. -/
theorem emits_buildAll (document : Value) :
    (buildAll document).Emits Event.AddsNone := by
  unfold buildAll
  split
  · intro e he
    obtain ⟨entry, -, he⟩ := List.mem_flatMap.1 he
    exact addsNone_of_mem_declareEvents he
  · exact Emits.ofExcept _ _

end Definition

/-! ### Steps and sessions -/

namespace Session

/-- Whether a step may only add enumerations: it registers one, or reads
parameters or methods. The others may only take enumerations out. -/
def Step.adds : Step → Bool
  | .register .. | .parameter .. | .parameters .. | .method .. | .methods .. =>
    true
  | .shadow .. | .definition .. | .definitions .. => false

/-- The table that steps leave. -/
def tableAfter (t : EnumTable) (steps : List Step) : EnumTable :=
  steps.foldl (fun t s => (s.run t).2) t

/-- The answers to steps are those to the first ones and then, from the table
that these leave, those to the others. -/
theorem run_append (t : EnumTable) (as bs : List Step) :
    run t (as ++ bs) = run t as ++ run (tableAfter t as) bs := by
  induction as generalizing t with
  | nil => rfl
  | cons s as ih => exact congrArg (List.cons _) (ih _)

/-- What a step does to the table that it meets, and what it answers if it
registers an enumeration: the enumeration is added exactly if no entry of the
table has its name. The values of a document are proper, so that it does not
matter in which order two names are compared. -/
structure Step.Keeps (s : Step) (before : EnumTable)
    (r : Except Fault Answer × EnumTable) : Prop where
  distinct : r.2.Distinct
  /-- Of two entries neither has the name of the other. -/
  unequal : ∀ (i j : Nat) (e f : Enumeration),
    r.2.entries[i]? = some e → r.2.entries[j]? = some f → i ≠ j →
    e.name.Proper → f.name.Proper → e.name.equals f.name = false
  appends : s.adds = true → before.entries <+: r.2.entries
  takes : s.adds = false → r.2.entries.Sublist before.entries
  registers : ∀ name values e, s = .register name values →
    Enumeration.build name values = .ok e →
    ((r.1 = .ok (.registered true) ∧ r.2.entries = before.entries ++ [e]) ↔
      ∀ f ∈ before.entries, f.name.equals name = false) ∧
    ((r.1 = .ok (.registered false) ∧ r.2 = before) ↔
      ∃ f ∈ before.entries, f.name.equals name = true)
  refuses : ∀ name values fault, s = .register name values →
    Enumeration.build name values = .error fault → r = (.error fault, before)
  frees : ∀ name, s = .shadow name → name.Proper →
    (∀ e ∈ before.entries, e.name.Proper) →
    ∀ e ∈ r.2.entries, e.name.equals name = false

private theorem run_register {name values : Value} {e : Enumeration}
    (hbuild : Enumeration.build name values = .ok e) (t : EnumTable) :
    (Step.register name values).run t =
      (.ok (.registered (!t.has name)), t.register e) := by
  simp only [Step.run, hbuild, Enumeration.name_of_build hbuild]

private theorem run_register_of_error {name values : Value} {fault : Fault}
    (hbuild : Enumeration.build name values = .error fault) (t : EnumTable) :
    (Step.register name values).run t = (.error fault, t) := by
  simp only [Step.run, hbuild]

theorem Step.distinct_run (s : Step) {t : EnumTable} (h : t.Distinct) :
    (s.run t).2.Distinct := by
  cases s with
  | register name values =>
    cases hbuild : Enumeration.build name values with
    | error fault =>
      rw [run_register_of_error hbuild]
      exact h
    | ok e =>
      rw [run_register hbuild]
      exact h.register e
  | shadow name => exact h.shadow name
  | parameter param => exact h.applyAll _
  | parameters operation shared onServer => exact h.applyAll _
  | method document path verb operation shared onServer => exact h.applyAll _
  | methods document onServer => exact h.applyAll _
  | definition name schema => exact h.applyAll _
  | definitions document => exact h.applyAll _

/-- A step that may only add enumerations adds them at the end. -/
theorem Step.prefix_run {s : Step} (hadds : s.adds = true) (t : EnumTable) :
    t.entries <+: (s.run t).2.entries := by
  cases s with
  | register name values =>
    cases hbuild : Enumeration.build name values with
    | error fault =>
      have hsame : ((Step.register name values).run t).2 = t :=
        congrArg Prod.snd (run_register_of_error hbuild t)
      simp only [hsame, List.prefix_rfl]
    | ok e =>
      rw [run_register hbuild]
      exact t.entries_prefix_register e
  | parameter param =>
    exact t.entries_prefix_applyAll (Parameter.emits_build param)
  | parameters operation shared onServer =>
    exact t.entries_prefix_applyAll
      (Parameter.emits_buildAll operation shared onServer)
  | method document path verb operation shared onServer =>
    exact t.entries_prefix_applyAll
      (Method.emits_build document path verb operation shared onServer)
  | methods document onServer =>
    exact t.entries_prefix_applyAll (Method.emits_buildAll document onServer)
  | shadow name => cases hadds
  | definition name schema => cases hadds
  | definitions document => cases hadds

/-- A step that may only take enumerations out keeps the others in their
order. -/
theorem Step.run_sublist {s : Step} (htakes : s.adds = false) (t : EnumTable) :
    (s.run t).2.entries.Sublist t.entries := by
  cases s with
  | shadow name => exact t.entries_shadow_sublist name
  | definition name schema =>
    exact t.entries_applyAll_sublist (Definition.emits_build name schema)
  | definitions document =>
    exact t.entries_applyAll_sublist (Definition.emits_buildAll document)
  | register name values => cases htakes
  | parameter param => cases htakes
  | parameters operation shared onServer => cases htakes
  | method document path verb operation shared onServer => cases htakes
  | methods document onServer => cases htakes

/-- Registering adds the enumeration exactly if its name is free, and says
so. -/
theorem Step.run_register_added_iff {name values : Value} {e : Enumeration}
    (hbuild : Enumeration.build name values = .ok e) (t : EnumTable) :
    (((Step.register name values).run t).1 = .ok (.registered true) ∧
        ((Step.register name values).run t).2.entries = t.entries ++ [e]) ↔
      ∀ f ∈ t.entries, f.name.equals name = false := by
  have hname := Enumeration.name_of_build hbuild
  rw [run_register hbuild]
  constructor
  · rintro ⟨hanswer, -⟩ f hf
    have hfree : t.has name = false := by simpa using hanswer
    simpa using List.any_eq_false.1 hfree f hf
  · intro hfree
    have hhas : t.has name = false := by
      rw [EnumTable.has, List.any_eq_false]
      intro f hf
      simp [hfree f hf]
    refine ⟨by rw [hhas]; rfl, ?_⟩
    exact EnumTable.entries_register_of_not_has (hname ▸ hhas)

/-- Registering an enumeration whose name is taken changes nothing, and says
so. -/
theorem Step.run_register_kept_iff {name values : Value} {e : Enumeration}
    (hbuild : Enumeration.build name values = .ok e) (t : EnumTable) :
    (((Step.register name values).run t).1 = .ok (.registered false) ∧
        ((Step.register name values).run t).2 = t) ↔
      ∃ f ∈ t.entries, f.name.equals name = true := by
  have hname := Enumeration.name_of_build hbuild
  rw [run_register hbuild]
  constructor
  · rintro ⟨hanswer, -⟩
    have htaken : t.has name = true := by simpa using hanswer
    exact List.any_eq_true.1 htaken
  · intro htaken
    have hhas : t.has name = true := List.any_eq_true.2 htaken
    refine ⟨by rw [hhas]; rfl, ?_⟩
    exact EnumTable.register_of_has (hname ▸ hhas)

theorem Step.keeps_run (s : Step) {t : EnumTable} (h : t.Distinct) :
    s.Keeps t (s.run t) where
  distinct := s.distinct_run h
  unequal := by
    intro i j e f hi hj hij he hf
    exact (s.distinct_run h).not_equals hi hj hij he hf
  appends := fun hadds => Step.prefix_run hadds t
  takes := fun htakes => Step.run_sublist htakes t
  registers := by
    rintro name values e rfl hbuild
    exact ⟨Step.run_register_added_iff hbuild t,
      Step.run_register_kept_iff hbuild t⟩
  refuses := by
    rintro name values fault rfl hbuild
    exact run_register_of_error hbuild t
  frees := by
    rintro name rfl hname hproper e he
    exact h.not_equals_shadow hproper hname he

/-- The steps of a session leave a table of distinct names. -/
theorem distinct_tableAfter {t : EnumTable} (h : t.Distinct)
    (steps : List Step) : (tableAfter t steps).Distinct := by
  induction steps generalizing t with
  | nil => exact h
  | cons s steps ih => exact ih (s.distinct_run h)

/-- **The table of any session.** Whatever steps come before a step and after
it, also steps that fail, the step is answered on the table that those before
it leave. It keeps names distinct, it either only adds entries at the end or
only takes some out and keeps all others as they are, and it registers an
enumeration exactly if the name of that is free. -/
theorem run_keeps (earlier : List Step) (s : Step) (later : List Step) :
    run .empty (earlier ++ s :: later) =
      run .empty earlier ++
        s.run (tableAfter .empty earlier) ::
          run (tableAfter .empty (earlier ++ [s])) later ∧
    s.Keeps (tableAfter .empty earlier) (s.run (tableAfter .empty earlier)) := by
  have hempty : EnumTable.empty.Distinct := List.Pairwise.nil
  have hbefore := distinct_tableAfter hempty earlier
  refine ⟨?_, s.keeps_run hbefore⟩
  have hafter : tableAfter .empty (earlier ++ [s]) =
      (s.run (tableAfter .empty earlier)).2 := by
    simp [tableAfter]
  rw [run_append, hafter]
  rfl

/-- One and true are one name, and the number one with a fraction frees it. -/
example :
    (run .empty
      [ .register (.int 1) (.list [.str "a"]),
        .register (.bool true) (.list [.str "b"]),
        .register (.str "1") .null,
        .shadow (.float (.finite false (2 ^ 52) (-52))) ]).map (·.2.size) =
      [1, 1, 1, 0] := by
  decide +kernel

end Session

end ClientGen
