import ClientGen.Proofs.FirstOfEach
import ClientGen.Proofs.Value
import ClientGen.Trace

/-!
# Tables of enumerations as lists

A table changes in two ways only: an enumeration is registered, or one is
shadowed. Neither makes two names of a table equal (`Distinct.register`,
`Distinct.shadow`). This file says what a whole run of either leaves.
Registering a list adds the first of each name that is not taken
(`entries_registerAll`). In a table of distinct names, shadowing the names of a
list leaves the enumerations of all other names (`Distinct.entries_shadowAll`).
-/

namespace ClientGen

namespace Enumeration

/-- The name of an enumeration is a text. -/
def Textual (e : Enumeration) : Prop := ∃ n, e.name = .str n

/-- Whether an enumeration has the name of another one. -/
def sameName (e f : Enumeration) : Bool := f.name.equals e.name

end Enumeration

namespace EnumTable

/-- The names of a table, as text. -/
def names (t : EnumTable) : List String := t.entries.map (·.name.text)

/-- No two enumerations of a table have equal names. -/
def Distinct (t : EnumTable) : Prop :=
  t.entries.Pairwise fun e f => f.sameName e = false

instance (t : EnumTable) : Decidable t.Distinct :=
  inferInstanceAs (Decidable (t.entries.Pairwise fun e f => f.sameName e = false))

/-! ### Registering -/

/-- Registering a free name takes it, and no other one. -/
theorem has_register_of_not_has {t : EnumTable} {e : Enumeration}
    (h : t.has e.name = false) (name : Value) :
    (t.register e).has name = (t.has name || e.name.equals name) := by
  rw [has, entries_register_of_not_has h]
  simp [has]

/-- Registering keeps names distinct, for a name that is taken is passed
over. -/
theorem Distinct.register {t : EnumTable} (h : t.Distinct) (e : Enumeration) :
    (t.register e).Distinct := by
  cases htaken : t.has e.name with
  | true =>
    rw [register_of_has htaken]
    exact h
  | false =>
    have hfree : ∀ f ∈ t.entries, f.name.equals e.name = false := by
      intro f hf
      have hall := List.any_eq_false.1 htaken f hf
      simpa using hall
    rw [Distinct, entries_register_of_not_has htaken, List.pairwise_append]
    refine ⟨h, List.pairwise_singleton _ _, ?_⟩
    intro f hf g hg
    rw [List.mem_singleton.1 hg]
    exact hfree f hf

/-- Shadowing keeps names distinct, for it adds none. -/
theorem Distinct.shadow {t : EnumTable} (h : t.Distinct) (name : Value) :
    (t.shadow name).Distinct :=
  h.sublist (entries_shadow_sublist t name)

/-- Of a list of enumerations a table takes the first of each name that is not
taken. -/
theorem entries_registerAll (t : EnumTable) (es : List Enumeration) :
    (t.registerAll es).entries =
      t.entries ++
        (es.filter fun e => !t.has e.name).eraseDupsBy Enumeration.sameName := by
  induction es generalizing t with
  | nil => simp
  | cons e es ih =>
    rw [registerAll_cons, ih]
    cases he : t.has e.name with
    | true =>
      rw [register_of_has he, List.filter_cons_of_neg (by simp [he])]
    | false =>
      -- The new entry takes its name from the rest, as the choice does.
      have hrest : (es.filter fun f => !(t.register e).has f.name) =
          (es.filter fun f => !t.has f.name).filter
            fun f => decide (f.sameName e = false) := by
        rw [List.filter_filter]
        refine List.filter_congr ?_
        intro f _
        rw [has_register_of_not_has he, Enumeration.sameName]
        cases e.name.equals f.name <;> simp
      rw [entries_register_of_not_has he, hrest,
        List.filter_cons_of_pos (by simp [he]), List.eraseDupsBy_cons,
        List.append_assoc]
      rfl

/-- A table that starts empty takes the first of each name. -/
theorem entries_registerAll_empty (es : List Enumeration) :
    (empty.registerAll es).entries = es.eraseDupsBy Enumeration.sameName := by
  rw [entries_registerAll]
  simp

/-- Of textual names the table has each one once, in the order in which they
first occur. -/
theorem names_registerAll_empty {es : List Enumeration}
    (h : ∀ e ∈ es, e.Textual) :
    (empty.registerAll es).names = (es.map (·.name.text)).eraseDups := by
  have hsame : ∀ e ∈ es, ∀ f ∈ es,
      f.sameName e = (f.name.text == e.name.text) := by
    intro e he f hf
    obtain ⟨m, hm⟩ := h e he
    obtain ⟨n, hn⟩ := h f hf
    rw [Enumeration.sameName, hm, hn, Value.equals_str, Value.text_str,
      Value.text_str]
    exact Bool.beq_comm
  rw [names, entries_registerAll_empty, FirstOfEach.eraseDupsBy_congr hsame]
  exact FirstOfEach.map_eraseDupsBy es

/-- A table of textual names has the names that are among them. -/
theorem has_eq_any_names {t : EnumTable} (h : ∀ e ∈ t.entries, e.Textual)
    (v : Value) : t.has v = t.names.any fun n => v.equals (.str n) := by
  rw [has, names, List.any_map, Bool.eq_iff_iff, List.any_eq_true,
    List.any_eq_true]
  refine exists_congr fun e => and_congr_right fun he => ?_
  obtain ⟨n, hn⟩ := h e he
  rw [Function.comp_apply, hn, Value.text_str, Value.str_equals_iff,
    Value.equals_str_iff]

/-! ### Shadowing -/

/-- Shadows the enumerations of names in order. -/
def shadowAll (t : EnumTable) (ns : List Value) : EnumTable :=
  ns.foldl shadow t

@[simp] theorem shadowAll_nil (t : EnumTable) : t.shadowAll [] = t := rfl

@[simp] theorem shadowAll_cons (t : EnumTable) (n : Value) (ns : List Value) :
    t.shadowAll (n :: ns) = (t.shadow n).shadowAll ns := rfl

theorem shadowAll_append (t : EnumTable) (ms ns : List Value) :
    t.shadowAll (ms ++ ns) = (t.shadowAll ms).shadowAll ns := by
  simp [shadowAll]

/-- Where at most one thing satisfies `p`, removing the first is removing
all. -/
private theorem eraseP_eq_filter {α : Type} {p : α → Bool} {l : List α}
    (h : l.Pairwise fun a b => p a = true → p b = false) :
    l.eraseP p = l.filter fun a => !p a := by
  induction l with
  | nil => rfl
  | cons a l ih =>
    rw [List.pairwise_cons] at h
    cases ha : p a with
    | false =>
      rw [List.eraseP_cons_of_neg (by simp [ha]),
        List.filter_cons_of_pos (by simp [ha]), ih h.2]
    | true =>
      have hall : l.filter (fun b => !p b) = l := by
        rw [List.filter_eq_self]
        intro b hb
        rw [h.1 b hb ha]
        rfl
      rw [List.eraseP_cons_of_pos ha, List.filter_cons_of_neg (by simp [ha]),
        hall]

/-- Among distinct names the shadowed one goes, and all others stay. -/
theorem Distinct.entries_shadow {t : EnumTable} (h : t.Distinct) (n : String) :
    (t.shadow (.str n)).entries =
      t.entries.filter fun e => !e.name.equals (.str n) := by
  refine eraseP_eq_filter (List.Pairwise.imp ?_ h)
  intro e f hunlike hen
  rw [Value.equals_str_iff] at hen
  rw [Enumeration.sameName, hen] at hunlike
  rw [Bool.eq_false_iff] at hunlike ⊢
  exact fun hfn => hunlike (Value.str_equals_iff.2 (Value.equals_str_iff.1 hfn))

/-- Among distinct names the shadowed ones go, and all others stay. -/
theorem Distinct.entries_shadowAll {t : EnumTable} (h : t.Distinct)
    (ns : List String) :
    (t.shadowAll (ns.map .str)).entries =
      t.entries.filter fun e => !ns.any fun n => e.name.equals (.str n) := by
  induction ns generalizing t with
  | nil => simp
  | cons n ns ih =>
    rw [List.map_cons, shadowAll_cons, ih (h.shadow _), h.entries_shadow,
      List.filter_filter]
    refine List.filter_congr ?_
    intro e _
    rw [List.any_cons, Bool.not_or, Bool.and_comm]

/-- Textual names that differ are distinct. -/
theorem distinct_of_nodup {t : EnumTable} (h : ∀ e ∈ t.entries, e.Textual)
    (hnodup : t.names.Nodup) : t.Distinct := by
  refine (List.pairwise_map.1 hnodup).imp_of_mem ?_
  intro e f he hf hne
  obtain ⟨m, hm⟩ := h e he
  obtain ⟨n, hn⟩ := h f hf
  rw [hm, hn, Value.text_str, Value.text_str] at hne
  rw [Enumeration.sameName, hm, hn, Value.equals_str]
  exact beq_eq_false_iff_ne.2 hne

/-- Among distinct textual names the shadowed ones go, and all others
stay. -/
theorem entries_shadowAll {t : EnumTable} (h : ∀ e ∈ t.entries, e.Textual)
    (hnodup : t.names.Nodup) (ns : List String) :
    (t.shadowAll (ns.map .str)).entries =
      t.entries.filter fun e => !ns.contains e.name.text := by
  rw [(distinct_of_nodup h hnodup).entries_shadowAll]
  refine List.filter_congr ?_
  intro e he
  obtain ⟨m, hm⟩ := h e he
  simp only [hm, Value.equals_str, Value.text_str, List.contains_eq_any_beq]

end EnumTable

end ClientGen
