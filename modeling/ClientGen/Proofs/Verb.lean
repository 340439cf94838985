import ClientGen.Method
import ClientGen.Proofs.Capitals

/-!
# Verbs in lower case

A key of a path is a verb if its upper case is one of five words, and a method
is called by its lower case. There are more such keys than spellings in ASCII:
some characters beyond ASCII have an upper case in ASCII, as `ſ` and `ﬆ` have
(`mem_narrow_of_upperChar`). They keep it in lower case, so that a key and its
lower case have the same upper case (`upperChars_lowerChars_of_spellsVerb`).

Hence the lower cases of verbs are as prefix-free as the five words are
(`lowerChars_append_inj`).
-/

namespace ClientGen

namespace Text

/-- The characters beyond ASCII whose upper case is ASCII. -/
def narrow : List Char := ['ı', 'ſ', 'ß', 'ﬀ', 'ﬁ', 'ﬂ', 'ﬃ', 'ﬄ', 'ﬅ', 'ﬆ']

theorem mem_narrow_of_run : ∀ r ∈ upperRuns, ∀ n ∈ r.members,
    (Char.ofNat (r.target n)).toNat < 128 → Char.ofNat n ∈ narrow := by
  decide +kernel

theorem mem_narrow_of_row : ∀ e ∈ upperExpansions,
    (∀ n ∈ e.2, (Char.ofNat n).toNat < 128) → Char.ofNat e.1 ∈ narrow := by
  decide +kernel

/-- A character whose upper case is ASCII is ASCII or one of those. -/
theorem mem_narrow_of_upperChar {c : Char}
    (h : ∀ d ∈ upperChar c, d.toNat < 128) : c.toNat < 128 ∨ c ∈ narrow := by
  by_cases hascii : c.toNat < 128
  · exact Or.inl hascii
  · right
    rw [upperChar, if_neg hascii, mapChar] at h
    rw [← Char.ofNat_toNat c]
    cases hrun : upperRuns.find? (·.contains c.toNat) with
    | some r =>
      simp only [hrun, List.forall_mem_singleton] at h
      have hcontains : r.contains c.toNat = true := by
        simpa using List.find?_some hrun
      exact mem_narrow_of_run r (List.mem_of_find?_eq_some hrun) c.toNat
        (CaseRun.mem_members hcontains) h
    | none =>
      simp only [hrun] at h
      cases hrow : upperExpansions.lookup c.toNat with
      | none =>
        simp only [hrow, List.forall_mem_singleton] at h
        exact absurd h hascii
      | some ns =>
        simp only [hrow, List.forall_mem_map] at h
        obtain ⟨before, after, hsplit, -⟩ := List.lookup_eq_some_iff.1 hrow
        have hmem : (c.toNat, ns) ∈ upperExpansions := by
          rw [hsplit]
          exact List.mem_append_right _ List.mem_cons_self
        exact mem_narrow_of_row _ hmem h

/-- Whether the upper case of a character can be ASCII. -/
def IsNarrow (c : Char) : Prop := c.toNat < 128 ∨ c ∈ narrow

/-- Whether a character is lowered by itself, and keeps its upper case. -/
def lowersAlone (c : Char) : Bool :=
  c != capitalSigma && upperChars (lowerChar c) == upperChar c

theorem lowersAlone_of_isNarrow {c : Char} (h : IsNarrow c) :
    lowersAlone c = true := by
  rcases h with hascii | hmem
  · exact forall_ascii (P := fun c => lowersAlone c = true) (by decide +kernel)
      hascii
  · have hall : narrow.all lowersAlone = true := by
      decide +kernel
    exact List.all_eq_true.1 hall c hmem

private theorem upperChars_lowerAfter {s : List Char}
    (h : ∀ c ∈ s, IsNarrow c) (after : Bool) :
    upperChars (lowerAfter after s) = upperChars s := by
  induction s generalizing after with
  | nil => rfl
  | cons c rest ih =>
    have halone := lowersAlone_of_isNarrow (h c List.mem_cons_self)
    rw [lowersAlone, Bool.and_eq_true, bne_iff_ne, beq_iff_eq] at halone
    obtain ⟨hsigma, hupper⟩ := halone
    rw [lowerAfter, if_neg hsigma, upperChars_append, hupper,
      ih fun d hd => h d (List.mem_cons_of_mem c hd)]
    rfl

/-- Nothing but the empty text has an empty upper case. -/
theorem upperChars_eq_nil {s : List Char} : upperChars s = [] ↔ s = [] := by
  cases s with
  | nil => exact Iff.rfl
  | cons c rest =>
    have hne : upperChars (c :: rest) = upperChar c ++ upperChars rest := rfl
    rw [hne, List.append_eq_nil_iff]
    exact ⟨fun h => absurd h.1 (upperChar_ne_nil c), nofun⟩

end Text

namespace Method

open Text

/-- Characters whose upper case is a verb. -/
def SpellsVerb (s : List Char) : Prop := String.ofList (upperChars s) ∈ verbs

instance (s : List Char) : Decidable (SpellsVerb s) :=
  inferInstanceAs (Decidable (String.ofList (upperChars s) ∈ verbs))

theorem isVerb_str {verb : String} :
    isVerb (.str verb) = true ↔ SpellsVerb verb.toList := by
  rw [isVerb, List.contains_iff_mem]
  rfl

variable {s t : List Char}

theorem isNarrow_of_spellsVerb (h : SpellsVerb s) :
    ∀ c ∈ s, IsNarrow c := by
  have hverbs : ∀ v ∈ verbs, (v.toList.all fun d => d.toNat < 128) = true := by
    decide
  intro c hc
  refine mem_narrow_of_upperChar fun d hd =>
    of_decide_eq_true (List.all_eq_true.1 (hverbs _ h) d ?_)
  rw [String.toList_ofList]
  exact List.mem_flatMap.2 ⟨c, hc, hd⟩

/-- A verb and its lower case have the same upper case. -/
theorem upperChars_lowerChars_of_spellsVerb (h : SpellsVerb s) :
    upperChars (lowerChars s) = upperChars s :=
  upperChars_lowerAfter (isNarrow_of_spellsVerb h) false

theorem ne_nil_of_spellsVerb (h : SpellsVerb s) : s ≠ [] := by
  rintro rfl
  exact absurd h (by decide)

private theorem eq_nil_of_lowerChars_append {more : List Char}
    (hs : SpellsVerb s) (ht : SpellsVerb t)
    (h : lowerChars t = lowerChars s ++ more) : more = [] := by
  have hfree : ∀ v ∈ verbs, ∀ w ∈ verbs, v.toList <+: w.toList → v = w := by
    decide
  have hupper : upperChars t = upperChars s ++ upperChars more := by
    rw [← upperChars_lowerChars_of_spellsVerb ht, h, upperChars_append,
      upperChars_lowerChars_of_spellsVerb hs]
  have hprefix : (String.ofList (upperChars s)).toList <+:
      (String.ofList (upperChars t)).toList := by
    rw [String.toList_ofList, String.toList_ofList, hupper]
    exact List.prefix_append _ _
  have hsame : upperChars s = upperChars t :=
    String.ofList_injective (hfree _ hs _ ht hprefix)
  rw [hsame, List.self_eq_append_right] at hupper
  exact upperChars_eq_nil.1 hupper

/-- Where a verb in lower case ends can be told from what follows it. -/
theorem lowerChars_append_inj (hs : SpellsVerb s) (ht : SpellsVerb t)
    {rest rest' : List Char}
    (h : lowerChars s ++ rest = lowerChars t ++ rest') :
    lowerChars s = lowerChars t ∧ rest = rest' := by
  have hsame : lowerChars s = lowerChars t := by
    rcases List.append_eq_append_iff.1 h with ⟨more, hmore, -⟩ | ⟨more, hmore, -⟩
    · rw [hmore, eq_nil_of_lowerChars_append hs ht hmore, List.append_nil]
    · rw [hmore, eq_nil_of_lowerChars_append ht hs hmore, List.append_nil]
  rw [hsame] at h
  exact ⟨hsame, List.append_cancel_left h⟩

end Method

end ClientGen
