import ClientGen.Text.Case

/-!
# Case mappings and punctuation

A case mapping makes letters, and leaves all other ASCII characters as they
are: no mapping of another character yields a digit, a slash, a dash or a dot.
So a text that is put in lower case, or whose first character is put in upper
case, has no punctuation that it did not have before
(`mem_of_mem_lowerChars`, `mem_of_mem_upperFirst`).

Beyond ASCII this is a property of the tables, which is checked run by run and
row by row.
-/

namespace ClientGen.Text

/-- An ASCII character that is no letter. -/
def IsMark (c : Char) : Prop := c.toNat < 128 ∧ c.isAlpha = false

instance (c : Char) : Decidable (IsMark c) := by
  unfold IsMark
  infer_instance

/-! ### Code points -/

theorem toNat_ofNat_of_isValidChar {n : Nat} (h : n.isValidChar) :
    (Char.ofNat n).toNat = n := by
  rw [Char.ofNat, dif_pos h]
  rfl

/-- A number that is no code point stands for the first character. -/
theorem ofNat_of_not_isValidChar {n : Nat} (h : ¬ n.isValidChar) :
    Char.ofNat n = Char.ofNat 0 := by
  rw [Char.ofNat, dif_neg h]
  rfl

/-- What holds of the first 128 characters holds of all that are ASCII. -/
theorem forall_ascii {P : Char → Prop} (h : ∀ n : Fin 128, P (Char.ofNat n))
    {c : Char} (hc : c.toNat < 128) : P c := by
  simpa using h ⟨c.toNat, hc⟩

/-- Letters and digits are those of ASCII. -/
theorem toNat_lt_of_isAlphanum {c : Char} (h : c.isAlphanum = true) :
    c.toNat < 128 := by
  have hval : c.val ≤ 122 := by
    rcases Bool.or_eq_true_iff.1 h with halpha | hdigit
    · rcases Bool.or_eq_true_iff.1 halpha with hupper | hlower
      · have hrange : c.val ≥ 'A'.val ∧ c.val ≤ 'Z'.val := of_decide_eq_true hupper
        exact UInt32.le_trans hrange.2 (by decide)
      · exact of_decide_eq_true (Bool.and_eq_true_iff.1 hlower).2
    · have hlast : c.val ≤ 57 :=
        of_decide_eq_true (Bool.and_eq_true_iff.1 hdigit).2
      exact UInt32.le_trans hlast (by decide)
  exact Nat.lt_of_le_of_lt (UInt32.le_iff_toNat_le.1 hval) (by decide)

theorem isAlphanum_of_isLower {c : Char} (h : c.isLower = true) :
    c.isAlphanum = true :=
  Bool.or_eq_true_iff.2 (Or.inl (Bool.or_eq_true_iff.2 (Or.inr h)))

/-! ### The tables -/

/-- Whether a number stands for a character beyond ASCII or for a letter. -/
def isLetterLike (n : Nat) : Bool :=
  128 ≤ (Char.ofNat n).toNat || (Char.ofNat n).isAlpha

theorem not_isMark_of_isLetterLike {n : Nat} (h : isLetterLike n = true) :
    ¬ IsMark (Char.ofNat n) := by
  rintro ⟨hascii, halpha⟩
  rw [isLetterLike, halpha, Bool.or_false, decide_eq_true_eq] at h
  omega

/-- Whether a run maps to valid code points beyond ASCII only, or a single one
to a letter. -/
def CaseRun.isLetterLike (r : CaseRun) : Bool :=
  (128 ≤ (r.first : Int) + r.delta &&
      ((r.last : Int) + r.delta < 0xD800 ||
        (0xE000 ≤ (r.first : Int) + r.delta &&
          (r.last : Int) + r.delta < 0x110000))) ||
    (r.first == r.last && Text.isLetterLike (r.target r.first))

/-- Whatever such a run maps to is like a letter. -/
theorem isLetterLike_target {r : CaseRun} (hr : r.isLetterLike = true)
    {n : Nat} (hn : r.contains n = true) :
    Text.isLetterLike (r.target n) = true := by
  simp only [CaseRun.contains, Bool.and_eq_true, decide_eq_true_eq] at hn
  obtain ⟨⟨hfirst, hlast⟩, -⟩ := hn
  rw [CaseRun.isLetterLike, Bool.or_eq_true] at hr
  rcases hr with hr | hr
  · simp only [Bool.and_eq_true, Bool.or_eq_true, decide_eq_true_eq] at hr
    have htarget : r.target n = ((n : Int) + r.delta).toNat := rfl
    have hlow : 128 ≤ r.target n := by omega
    have hvalid : (r.target n).isValidChar := by
      unfold Nat.isValidChar
      omega
    rw [Text.isLetterLike, toNat_ofNat_of_isValidChar hvalid, Bool.or_eq_true,
      decide_eq_true_eq]
    exact Or.inl hlow
  · simp only [Bool.and_eq_true, beq_iff_eq] at hr
    have hsame : n = r.first := by omega
    rw [hsame]
    exact hr.2

theorem isLetterLike_of_mem_upperRuns :
    ∀ r ∈ upperRuns, r.isLetterLike = true := by
  decide +kernel

theorem isLetterLike_of_mem_lowerRuns :
    ∀ r ∈ lowerRuns, r.isLetterLike = true := by
  decide +kernel

theorem isLetterLike_of_mem_upperExpansions :
    ∀ e ∈ upperExpansions, ∀ n ∈ e.2, isLetterLike n = true := by
  decide

theorem isLetterLike_of_mem_lowerExpansions :
    ∀ e ∈ lowerExpansions, ∀ n ∈ e.2, isLetterLike n = true := by
  decide

/-- A mapping yields the character itself, or what a run or a row has for it. -/
theorem mem_mapChar {runs : List CaseRun} {expansions : List (Nat × List Nat)}
    {c d : Char} (h : d ∈ mapChar runs expansions c) :
    d = c ∨
      (∃ r ∈ runs, r.contains c.toNat = true ∧
        d = Char.ofNat (r.target c.toNat)) ∨
      ∃ e ∈ expansions, ∃ n ∈ e.2, d = Char.ofNat n := by
  unfold mapChar at h
  cases hrun : runs.find? (·.contains c.toNat) with
  | some r =>
    simp only [hrun, List.mem_singleton] at h
    have hcontains : r.contains c.toNat = true := by
      simpa using List.find?_some hrun
    exact Or.inr (Or.inl ⟨r, List.mem_of_find?_eq_some hrun, hcontains, h⟩)
  | none =>
    simp only [hrun] at h
    cases hrow : expansions.lookup c.toNat with
    | none =>
      simp only [hrow, List.mem_singleton] at h
      exact Or.inl h
    | some ns =>
      simp only [hrow, List.mem_map] at h
      obtain ⟨n, hn, rfl⟩ := h
      obtain ⟨before, after, rfl, -⟩ := List.lookup_eq_some_iff.1 hrow
      exact Or.inr (Or.inr ⟨(c.toNat, ns), by simp, n, hn, rfl⟩)

/-- A mapping by tables that are like letters makes no mark out of another
character. -/
theorem eq_of_mem_mapChar {runs : List CaseRun}
    {expansions : List (Nat × List Nat)}
    (hruns : ∀ r ∈ runs, r.isLetterLike = true)
    (hexpansions : ∀ e ∈ expansions, ∀ n ∈ e.2, isLetterLike n = true)
    {c d : Char} (hd : IsMark d) (h : d ∈ mapChar runs expansions c) :
    d = c := by
  rcases mem_mapChar h with hsame | ⟨r, hr, hcontains, rfl⟩ | ⟨e, he, n, hn, rfl⟩
  · exact hsame
  · have hlike := isLetterLike_target (hruns r hr) hcontains
    exact absurd hd (not_isMark_of_isLetterLike hlike)
  · exact absurd hd (not_isMark_of_isLetterLike (hexpansions e he n hn))

/-! ### Characters -/

/-- In ASCII the upper case of a character is the character or a letter. -/
private theorem toUpper_of_ascii {c : Char} (h : c.toNat < 128) :
    c.toUpper = c ∨ c.toUpper.isAlpha = true :=
  forall_ascii (P := fun c => c.toUpper = c ∨ c.toUpper.isAlpha = true)
    (by decide) h

/-- In ASCII the lower case of a character is the character or a letter. -/
private theorem toLower_of_ascii {c : Char} (h : c.toNat < 128) :
    c.toLower = c ∨ c.toLower.isAlpha = true :=
  forall_ascii (P := fun c => c.toLower = c ∨ c.toLower.isAlpha = true)
    (by decide) h

/-- The upper case of a character has no mark but the character itself. -/
theorem eq_of_mem_upperChar {c d : Char} (hd : IsMark d)
    (h : d ∈ upperChar c) : d = c := by
  unfold upperChar at h
  split at h
  · next hascii =>
    rw [List.mem_singleton] at h
    subst h
    rcases toUpper_of_ascii hascii with hsame | halpha
    · exact hsame
    · exact absurd halpha (by simp [hd.2])
  · exact eq_of_mem_mapChar isLetterLike_of_mem_upperRuns
      isLetterLike_of_mem_upperExpansions hd h

/-- The lower case of a character has no mark but the character itself. -/
theorem eq_of_mem_lowerChar {c d : Char} (hd : IsMark d)
    (h : d ∈ lowerChar c) : d = c := by
  unfold lowerChar at h
  split at h
  · next hascii =>
    rw [List.mem_singleton] at h
    subst h
    rcases toLower_of_ascii hascii with hsame | halpha
    · exact hsame
    · exact absurd halpha (by simp [hd.2])
  · exact eq_of_mem_mapChar isLetterLike_of_mem_lowerRuns
      isLetterLike_of_mem_lowerExpansions hd h

/-- A mark is its own upper case. -/
theorem upperChar_of_isMark {c : Char} (h : IsMark c) : upperChar c = [c] := by
  have hsame : c.isAlpha = false → c.toUpper = c :=
    forall_ascii (P := fun c => c.isAlpha = false → c.toUpper = c) (by decide) h.1
  rw [upperChar, if_pos h.1, hsame h.2]

/-- A mark is its own lower case. -/
theorem lowerChar_of_isMark {c : Char} (h : IsMark c) : lowerChar c = [c] := by
  have hsame : c.isAlpha = false → c.toLower = c :=
    forall_ascii (P := fun c => c.isAlpha = false → c.toLower = c) (by decide) h.1
  rw [lowerChar, if_pos h.1, hsame h.2]

/-! ### Texts -/

/-- Capitalizing a text adds no mark. -/
theorem mem_of_mem_upperFirst {d : Char} (hd : IsMark d) {s : List Char}
    (h : d ∈ upperFirst s) : d ∈ s := by
  cases s with
  | nil => exact h
  | cons c rest =>
    rw [upperFirst, List.mem_append] at h
    rcases h with h | h
    · rw [eq_of_mem_upperChar hd h]
      exact List.mem_cons_self
    · exact List.mem_cons_of_mem c h

/-- Capitalizing a text takes no mark out of it. -/
theorem mem_upperFirst_of_mem {d : Char} (hd : upperChar d = [d]) {s : List Char}
    (h : d ∈ s) : d ∈ upperFirst s := by
  cases s with
  | nil => cases h
  | cons c rest =>
    rw [upperFirst, List.mem_append]
    rcases List.mem_cons.1 h with rfl | h
    · left
      rw [hd]
      exact List.mem_cons_self
    · exact Or.inr h

private theorem mem_of_mem_lowerAfter {d : Char} (hd : IsMark d) {after : Bool}
    {s : List Char} (h : d ∈ lowerAfter after s) : d ∈ s := by
  induction s generalizing after with
  | nil => exact h
  | cons c rest ih =>
    rw [lowerAfter, List.mem_append] at h
    rcases h with h | h
    · have hc : d = c := by
        split at h
        · -- Both forms of a small sigma lie beyond ASCII.
          rw [List.mem_singleton] at h
          subst h
          exfalso
          revert hd
          split <;> decide
        · exact eq_of_mem_lowerChar hd h
      rw [hc]
      exact List.mem_cons_self
    · exact List.mem_cons_of_mem c (ih h)

private theorem mem_lowerAfter {d : Char} (hd : IsMark d) {after : Bool}
    {s : List Char} (h : d ∈ s) : d ∈ lowerAfter after s := by
  induction s generalizing after with
  | nil => cases h
  | cons c rest ih =>
    rw [lowerAfter, List.mem_append]
    rcases List.mem_cons.1 h with rfl | h
    · left
      have hsigma : d ≠ capitalSigma := by
        rintro rfl
        exact absurd hd (by decide)
      rw [if_neg hsigma, lowerChar_of_isMark hd]
      exact List.mem_cons_self
    · right
      exact ih h

/-- Putting a text in lower case keeps its marks. -/
theorem mem_lowerChars_of_mem {d : Char} (hd : IsMark d) {s : List Char}
    (h : d ∈ s) : d ∈ lowerChars s :=
  mem_lowerAfter hd h

/-- Putting a text in lower case adds no mark. -/
theorem mem_of_mem_lowerChars {d : Char} (hd : IsMark d) {s : List Char}
    (h : d ∈ lowerChars s) : d ∈ s :=
  mem_of_mem_lowerAfter hd h

end ClientGen.Text
