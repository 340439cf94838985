import ClientGen.Proofs.Case

/-!
# Characters of a case stay in it

Putting a character in upper case yields one character or more, and the first
of them is in upper case already (`upperChar_eq_cons`). So a text whose first
character is in upper case is capitalized (`upperFirst_upperFirst`). The same
holds of lower case (`lowerChar_eq_cons`), and putting the first character of a
text in lower case does nothing to a text that is in lower case
(`lowerFirst_lowerChars_append`).

Beyond ASCII this says of the tables that nothing they map to is mapped again
(`Settles`). There are some 1400 code points on either side, too many to compare
each with each: both sides become one number with a bit for each code point
(`bitsOf`), and these have no bit in common.
-/

namespace ClientGen.Text

/-! ### Sets of code points as numbers -/

/-- The number whose bits are those that are listed. -/
def bitsOf (ns : List Nat) : Nat := ns.foldr (fun n bits => 1 <<< n ||| bits) 0

theorem testBit_bitsOf {ns : List Nat} {n : Nat} :
    (bitsOf ns).testBit n = true ↔ n ∈ ns := by
  induction ns with
  | nil => simp [bitsOf]
  | cons m ns ih =>
    have hcons : bitsOf (m :: ns) = 1 <<< m ||| bitsOf ns := rfl
    have hone : (1 <<< m).testBit n = true ↔ n = m := by
      rw [Nat.shiftLeft_eq, Nat.one_mul, Nat.testBit_two_pow, decide_eq_true_eq]
      exact eq_comm
    rw [hcons, Nat.testBit_or, Bool.or_eq_true, hone, ih, List.mem_cons]

/-- Lists whose bits have none in common have no member in common. -/
theorem notMem_of_land_eq_zero {ms ns : List Nat}
    (h : bitsOf ms &&& bitsOf ns = 0) {n : Nat} (hn : n ∈ ms) : n ∉ ns := by
  intro hmem
  have hboth : (bitsOf ms &&& bitsOf ns).testBit n = true := by
    rw [Nat.testBit_and, testBit_bitsOf.2 hn, testBit_bitsOf.2 hmem]
    rfl
  rw [h, Nat.zero_testBit] at hboth
  cases hboth

/-! ### Both sides of the tables -/

namespace CaseRun

/-- The code points of a run. -/
def members (r : CaseRun) : List Nat :=
  (List.range ((r.last - r.first) / r.step + 1)).map fun i =>
    r.first + i * r.step

theorem mem_members {r : CaseRun} {n : Nat} (h : r.contains n = true) :
    n ∈ r.members := by
  simp only [contains, Bool.and_eq_true, decide_eq_true_eq, beq_iff_eq] at h
  obtain ⟨⟨hfirst, hlast⟩, hstep⟩ := h
  refine List.mem_map.2 ⟨(n - r.first) / r.step, ?_, ?_⟩
  · have hdiv : (n - r.first) / r.step ≤ (r.last - r.first) / r.step :=
      Nat.div_le_div_right (Nat.sub_le_sub_right hlast r.first)
    exact List.mem_range.2 (Nat.lt_succ_of_le hdiv)
  · rw [Nat.div_mul_cancel (Nat.dvd_of_mod_eq_zero hstep)]
    exact Nat.add_sub_cancel' hfirst

end CaseRun

section Tables

variable (ascii : Char → Char) (runs : List CaseRun)
  (expansions : List (Nat × List Nat))

/-- The code points that tables map. -/
def sourcesOf : List Nat :=
  runs.flatMap CaseRun.members ++ expansions.map (·.1)

/-- The code points that a text starts with to which tables map. -/
def targetsOf : List Nat :=
  runs.flatMap (fun r => r.members.map r.target) ++
    expansions.filterMap (·.2.head?)

/-- A mapping that settles ASCII by itself and leaves all else to tables. -/
def mapCase (c : Char) : List Char :=
  if c.toNat < 128 then [ascii c] else mapChar runs expansions c

/-- Nothing that a mapping maps to, as far as it comes first, is mapped
again. -/
structure Settles : Prop where
  ofAscii : ∀ n : Fin 128,
    mapCase ascii runs expansions (ascii (Char.ofNat n)) =
      [ascii (Char.ofNat n)]
  low : ∀ n ∈ targetsOf runs expansions, (Char.ofNat n).toNat < 128 →
    ascii (Char.ofNat n) = Char.ofNat n
  high : bitsOf ((targetsOf runs expansions).filter (128 ≤ ·)) &&&
    bitsOf (sourcesOf runs expansions) = 0
  rows : ∀ e ∈ expansions, e.2 ≠ []

variable {ascii : Char → Char} {runs : List CaseRun}
  {expansions : List (Nat × List Nat)}

/-- What the tables do not map stays as it is. -/
private theorem mapChar_of_notMem {c : Char}
    (h : c.toNat ∉ sourcesOf runs expansions) :
    mapChar runs expansions c = [c] := by
  rw [sourcesOf, List.mem_append, not_or] at h
  have hrun : runs.find? (·.contains c.toNat) = none := by
    rw [List.find?_eq_none]
    intro r hr hcontains
    exact h.1 (List.mem_flatMap.2 ⟨r, hr, CaseRun.mem_members hcontains⟩)
  have hrow : expansions.lookup c.toNat = none := by
    rw [List.lookup_eq_none_iff]
    intro e he
    rw [bne_iff_ne]
    rintro hkey
    exact h.2 (List.mem_map.2 ⟨e, he, hkey.symm⟩)
  simp only [mapChar, hrun, hrow]

/-- A character stays as it is, or is mapped to a text that starts with a
target. -/
private theorem mapChar_cases (hrows : ∀ e ∈ expansions, e.2 ≠ []) (c : Char) :
    mapChar runs expansions c = [c] ∨
      ∃ n ∈ targetsOf runs expansions, ∃ rest,
        mapChar runs expansions c = Char.ofNat n :: rest := by
  rw [mapChar]
  cases hrun : runs.find? (·.contains c.toNat) with
  | some r =>
    have hcontains : r.contains c.toNat = true := by
      simpa using List.find?_some hrun
    have htarget : r.target c.toNat ∈ targetsOf runs expansions := by
      refine List.mem_append_left _ (List.mem_flatMap.2
        ⟨r, List.mem_of_find?_eq_some hrun, ?_⟩)
      exact List.mem_map.2 ⟨_, CaseRun.mem_members hcontains, rfl⟩
    exact Or.inr ⟨_, htarget, [], rfl⟩
  | none =>
    cases hrow : expansions.lookup c.toNat with
    | none => exact Or.inl rfl
    | some ns =>
      obtain ⟨before, after, hsplit, -⟩ := List.lookup_eq_some_iff.1 hrow
      have hmem : (c.toNat, ns) ∈ expansions := by
        rw [hsplit]
        exact List.mem_append_right _ List.mem_cons_self
      cases ns with
      | nil => exact absurd rfl (hrows _ hmem)
      | cons n rest =>
        have htarget : n ∈ targetsOf runs expansions :=
          List.mem_append_right _ (List.mem_filterMap.2 ⟨_, hmem, rfl⟩)
        exact Or.inr ⟨_, htarget, _, rfl⟩

namespace Settles

variable (h : Settles ascii runs expansions)

include h

/-- A target stays as it is. -/
private theorem mapCase_of_mem_targetsOf {n : Nat}
    (hn : n ∈ targetsOf runs expansions) :
    mapCase ascii runs expansions (Char.ofNat n) = [Char.ofNat n] := by
  rw [mapCase]
  by_cases hascii : (Char.ofNat n).toNat < 128
  · rw [if_pos hascii, h.low n hn hascii]
  · have hvalid : n.isValidChar := by
      refine Decidable.byContradiction fun hinvalid => ?_
      rw [ofNat_of_not_isValidChar hinvalid] at hascii
      exact hascii (by decide)
    have hnat := toNat_ofNat_of_isValidChar hvalid
    have hmem : n ∈ (targetsOf runs expansions).filter (128 ≤ ·) := by
      rw [hnat] at hascii
      exact List.mem_filter.2 ⟨hn, by simpa using hascii⟩
    rw [if_neg hascii]
    refine mapChar_of_notMem ?_
    rw [hnat]
    exact notMem_of_land_eq_zero h.high hmem

/-- The first character that a character is mapped to stays as it is. -/
theorem mapCase_eq_cons (c : Char) :
    ∃ d rest, mapCase ascii runs expansions c = d :: rest ∧
      mapCase ascii runs expansions d = [d] := by
  by_cases hascii : c.toNat < 128
  · refine ⟨ascii c, [], ?_, ?_⟩
    · rw [mapCase, if_pos hascii]
    · simpa using h.ofAscii ⟨c.toNat, hascii⟩
  · have hcase : mapCase ascii runs expansions c = mapChar runs expansions c := by
      rw [mapCase, if_neg hascii]
    rcases mapChar_cases h.rows c with hstays | ⟨n, hn, rest, hmap⟩
    · rw [hstays] at hcase
      exact ⟨c, [], hcase, hcase⟩
    · rw [hmap] at hcase
      exact ⟨_, rest, hcase, h.mapCase_of_mem_targetsOf hn⟩

end Settles

end Tables

theorem settles_upper : Settles Char.toUpper upperRuns upperExpansions where
  ofAscii := by decide +kernel
  low := by decide +kernel
  high := by decide +kernel
  rows := by decide

theorem settles_lower : Settles Char.toLower lowerRuns lowerExpansions where
  ofAscii := by decide +kernel
  low := by decide +kernel
  high := by decide +kernel
  rows := by decide

/-! ### Characters and texts -/

/-- The first character of an upper case is in upper case. -/
theorem upperChar_eq_cons (c : Char) :
    ∃ u rest, upperChar c = u :: rest ∧ upperChar u = [u] :=
  settles_upper.mapCase_eq_cons c

/-- The first character of a lower case is in lower case. -/
theorem lowerChar_eq_cons (c : Char) :
    ∃ l rest, lowerChar c = l :: rest ∧ lowerChar l = [l] :=
  settles_lower.mapCase_eq_cons c

theorem upperChar_ne_nil (c : Char) : upperChar c ≠ [] := by
  obtain ⟨u, rest, hupper, -⟩ := upperChar_eq_cons c
  rw [hupper]
  exact List.cons_ne_nil u rest

theorem lowerChar_ne_nil (c : Char) : lowerChar c ≠ [] := by
  obtain ⟨l, rest, hlower, -⟩ := lowerChar_eq_cons c
  rw [hlower]
  exact List.cons_ne_nil l rest

/-- A text in lower case starts with a character in lower case, be it a small
sigma. -/
theorem lowerFirst_lowerChars_append {s : List Char} (h : s ≠ [])
    (rest : List Char) :
    lowerFirst (lowerChars s ++ rest) = lowerChars s ++ rest := by
  cases s with
  | nil => exact absurd rfl h
  | cons c more =>
    -- Whatever the neighbours of a capital sigma, a small one is no capital.
    obtain ⟨l, others, hfirst, hstays⟩ : ∃ l others,
        lowerChars (c :: more) = l :: others ∧ lowerChars [l] = [l] := by
      rw [lowerChars, lowerAfter]
      by_cases hsigma : c = capitalSigma
      · rw [if_pos hsigma, Bool.false_and]
        exact ⟨_, _, rfl, by decide⟩
      · obtain ⟨l, own, hlower, hstays⟩ := lowerChar_eq_cons c
        have hne : l ≠ capitalSigma := by
          rintro rfl
          exact absurd hstays (by decide)
        rw [if_neg hsigma, hlower]
        refine ⟨l, _, rfl, ?_⟩
        rw [lowerChars, lowerAfter, if_neg hne, hstays]
        rfl
    rw [hfirst, List.cons_append, lowerFirst, hstays]
    rfl

@[simp] theorem lowerFirst_lowerChars (s : List Char) :
    lowerFirst (lowerChars s) = lowerChars s := by
  by_cases h : s = []
  · rw [h]
    rfl
  · simpa using lowerFirst_lowerChars_append h []

/-- A capitalized text is capitalized. -/
@[simp] theorem upperFirst_upperFirst (s : List Char) :
    upperFirst (upperFirst s) = upperFirst s := by
  cases s with
  | nil => rfl
  | cons c s =>
    obtain ⟨u, rest, hupper, hstays⟩ := upperChar_eq_cons c
    rw [upperFirst, hupper, List.cons_append, upperFirst, hstays]
    rfl

end ClientGen.Text
