import ClientGen.Proofs.Spelling

/-!
# Values that are written as text

Where a name is needed, a value that is no text is written as one. Numbers, dates
and whatever holds other values then have a *mark* in them, be it a digit, a
bracket or a quote, and all that is left are six words for null, the booleans
and the numbers that are not finite (`text_cases`).

Marks other than delimiters stay in an identifier (`HasMark.identifier`). So a
value that is no text does not become a name that stands for everything
(`identifier_text_notMem`).
-/

namespace ClientGen

namespace Text

/-- A text has a mark that is no delimiter. -/
def HasMark (s : List Char) : Prop :=
  ∃ d ∈ s, IsMark d ∧ isDelimiter d = false

namespace HasMark

variable {s t : List Char}

theorem mono (h : HasMark s) (hst : s ⊆ t) : HasMark t := by
  obtain ⟨d, hd, hmark⟩ := h
  exact ⟨d, hst hd, hmark⟩

theorem append_left (h : HasMark s) (t : List Char) : HasMark (s ++ t) :=
  h.mono (List.subset_append_left s t)

theorem append_right (h : HasMark t) (s : List Char) : HasMark (s ++ t) :=
  h.mono (List.subset_append_right s t)

/-- Digits are marks. -/
theorem of_isDigit {c : Char} (hc : c ∈ s) (h : c.isDigit = true) :
    HasMark s := by
  have hascii : c.toNat < 128 :=
    toNat_lt_of_isAlphanum (Bool.or_eq_true_iff.2 (Or.inr h))
  have hmark : c.isDigit = true → c.isAlpha = false ∧ isDelimiter c = false :=
    forall_ascii (P := fun c => c.isDigit = true →
      c.isAlpha = false ∧ isDelimiter c = false) (by decide) hascii
  obtain ⟨halpha, hdivides⟩ := hmark h
  exact ⟨c, hc, ⟨hascii, halpha⟩, hdivides⟩

/-- An identifier has the marks of the name but for delimiters. -/
theorem identifier {s : String} (h : HasMark s.toList) :
    HasMark (Text.identifier s).toList := by
  obtain ⟨d, hd, hmark, hdivides⟩ := h
  rw [toList_identifier]
  exact ⟨d, mem_identifierChars_of_mem hmark hdivides hd, hmark, hdivides⟩

end HasMark

/-! ### Numbers and dates -/

theorem hasMark_toDigits (n : Nat) : HasMark (Nat.toDigits 10 n) := by
  obtain ⟨c, hc⟩ := List.exists_mem_of_ne_nil _ (Nat.toDigits_ne_nil (n := n))
  exact HasMark.of_isDigit hc
    (Nat.isDigit_of_mem_toDigits (by decide) (by decide) hc)

theorem hasMark_repr (n : Int) : HasMark (toString n).toList := by
  rw [Int.toString_eq_repr]
  cases n with
  | ofNat m =>
    show HasMark m.repr.toList
    rw [Nat.toList_repr]
    exact hasMark_toDigits m
  | negSucc m =>
    show HasMark ("-" ++ m.succ.repr).toList
    rw [String.toList_append, Nat.toList_repr]
    exact (hasMark_toDigits m.succ).append_right _

theorem hasMark_padded (width n : Nat) : HasMark (padded width n).toList := by
  rw [padded, String.toList_ofList]
  exact (hasMark_toDigits n).append_right _

theorem hasMark_date (d : Date) : HasMark d.text.toList := by
  simp only [Date.text, String.toList_append, List.append_assoc]
  exact (hasMark_padded 4 d.year).append_left _

theorem hasMark_timestamp (t : Timestamp) : HasMark t.text.toList := by
  simp only [Timestamp.text, String.toList_append, List.append_assoc]
  exact (hasMark_date t.date).append_left _

end Text

namespace Decimal

open Text

/-- The digits of a decimal are digits. -/
def Expansion.IsDecimal (d : Expansion) : Prop := ∀ c ∈ d.digits, c.isDigit = true

theorem Binary64.isDecimal_shortest (m : Nat) (e : Int) :
    (shortest m e).IsDecimal := by
  intro c hc
  have hmem : c ∈ Nat.toDigits 10 (shortestFrom m e 16 1).1 := by
    have hdropped := List.mem_reverse.1 hc
    exact List.mem_reverse.1 ((List.dropWhile_suffix _).mem hdropped)
  exact Nat.isDigit_of_mem_toDigits (by decide) (by decide) hmem

namespace Layout

theorem hasMark_positional {d : Expansion} (h : d.IsDecimal) :
    HasMark (positional d) := by
  have hzero : ∀ {s : List Char}, '0' ∈ s → HasMark s := fun hs =>
    HasMark.of_isDigit hs (by decide)
  unfold positional
  split
  · exact hzero List.mem_cons_self
  · dsimp only
    split
    · exact hzero (by simp)
    · -- The first digit stands in front of the point.
      next hpoint hlong =>
      cases hdigits : d.digits with
      | nil =>
        rw [hdigits, List.length_nil] at hlong
        exact absurd (Nat.zero_le _) hlong
      | cons c rest =>
        obtain ⟨n, hn⟩ : ∃ n, d.point.toNat = n + 1 :=
          ⟨d.point.toNat - 1, by omega⟩
        have hc : c ∈ d.digits := by
          rw [hdigits]
          exact List.mem_cons_self
        refine HasMark.of_isDigit (c := c) ?_ (h c hc)
        rw [hn, List.take_succ_cons, List.cons_append]
        exact List.mem_cons_self

theorem hasMark_scientific (width : Nat) (d : Expansion) :
    HasMark (scientific width d) := by
  refine (hasMark_toDigits (d.point - 1).natAbs).mono fun c hc => ?_
  unfold scientific
  simp [hc]

/-- A finite number is written with a digit. -/
theorem hasMark_finite (l : Layout) (negative : Bool) (m : Nat) (e : Int) :
    HasMark (l.text (.finite negative m e)).toList := by
  have hdecimal : (if m = 0 then ⟨['0'], 1⟩ else Binary64.shortest m e :
      Expansion).IsDecimal := by
    split
    · intro c hc
      rw [List.mem_singleton.1 hc]
      decide
    · exact Binary64.isDecimal_shortest m e
  rw [text, String.toList_ofList]
  generalize (if m = 0 then ⟨['0'], 1⟩ else Binary64.shortest m e :
    Expansion) = d at hdecimal
  have hbody : HasMark (if l.least ≤ d.point ∧ d.point ≤ l.greatest then
      positional d else scientific l.exponentDigits d) := by
    split
    · exact hasMark_positional hdecimal
    · exact hasMark_scientific _ d
  split
  · exact hbody.mono (List.subset_cons_self _ _)
  · exact hbody

end Layout

end Decimal

/-! ### Values -/

namespace Value

open Text

/-- What is in brackets has a mark. -/
private theorem hasMark_bracketed {left rest : String} {d : Char}
    (hd : d ∈ left.toList) (hmark : IsMark d ∧ isDelimiter d = false) :
    HasMark (left ++ rest).toList := by
  rw [String.toList_append]
  exact HasMark.append_left ⟨d, hd, hmark⟩ _

theorem hasMark_quotedBytes (data : List UInt8) :
    HasMark (quotedBytes data).toList := by
  rw [quotedBytes, String.toList_ofList]
  refine ⟨_, List.mem_cons_of_mem _ List.mem_cons_self, ?_⟩
  unfold quoteFor
  split <;> decide

/-- The words for values that have no mark when they are written. -/
def bareWords : List String := ["None", "True", "False", "inf", "-inf", "nan"]

/-- A value that is no text is written as one of a few words or with a mark. -/
theorem text_cases {v : Value} (h : v.text? = none) :
    v.text ∈ bareWords ∨ HasMark v.text.toList := by
  cases v with
  | null => exact Or.inl (by decide)
  | bool b => cases b <;> exact Or.inl (by decide)
  | int n =>
    right
    simpa [text, innerText] using hasMark_repr n
  | float x =>
    cases x with
    | nan => exact Or.inl (by decide)
    | infinity negative => cases negative <;> exact Or.inl (by decide)
    | finite negative m e =>
      right
      simpa [text, innerText] using
        numberLayout.hasMark_finite negative m e
  | str s => cases h
  | bytes data =>
    right
    simpa [text, innerText] using hasMark_quotedBytes data
  | date d => exact Or.inr (hasMark_date d)
  | timestamp t => exact Or.inr (hasMark_timestamp t)
  | list items =>
    right
    simp only [text, innerText, String.append_assoc]
    exact hasMark_bracketed (d := '[') (by decide) (by decide)
  | pair k v =>
    right
    simp only [text, innerText, String.append_assoc]
    exact hasMark_bracketed (d := '(') (by decide) (by decide)
  | map entries =>
    right
    simp only [text, innerText, String.append_assoc]
    exact hasMark_bracketed (d := '\x7b') (by decide) (by decide)
  | set members =>
    right
    cases members with
    | nil => exact ⟨'(', by decide, by decide⟩
    | cons v rest =>
      simp only [text, innerText, String.append_assoc]
      exact hasMark_bracketed (d := '\x7b') (by decide) (by decide)

/-- No value but a text has an identifier that is missing or stands for
everything. -/
theorem identifier_text_notMem {v : Value} (h : v.text? = none) :
    Text.identifier v.text ∉ ["", "any", "object"] := by
  rcases text_cases h with hword | hmark
  · have hwords : ∀ w ∈ bareWords,
        Text.identifier w ∉ ["", "any", "object"] := by
      decide
    exact hwords _ hword
  · obtain ⟨d, hd, hmark, -⟩ := hmark.identifier
    have hletters : ∀ w ∈ ["", "any", "object"],
        w.toList.all Char.isAlpha = true := by
      decide
    intro hmem
    have hletter := List.all_eq_true.1 (hletters _ hmem) d hd
    rw [hmark.2] at hletter
    cases hletter

end Value

end ClientGen
