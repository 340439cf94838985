import ClientGen.Json.Reader

/-!
# Integers that are too long to read

The reader of JSON takes characters from the front of a text, so that whatever
it complains of stands in the text. Of an integer that is too long it complains
only where there are that many digits in a row (`hasLongInteger_of_read`). This
is shown for each reading step (`ReadsFrom`), and for whole values by induction
on the fuel.
-/

namespace ClientGen.Json

/-- Whether a text has more digits in a row than an integer may have. -/
def HasLongInteger (s : List Char) : Prop :=
  ∃ ds, ds <:+: s ∧ (∀ d ∈ ds, d.isDigit = true) ∧ maxIntegerDigits < ds.length

theorem HasLongInteger.mono {s t : List Char} (h : HasLongInteger s)
    (hst : s <:+: t) : HasLongInteger t := by
  obtain ⟨ds, hds, hdigits, hlong⟩ := h
  exact ⟨ds, hds.trans hst, hdigits, hlong⟩

/-- A reading step leaves an end of the characters it was given, or complains. Of
a long integer it complains only where there is one. -/
def ReadsFrom {α : Type} (s : List Char) :
    Except Complaint (α × List Char) → Prop
  | .ok (_, rest) => rest <:+ s
  | .error c => c.cause = .integerTooLong → HasLongInteger s

namespace ReadsFrom

variable {α β : Type} {s t : List Char} {r : Except Complaint (α × List Char)}

theorem complain {cause : Cause} (h : cause ≠ .integerTooLong)
    (rest : List Char) : ReadsFrom (α := α) s (complain cause rest) :=
  fun hcause => absurd hcause h

theorem of_suffix (h : ReadsFrom s r) (hst : s <:+ t) : ReadsFrom t r := by
  cases r with
  | ok a => exact List.IsSuffix.trans h hst
  | error c => exact fun hcause => (h hcause).mono hst.isInfix

theorem cons (h : ReadsFrom s r) (c : Char) : ReadsFrom (c :: s) r :=
  h.of_suffix (List.suffix_cons c s)

theorem bind {next : α × List Char → Except Complaint (β × List Char)}
    (h : ReadsFrom s r)
    (hnext : ∀ a rest, ReadsFrom rest (next (a, rest))) :
    ReadsFrom s (r >>= next) := by
  cases r with
  | ok a => exact (hnext a.1 a.2).of_suffix h
  | error c => exact h

theorem map {f : α × List Char → β × List Char} (h : ReadsFrom s r)
    (hf : ∀ a rest, (f (a, rest)).2 = rest) : ReadsFrom s (r.map f) := by
  cases r with
  | ok a =>
    have hrest : (f a).2 = a.2 := hf a.1 a.2
    have hsuffix : a.2 <:+ s := h
    rwa [← hrest] at hsuffix
  | error c => exact h

end ReadsFrom

/-! ### Reading steps -/

theorem skipSpace_suffix (s : List Char) : skipSpace s <:+ s :=
  List.dropWhile_suffix _

theorem readsFrom_stringBody (opening s : List Char) :
    ReadsFrom s (stringBody opening s) := by
  have hread : ∀ {t : List Char} (n : Nat) (c : Char) {r : Reading (List Char)},
      ReadsFrom (t.drop n) r → ReadsFrom t (consChar c r) := by
    intro t n c r h
    exact (h.of_suffix (List.drop_suffix n t)).map fun _ _ => rfl
  fun_induction stringBody opening s
  case case2 => exact List.suffix_cons _ _
  -- Two escapes, joined or not, and one escape before another one.
  case case6 ih => exact hread 12 _ ih
  case case7 ih => exact hread 12 _ (hread 0 _ ih)
  case case8 ih => exact hread 6 _ ih
  case case11 ih => exact hread 6 _ ih
  case case13 ih => exact hread 2 _ ih
  case case16 ih => exact hread 1 _ ih
  all_goals exact .complain (by decide) _

private theorem wholeDigits?_eq_some {s whole rest : List Char}
    (h : wholeDigits? s = some (whole, rest)) :
    s = whole ++ rest ∧ ∀ d ∈ whole, d.isDigit = true := by
  unfold wholeDigits? at h
  split at h
  · cases h
    exact ⟨rfl, List.forall_mem_singleton.2 rfl⟩
  · next c more _ =>
    split at h
    · next hdigit =>
      cases h
      refine ⟨?_, List.forall_mem_cons.2 ⟨hdigit, ?_⟩⟩
      · rw [List.cons_append, List.takeWhile_append_dropWhile]
      · exact List.all_eq_true.1 List.all_takeWhile
    · cases h
  · cases h

private theorem fractionDigits_suffix (s : List Char) :
    (fractionDigits s).2 <:+ s := by
  unfold fractionDigits
  split
  · next c rest =>
    split
    · exact ((List.dropWhile_suffix _).trans (List.suffix_cons _ _)).trans
        (List.suffix_cons _ _)
    · exact List.suffix_rfl
  · exact List.suffix_rfl

private theorem exponent?_suffix {s rest : List Char} {n : Int}
    (h : exponent? s = some (n, rest)) : rest <:+ s := by
  unfold exponent? at h
  split at h
  · next e more =>
    split at h
    · split at h
      next negative signed hsign =>
      have hsigned : signed <:+ more := by
        split at hsign <;> cases hsign
        · exact List.suffix_cons _ _
        · exact List.suffix_cons _ _
        · exact List.suffix_rfl
      split at h
      · cases h
      · cases h
        exact ((List.dropWhile_suffix _).trans hsigned).trans
          (List.suffix_cons _ _)
    · cases h
  · cases h

theorem readsFrom_number (s : List Char) : ReadsFrom s (number s) := by
  unfold number
  split
  next negative t hsign =>
  have ht : t <:+ s := by
    split at hsign <;> cases hsign
    · exact List.suffix_cons _ _
    · exact List.suffix_rfl
  refine ReadsFrom.of_suffix ?_ ht
  split
  · exact .complain (by decide) _
  · next whole afterWhole hwhole =>
    obtain ⟨rfl, hdigits⟩ := wholeDigits?_eq_some hwhole
    have hafter : afterWhole <:+ whole ++ afterWhole := List.suffix_append _ _
    split
    next fraction afterFraction hfraction =>
    have hrest : afterFraction <:+ whole ++ afterWhole := by
      have hsuffix := fractionDigits_suffix afterWhole
      rw [hfraction] at hsuffix
      exact hsuffix.trans hafter
    split
    · next e rest hexponent => exact (exponent?_suffix hexponent).trans hrest
    · split
      · split
        · next hlong =>
          exact fun _ => ⟨whole, (List.prefix_append _ _).isInfix, hdigits, hlong⟩
        · exact hrest
      · exact hrest

private theorem after?_suffix {word s rest : List Char}
    (h : after? word s = some rest) : rest <:+ s := by
  induction word generalizing s with
  | nil =>
    cases h
    exact List.suffix_rfl
  | cons k word ih =>
    cases s with
    | nil => cases h
    | cons c s =>
      rw [after?] at h
      split at h
      · exact (ih h).trans (List.suffix_cons c s)
      · cases h

private theorem keyword?_suffix {s rest : List Char} {v : Value}
    (h : keyword? s = some (v, rest)) : rest <:+ s := by
  obtain ⟨entry, -, hentry⟩ := List.exists_of_findSome?_eq_some h
  obtain ⟨after, hafter, hpair⟩ := Option.map_eq_some_iff.1 hentry
  cases hpair
  exact after?_suffix hafter

/-! ### Values -/

/-- Values, items and members are read from the front, by induction on the
fuel. -/
private theorem readsFrom_all (fuel : Nat) :
    (∀ s, ReadsFrom s (value fuel s)) ∧ (∀ s, ReadsFrom s (items fuel s)) ∧
      ∀ s, ReadsFrom s (members fuel s) := by
  have hne : Cause.expectingValue ≠ .integerTooLong := by decide
  induction fuel with
  | zero =>
    exact ⟨fun s => .complain hne s, fun s => .complain hne s,
      fun s => .complain hne s⟩
  | succ fuel ih =>
    obtain ⟨ihvalue, ihitems, ihmembers⟩ := ih
    refine ⟨?_, ?_, ?_⟩
    · intro s
      rw [value.eq_def]
      simp only
      split
      · exact .complain hne []
      · next rest =>
        exact ((readsFrom_stringBody _ rest).map fun _ _ => rfl).cons _
      · next rest =>
        refine ReadsFrom.of_suffix ?_
          ((skipSpace_suffix rest).trans (List.suffix_cons _ _))
        split
        · next r hr => exact hr ▸ List.suffix_cons _ r
        · exact (ihmembers _).map fun _ _ => rfl
      · next rest =>
        refine ReadsFrom.of_suffix ?_
          ((skipSpace_suffix rest).trans (List.suffix_cons _ _))
        split
        · next r hr => exact hr ▸ List.suffix_cons _ r
        · exact (ihitems _).map fun _ _ => rfl
      · split
        · next r hkeyword => exact keyword?_suffix hkeyword
        · exact readsFrom_number _
    · intro s
      rw [items.eq_def]
      simp only
      refine (ihvalue s).bind fun v r => ?_
      refine ReadsFrom.of_suffix ?_ (skipSpace_suffix r)
      split
      · next r hr => exact hr ▸ List.suffix_cons _ r
      · next r hr =>
        rw [hr]
        refine ReadsFrom.of_suffix ?_
          ((skipSpace_suffix r).trans (List.suffix_cons _ _))
        exact (ihitems _).bind fun vs r => List.suffix_rfl
      · exact .complain (by decide) _
    · intro s
      rw [members.eq_def]
      simp only
      split
      · next rest =>
        refine ReadsFrom.cons ?_ _
        refine (readsFrom_stringBody _ rest).bind fun name r => ?_
        refine ReadsFrom.of_suffix ?_ (skipSpace_suffix r)
        split
        · next r hr =>
          rw [hr]
          refine ReadsFrom.of_suffix ?_
            ((skipSpace_suffix r).trans (List.suffix_cons _ _))
          refine (ihvalue _).bind fun v r => ?_
          refine ReadsFrom.of_suffix ?_ (skipSpace_suffix r)
          split
          · next r hr => exact hr ▸ List.suffix_cons _ r
          · next r hr =>
            rw [hr]
            refine ReadsFrom.of_suffix ?_
              ((skipSpace_suffix r).trans (List.suffix_cons _ _))
            exact (ihmembers _).bind fun es r => List.suffix_rfl
          · exact .complain (by decide) _
        · exact .complain (by decide) _
      · exact .complain (by decide) _

/-- A text whose reader complains of a long integer has one. -/
theorem hasLongInteger_of_read {s : String} {e : Error} (h : read s = .error e)
    (hcause : e.cause = .integerTooLong) : HasLongInteger s.toList := by
  have hdocument : ∀ c, document s.toList = .error c →
      c.cause = .integerTooLong → HasLongInteger s.toList := by
    intro c hc
    unfold document at hc
    split at hc
    · cases hc
      intro hbom
      cases hbom
    · cases hvalue : value (2 * s.toList.length + 2) (skipSpace s.toList) with
      | error c' =>
        rw [hvalue] at hc
        cases hc
        have hreads := (readsFrom_all (2 * s.toList.length + 2)).1
          (skipSpace s.toList)
        rw [hvalue] at hreads
        exact fun hlong => (hreads hlong).mono
          (skipSpace_suffix s.toList).isInfix
      | ok a =>
        rw [hvalue] at hc
        obtain ⟨v, r⟩ := a
        simp only [bind, Except.bind] at hc
        split at hc <;> cases hc
        intro hextra
        cases hextra
  unfold read at h
  split at h
  · cases h
  · next c hc =>
    cases h
    exact hdocument c hc hcause

end ClientGen.Json
