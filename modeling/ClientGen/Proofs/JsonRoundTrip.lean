import Mathlib.Data.Bool.AllAny
import Mathlib.Data.List.Forall2
import ClientGen.Json.Writer
import ClientGen.Proofs.StringLiteral

/-!
# Reading literals back

The reader of JSON undoes the writer on values that are made of nulls, booleans,
integers and texts by lists (`IsExact`). Floats are left out, which are rounded,
and so are mappings, whose members are put in order. An integer has as many
digits as the reader converts.

A text denotes a value if the reader takes it off the front of whatever may
follow a value (`Denotes`). Each kind of value has a lemma that says so of its
literal, and lists are put together from what their items denote
(`denotes_list`). Whatever the value is, its literal keeps to printable ASCII
without markup (`IsSafeText`) and escapes no half of a pair alone (`IsWhole`).
Together this is `exists_literal?_of_isExact`.
-/

namespace ClientGen.Json

/-- A value that its literal gives back: no rounding and no order of members gets
in between. -/
inductive IsExact : Value → Prop
  | null : IsExact .null
  | bool (b : Bool) : IsExact (.bool b)
  | int {n : Int} (h : (Nat.toDigits 10 n.natAbs).length ≤ maxIntegerDigits) :
      IsExact (.int n)
  | str (s : String) : IsExact (.str s)
  | list {items : List Value} (h : ∀ v ∈ items, IsExact v) : IsExact (.list items)

/-- A printable ASCII character that is neither markup nor a single quote. -/
def IsSafe (c : Char) : Prop :=
  0x20 ≤ c.toNat ∧ c.toNat ≤ 0x7E ∧ c ∉ ['<', '>', '&', '\'']

instance (c : Char) : Decidable (IsSafe c) :=
  inferInstanceAs (Decidable (_ ∧ _ ∧ _))

/-! ### Safe characters -/

/-- All characters of a text are safe. -/
def IsSafeText (t : List Char) : Prop := ∀ c ∈ t, IsSafe c

instance (t : List Char) : Decidable (IsSafeText t) :=
  List.decidableBAll IsSafe t

theorem IsSafeText.append {s t : List Char} (hs : IsSafeText s)
    (ht : IsSafeText t) : IsSafeText (s ++ t) :=
  List.forall_mem_append.2 ⟨hs, ht⟩

theorem isSafe_hexDigit {d : Nat} (h : d < 16) : IsSafe (Text.hexDigit d) := by
  have hall : ∀ d : Fin 16, IsSafe (Text.hexDigit d) := by decide
  exact hall ⟨d, h⟩

theorem isSafeText_unitEscape (n : Nat) : IsSafeText (unitEscape n) := by
  have hlt (m : Nat) : m % 16 < 16 := Nat.mod_lt m (by decide)
  simp only [IsSafeText, unitEscape, Text.hexDigits, List.nil_append,
    List.cons_append, List.forall_mem_cons]
  exact ⟨by decide, by decide, isSafe_hexDigit (hlt _), isSafe_hexDigit (hlt _),
    isSafe_hexDigit (hlt _), isSafe_hexDigit (hlt _), List.forall_mem_nil _⟩

theorem isSafeText_literalChar (c : Char) : IsSafeText (literalChar c) := by
  unfold literalChar
  refine iteInduction (fun _ => by decide) fun _ => ?_
  refine iteInduction (fun _ => by decide) fun _ => ?_
  refine iteInduction (fun _ => by decide) fun _ => ?_
  refine iteInduction (fun _ => by decide) fun _ => ?_
  refine iteInduction (fun _ => by decide) fun _ => ?_
  refine iteInduction (fun _ => by decide) fun _ => ?_
  refine iteInduction (fun _ => by decide) fun _ => ?_
  refine iteInduction (fun _ => isSafeText_unitEscape _) fun hmarkup => ?_
  refine iteInduction (fun hprintable => ?_) fun _ => ?_
  · rw [Bool.and_eq_true, decide_eq_true_eq, decide_eq_true_eq] at hprintable
    refine List.forall_mem_singleton.2 ⟨hprintable.1, hprintable.2, ?_⟩
    simpa [and_assoc] using hmarkup
  exact iteInduction (fun _ => isSafeText_unitEscape _) fun _ =>
    (isSafeText_unitEscape _).append (isSafeText_unitEscape _)

theorem isSafeText_stringLiteral (s : List Char) :
    IsSafeText (stringLiteral s) := by
  refine List.forall_mem_cons.2 ⟨by decide, IsSafeText.append ?_ (by decide)⟩
  intro d hd
  obtain ⟨c, -, hd⟩ := List.mem_flatMap.1 hd
  exact isSafeText_literalChar c d hd

/-! ### Characters of string literals -/

/-- The reader of a string takes characters for another one, unless the text ends
there. -/
def Yields (s : List Char) (c : Char) : Prop :=
  ∀ opening rest, rest ≠ [] →
    stringBody opening (s ++ rest) = consChar c (stringBody opening rest)

/-- The digits of a code unit. -/
theorem codeUnit?_hexDigits {n : Nat} (h : n < 0x10000) :
    codeUnit? (Text.hexDigit (n / 16 / 16 / 16 % 16))
      (Text.hexDigit (n / 16 / 16 % 16)) (Text.hexDigit (n / 16 % 16))
      (Text.hexDigit (n % 16)) = some n := by
  have hlt (m : Nat) : m % 16 < 16 := Nat.mod_lt m (by decide)
  have hvalue : ((n / 16 / 16 / 16 % 16 * 16 + n / 16 / 16 % 16) * 16 +
      n / 16 % 16) * 16 + n % 16 = n := by
    omega
  simp only [codeUnit?, TypeScript.Reader.hexValue?_hexDigit (hlt _),
    Option.bind_eq_bind, Option.bind_some, Option.pure_def, hvalue]

/-- An escape of one letter. -/
theorem yields_letter {d c : Char} (hu : d ≠ 'u') (h : escapeChar? d = some c) :
    Yields ['\\', d] c := by
  intro opening rest _
  rw [List.cons_append, List.singleton_append, stringBody]
  · rw [h]
  · simp [hu]
  · simp [hu]
  · simp [hu]

/-- One code unit that is no half of a pair. -/
theorem stringBody_unit {a b c d : Char} {n : Nat} (h : codeUnit? a b c d = some n)
    (hhalf : isHighHalf n = false) (opening : List Char) {rest : List Char}
    (hrest : rest ≠ []) :
    stringBody opening ('\\' :: 'u' :: a :: b :: c :: d :: rest) =
      consChar (unitChar n) (stringBody opening rest) := by
  by_cases hnext : ∃ e f g i more, rest = '\\' :: 'u' :: e :: f :: g :: i :: more
  · obtain ⟨e, f, g, i, more, rfl⟩ := hnext
    rw [stringBody, h]
    simp only [hhalf]
    rfl
  · rw [stringBody, h]
    · simp [hrest]
    · exact fun e f g i more hsame => hnext ⟨e, f, g, i, more, hsame⟩

/-- Two code units that are halves of a pair. -/
theorem stringBody_pair {a b c d e f g i : Char} {high low : Nat}
    (h : codeUnit? a b c d = some high) (hhigh : isHighHalf high = true)
    (h' : codeUnit? e f g i = some low) (hlow : isLowHalf low = true)
    (opening : List Char) {rest : List Char} (hrest : rest ≠ []) :
    stringBody opening ('\\' :: 'u' :: a :: b :: c :: d :: '\\' :: 'u' :: e :: f ::
      g :: i :: rest) =
      consChar (joinHalves high low) (stringBody opening rest) := by
  rw [stringBody, h]
  simp [hhigh, hrest, h', hlow]

/-- A character that stands for itself. -/
theorem stringBody_plain {c : Char} (hquote : c ≠ '"') (hback : c ≠ '\\')
    (hlow : 0x20 ≤ c.toNat) (opening rest : List Char) :
    stringBody opening (c :: rest) = consChar c (stringBody opening rest) := by
  rw [stringBody]
  · rw [if_neg (Nat.not_lt.2 hlow)]
  · exact hquote
  all_goals simp [hback]

/-- A code point is no half of a pair. -/
theorem not_half (c : Char) :
    isHighHalf c.toNat = false ∧ isLowHalf c.toNat = false := by
  have hvalid : c.toNat.isValidChar := c.valid
  simp only [Nat.isValidChar] at hvalid
  simp only [isHighHalf, isLowHalf, Bool.and_eq_false_iff,
    decide_eq_false_iff_not]
  omega

/-- A pair of surrogates has one half of each kind. -/
theorem halves_of_le {c : Char} (h : ¬ c.toNat < 0x10000) :
    isHighHalf (0xD800 + (c.toNat - 0x10000) / 0x400) = true ∧
      isLowHalf (0xDC00 + (c.toNat - 0x10000) % 0x400) = true := by
  have hvalid : c.toNat.isValidChar := c.valid
  simp only [Nat.isValidChar] at hvalid
  simp only [isHighHalf, isLowHalf, Bool.and_eq_true, decide_eq_true_eq]
  omega

/-- A character escaped as its only code unit. -/
theorem yields_unitEscape {c : Char} (h : c.toNat < 0x10000) :
    Yields (unitEscape c.toNat) c := by
  intro opening rest hrest
  have hchar : unitChar c.toNat = c := by
    simp [unitChar, not_half c]
  have hread := stringBody_unit (codeUnit?_hexDigits h) (not_half c).1 opening hrest
  rwa [hchar] at hread

/-- A character escaped as two code units. -/
theorem yields_surrogates {c : Char} (h : ¬ c.toNat < 0x10000) :
    Yields (unitEscape (0xD800 + (c.toNat - 0x10000) / 0x400) ++
      unitEscape (0xDC00 + (c.toNat - 0x10000) % 0x400)) c := by
  intro opening rest hrest
  obtain ⟨hhigh, hlow⟩ := halves_of_le h
  have hranges : 0xD800 + (c.toNat - 0x10000) / 0x400 < 0x10000 ∧
      0xDC00 + (c.toNat - 0x10000) % 0x400 < 0x10000 := by
    simp only [isHighHalf, isLowHalf, Bool.and_eq_true,
      decide_eq_true_eq] at hhigh hlow
    omega
  have hchar : joinHalves (0xD800 + (c.toNat - 0x10000) / 0x400)
      (0xDC00 + (c.toNat - 0x10000) % 0x400) = c := by
    have hsum : 0x10000 + (0xD800 + (c.toNat - 0x10000) / 0x400 - 0xD800) * 0x400 +
        (0xDC00 + (c.toNat - 0x10000) % 0x400 - 0xDC00) = c.toNat := by
      omega
    rw [joinHalves, hsum, Char.ofNat_toNat]
  have hread := stringBody_pair (codeUnit?_hexDigits hranges.1) hhigh
    (codeUnit?_hexDigits hranges.2) hlow opening hrest
  rwa [hchar] at hread

theorem Yields.ite {p : Prop} [Decidable p] {s t : List Char} {c : Char}
    (hs : p → Yields s c) (ht : ¬ p → Yields t c) :
    Yields (if p then s else t) c :=
  iteInduction (motive := (Yields · c)) hs ht

theorem yields_literalChar (c : Char) : Yields (literalChar c) c := by
  have hletter {d e : Char} (hu : d ≠ 'u') (hd : escapeChar? d = some e)
      (h : c = e) : Yields ['\\', d] c := by
    rw [h]
    exact yields_letter hu hd
  unfold literalChar
  refine .ite (fun h => hletter (by decide) rfl h) fun hquote => ?_
  refine .ite (fun h => hletter (by decide) rfl h) fun hback => ?_
  refine .ite (fun h => hletter (by decide) rfl h) fun _ => ?_
  refine .ite (fun h => hletter (by decide) rfl h) fun _ => ?_
  refine .ite (fun h => hletter (by decide) rfl h) fun _ => ?_
  refine .ite (fun h => hletter (by decide) rfl (Char.toNat_inj.1 h)) fun _ => ?_
  refine .ite (fun h => hletter (by decide) rfl (Char.toNat_inj.1 h)) fun _ => ?_
  refine .ite (fun hmarkup => yields_unitEscape ?_) fun _ => ?_
  · simp only [Bool.or_eq_true, decide_eq_true_eq] at hmarkup
    rcases hmarkup with ((h | h) | h) | h <;> rw [h] <;> decide
  refine .ite (fun hprintable => ?_) fun _ => ?_
  · simp only [Bool.and_eq_true, decide_eq_true_eq] at hprintable
    exact fun opening rest _ =>
      stringBody_plain hquote hback hprintable.1 opening rest
  exact .ite yields_unitEscape yields_surrogates

/-- The literal of a text is read to its closing quote. -/
theorem stringBody_flatMap_literalChar (opening s rest : List Char) :
    stringBody opening (s.flatMap literalChar ++ '"' :: rest) = .ok (s, rest) := by
  induction s with
  | nil => rw [List.flatMap_nil, List.nil_append, stringBody]
  | cons c s ih =>
    rw [List.flatMap_cons, List.append_assoc,
      yields_literalChar c opening _ (by simp), ih]
    rfl

/-! ### Whole escapes -/

/-- No escape of a text is half of a pair, and none reaches behind its end. -/
def IsWhole (t : List Char) : Prop :=
  ∀ rest, hasHalf 0 (t ++ rest) = hasHalf 0 rest

theorem IsWhole.append {s t : List Char} (hs : IsWhole s) (ht : IsWhole t) :
    IsWhole (s ++ t) := by
  intro rest
  rw [List.append_assoc, hs, ht]

theorem isWhole_nil : IsWhole [] := fun _ => rfl

/-- Text without a backslash has no escapes. -/
theorem isWhole_of_notMem {t : List Char} (h : '\\' ∉ t) : IsWhole t := by
  induction t with
  | nil => exact isWhole_nil
  | cons c t ih =>
    rw [List.mem_cons, not_or] at h
    intro rest
    rw [List.cons_append, hasHalf, if_neg (Ne.symm h.1)]
    exact ih h.2 rest

/-- What an escape reaches over is left out. -/
theorem hasHalf_drop (cs rest : List Char) :
    hasHalf cs.length (cs ++ rest) = hasHalf 0 rest := by
  induction cs with
  | nil => rfl
  | cons c cs ih => exact ih

/-- An escape is whole if it reaches over the rest of its text. -/
theorem isWhole_of_escapeLength? {cs : List Char}
    (h : ∀ rest, escapeLength? ('\\' :: (cs ++ rest)) = some cs.length) :
    IsWhole ('\\' :: cs) := by
  intro rest
  rw [List.cons_append, hasHalf, if_pos rfl, h]
  exact hasHalf_drop cs rest

theorem isWhole_letter {d : Char} (hu : d ≠ 'u') : IsWhole ['\\', d] := by
  refine isWhole_of_escapeLength? fun rest => ?_
  have hnone : escapedUnit? ('\\' :: ([d] ++ rest)) = none := by
    rw [List.singleton_append, escapedUnit?]
    simp [hu]
  rw [escapeLength?, hnone]
  rfl

/-- The code unit of an escape that is written out. -/
theorem escapedUnit?_unitEscape {n : Nat} (h : n < 0x10000) (rest : List Char) :
    escapedUnit? (unitEscape n ++ rest) = some n :=
  codeUnit?_hexDigits h

theorem isWhole_unitEscape {c : Char} (h : c.toNat < 0x10000) :
    IsWhole (unitEscape c.toNat) := by
  refine isWhole_of_escapeLength? fun rest => ?_
  show escapeLength? (unitEscape c.toNat ++ rest) = some 5
  rw [escapeLength?, escapedUnit?_unitEscape h rest]
  simp [not_half c]

theorem isWhole_surrogates {high low : Nat} (hhigh : isHighHalf high = true)
    (hlow : isLowHalf low = true) :
    IsWhole (unitEscape high ++ unitEscape low) := by
  have hranges : high < 0x10000 ∧ low < 0x10000 := by
    simp only [isHighHalf, isLowHalf, Bool.and_eq_true,
      decide_eq_true_eq] at hhigh hlow
    omega
  refine isWhole_of_escapeLength? fun rest => ?_
  have hunit := escapedUnit?_unitEscape hranges.1 (unitEscape low ++ rest)
  have hunit' := escapedUnit?_unitEscape hranges.2 rest
  have hdrop : (unitEscape high ++ (unitEscape low ++ rest)).drop 6 =
      unitEscape low ++ rest := rfl
  show escapeLength? (unitEscape high ++ unitEscape low ++ rest) = some 11
  rw [List.append_assoc, escapeLength?, hunit, hdrop, hunit']
  simp [hhigh, hlow]

theorem isWhole_literalChar (c : Char) : IsWhole (literalChar c) := by
  have hite {p : Prop} [Decidable p] {s t : List Char} (hs : p → IsWhole s)
      (ht : ¬ p → IsWhole t) : IsWhole (if p then s else t) :=
    iteInduction (motive := IsWhole) hs ht
  unfold literalChar
  refine hite (fun _ => isWhole_letter (by decide)) fun _ => ?_
  refine hite (fun _ => isWhole_letter (by decide)) fun hback => ?_
  refine hite (fun _ => isWhole_letter (by decide)) fun _ => ?_
  refine hite (fun _ => isWhole_letter (by decide)) fun _ => ?_
  refine hite (fun _ => isWhole_letter (by decide)) fun _ => ?_
  refine hite (fun _ => isWhole_letter (by decide)) fun _ => ?_
  refine hite (fun _ => isWhole_letter (by decide)) fun _ => ?_
  refine hite (fun hmarkup => isWhole_unitEscape ?_) fun _ => ?_
  · simp only [Bool.or_eq_true, decide_eq_true_eq] at hmarkup
    rcases hmarkup with ((h | h) | h) | h <;> rw [h] <;> decide
  refine hite (fun _ => isWhole_of_notMem ?_) fun _ => ?_
  · rw [List.mem_singleton]
    exact Ne.symm hback
  exact hite isWhole_unitEscape fun hlong =>
    isWhole_surrogates (halves_of_le hlong).1 (halves_of_le hlong).2

theorem isWhole_stringLiteral (s : List Char) : IsWhole (stringLiteral s) := by
  have hquote : IsWhole ['"'] := isWhole_of_notMem (by decide)
  have hchars : IsWhole (s.flatMap literalChar) := by
    induction s with
    | nil => exact isWhole_nil
    | cons c s ih => exact (isWhole_literalChar c).append ih
  exact hquote.append (hchars.append hquote)

/-! ### Numbers -/

/-- What may follow a value: nothing, or what comes after an item of a list. -/
def EndsValue (rest : List Char) : Prop :=
  rest = [] ∨ ∃ r, rest = ',' :: r ∨ rest = ']' :: r

/-- The digits of a positive number start with none that is zero. -/
theorem exists_toDigits_eq_cons {n : Nat} (h : 0 < n) :
    ∃ c cs, Nat.toDigits 10 n = c :: cs ∧ c ≠ '0' := by
  induction n using Nat.strongRecOn with
  | ind n ih =>
    by_cases hsmall : n < 10
    · refine ⟨_, [], Nat.toDigits_of_lt_base hsmall, fun hzero => ?_⟩
      have hpoint := Nat.toNat_digitChar_of_lt_ten hsmall
      rw [hzero] at hpoint
      exact absurd hpoint (Nat.ne_of_lt (Nat.lt_add_of_pos_right h))
    · obtain ⟨c, cs, hcs, hzero⟩ := ih (n / 10) (by omega) (by omega)
      refine ⟨c, cs ++ [(n % 10).digitChar], ?_, hzero⟩
      rw [Nat.toDigits_of_base_le (by decide) (Nat.not_lt.1 hsmall), hcs,
        List.cons_append]

theorem isDigit_of_mem_toDigits {n : Nat} {d : Char}
    (h : d ∈ Nat.toDigits 10 n) : d.isDigit = true :=
  Nat.isDigit_of_mem_toDigits (by decide) (by decide) h

theorem digitsValue_toDigits (n : Nat) : digitsValue (Nat.toDigits 10 n) = n := by
  have hsame : digitsValue (Nat.toDigits 10 n) =
      Nat.ofDigitChars 10 (Nat.toDigits 10 n) 0 := by
    simp only [digitsValue, Nat.ofDigitChars, Nat.mul_comm]
    rfl
  rw [hsame, Nat.ofDigitChars_toDigits (by decide) (by decide)]

variable {rest : List Char}

/-- The digits of a number are read up to where the value ends. -/
theorem wholeDigits?_toDigits (n : Nat) (hrest : EndsValue rest) :
    wholeDigits? (Nat.toDigits 10 n ++ rest) =
      some (Nat.toDigits 10 n, rest) := by
  have htake : rest.takeWhile Char.isDigit = [] ∧
      rest.dropWhile Char.isDigit = rest := by
    rcases hrest with rfl | ⟨r, rfl | rfl⟩ <;> exact ⟨rfl, rfl⟩
  rcases Nat.eq_zero_or_pos n with rfl | hpos
  · rw [Nat.toDigits_zero]
    rfl
  · obtain ⟨c, cs, hcs, hzero⟩ := exists_toDigits_eq_cons hpos
    have hdigits : ∀ d ∈ c :: cs, d.isDigit = true := fun d hd =>
      isDigit_of_mem_toDigits (hcs ▸ hd)
    have hfirst : c.isDigit = true := hdigits c List.mem_cons_self
    have hothers : ∀ d ∈ cs, d.isDigit = true := fun d hd =>
      hdigits d (List.mem_cons_of_mem c hd)
    rw [hcs, List.cons_append, wholeDigits?, if_pos hfirst,
      List.takeWhile_append_of_pos hothers, List.dropWhile_append_of_pos hothers,
      htake.1, htake.2, List.append_nil]
    exact hzero

/-- Digits where a value ends are an integer, with or without a sign. -/
theorem number_of_wholeDigits {t ds : List Char} (negative : Bool)
    (hplain : ∀ r, t ≠ '-' :: r) (hdigits : wholeDigits? t = some (ds, rest))
    (hshort : ds.length ≤ maxIntegerDigits) (hrest : EndsValue rest) :
    number (if negative then '-' :: t else t) =
      .ok (.int (if negative then -digitsValue ds else digitsValue ds), rest) := by
  have hfraction : fractionDigits rest = ([], rest) := by
    rcases hrest with rfl | ⟨r, rfl | rfl⟩ <;> rfl
  have hexponent : exponent? rest = none := by
    rcases hrest with rfl | ⟨r, rfl | rfl⟩ <;> rfl
  unfold number
  split
  next negative' t' hsign =>
  obtain ⟨rfl, rfl⟩ : negative' = negative ∧ t' = t := by
    cases negative with
    | true =>
      cases hsign
      exact ⟨rfl, rfl⟩
    | false =>
      rw [if_neg Bool.false_ne_true] at hsign
      split at hsign
      · next r => exact absurd rfl (hplain r)
      · cases hsign
        exact ⟨rfl, rfl⟩
  simp only [hdigits, hfraction, hexponent, List.isEmpty_nil, if_true,
    if_neg (Nat.not_lt.2 hshort)]

/-- The text of an integer: its digits, and a sign if it is negative. -/
theorem toList_toString (n : Int) :
    (toString n).toList = if n < 0 then '-' :: Nat.toDigits 10 n.natAbs
      else Nat.toDigits 10 n.natAbs := by
  rw [Int.toString_eq_repr]
  cases n with
  | ofNat m =>
    show m.repr.toList = _
    rw [Nat.toList_repr, if_neg (by simp)]
    rfl
  | negSucc m =>
    show ("-" ++ m.succ.repr).toList = _
    rw [String.toList_append, Nat.toList_repr, if_pos (Int.negSucc_lt_zero m)]
    rfl

/-- The text of an integer has digits and a sign. -/
theorem mem_toString {n : Int} {c : Char} (h : c ∈ (toString n).toList) :
    c = '-' ∨ c.isDigit = true := by
  rw [toList_toString] at h
  split at h
  · exact (List.mem_cons.1 h).imp id isDigit_of_mem_toDigits
  · exact Or.inr (isDigit_of_mem_toDigits h)

/-- The text of an integer starts with a digit or a sign. -/
theorem exists_toString_eq_cons (n : Int) :
    ∃ c cs, (toString n).toList = c :: cs ∧ (c = '-' ∨ c.isDigit = true) := by
  have hne : (toString n).toList ≠ [] := by
    rw [toList_toString]
    split
    · exact List.cons_ne_nil _ _
    · exact Nat.toDigits_ne_nil
  obtain ⟨c, cs, hcs⟩ := List.exists_cons_of_ne_nil hne
  exact ⟨c, cs, hcs, mem_toString (hcs ▸ List.mem_cons_self)⟩

/-- The code points of digits. -/
theorem toNat_of_isDigit {c : Char} (h : c.isDigit = true) :
    48 ≤ c.toNat ∧ c.toNat ≤ 57 := by
  rw [Char.isDigit, Bool.and_eq_true, decide_eq_true_eq, decide_eq_true_eq] at h
  exact ⟨UInt32.le_iff_toNat_le.1 h.1, UInt32.le_iff_toNat_le.1 h.2⟩

theorem isSafeText_toString (n : Int) : IsSafeText (toString n).toList := by
  intro c hc
  rcases mem_toString hc with rfl | hdigit
  · decide
  · have hrange := toNat_of_isDigit hdigit
    have hother : ∀ d ∈ ['<', '>', '&', '\''], ¬ (48 ≤ d.toNat ∧ d.toNat ≤ 57) :=
      List.all_iff_forall_prop.1 (by decide)
    exact ⟨by omega, by omega, fun hc => hother c hc hrange⟩

theorem number_toString {n : Int}
    (hshort : (Nat.toDigits 10 n.natAbs).length ≤ maxIntegerDigits)
    (hrest : EndsValue rest) :
    number ((toString n).toList ++ rest) = .ok (.int n, rest) := by
  have hplain : ∀ r, Nat.toDigits 10 n.natAbs ++ rest ≠ '-' :: r := by
    intro r hsame
    obtain ⟨c, cs, hcs⟩ := List.exists_cons_of_ne_nil
      (Nat.toDigits_ne_nil (n := n.natAbs) (b := 10))
    rw [hcs, List.cons_append] at hsame
    have hdigit : c.isDigit = true :=
      isDigit_of_mem_toDigits (hcs ▸ List.mem_cons_self)
    rw [(List.cons.inj hsame).1] at hdigit
    exact absurd hdigit (by decide)
  have hread (negative : Bool) := number_of_wholeDigits negative hplain
    (wholeDigits?_toDigits n.natAbs hrest) hshort hrest
  rw [digitsValue_toDigits] at hread
  rw [toList_toString]
  by_cases hneg : n < 0
  · have hvalue : -(n.natAbs : Int) = n := by omega
    have hsigned := hread true
    rw [if_pos rfl, if_pos rfl, hvalue] at hsigned
    rwa [if_pos hneg]
  · have hvalue : (n.natAbs : Int) = n := by omega
    have hunsigned := hread false
    rw [if_neg Bool.false_ne_true, if_neg Bool.false_ne_true, hvalue] at hunsigned
    rwa [if_neg hneg]

/-! ### Keywords -/

theorem prefix_of_after? {word s r : List Char} (h : after? word s = some r) :
    word <+: s := by
  induction word generalizing s with
  | nil => exact List.nil_prefix
  | cons k ks ih =>
    cases s with
    | nil => cases h
    | cons c s =>
      rw [after?] at h
      split at h
      · next hk =>
        rw [hk]
        exact List.cons_prefix_cons.2 ⟨rfl, ih h⟩
      · cases h

theorem isAlpha_eq_false_of_isDigit {c : Char} (h : c.isDigit = true) :
    c.isAlpha = false := by
  have hrange := toNat_of_isDigit h
  have hall : ∀ n < 58, 48 ≤ n → (Char.ofNat n).isAlpha = false := by decide
  have hdigit := hall c.toNat (Nat.lt_succ_of_le hrange.2) hrange.1
  rwa [Char.ofNat_toNat] at hdigit

/-- Every keyword has a letter among its first two characters. -/
theorem keyword?_eq_none {s : List Char}
    (h : ∀ c ∈ s.take 2, c.isAlpha = false) : keyword? s = none := by
  have hletter : ∀ e ∈ keywords, (e.1.toList.take 2).any Char.isAlpha = true := by
    decide
  refine List.findSome?_eq_none_iff.2 fun e he => ?_
  cases hafter : after? e.1.toList s with
  | none => simp [hafter]
  | some r =>
    obtain ⟨c, hc, halpha⟩ := List.any_eq_true.1 (hletter e he)
    have hmem : c ∈ s.take 2 := by
      obtain ⟨after, rfl⟩ := prefix_of_after? hafter
      rw [List.take_append]
      exact List.mem_append_left _ hc
    rw [h c hmem] at halpha
    cases halpha

/-- An integer is no keyword, whatever comes after it. -/
theorem keyword?_toString (n : Int) (hrest : EndsValue rest) :
    keyword? ((toString n).toList ++ rest) = none := by
  refine keyword?_eq_none fun d hd => ?_
  rw [List.take_append, List.mem_append] at hd
  rcases hd with hd | hd
  · rcases mem_toString (List.mem_of_mem_take hd) with rfl | hdigit
    · rfl
    · exact isAlpha_eq_false_of_isDigit hdigit
  · -- At most one character is left over for what follows.
    obtain ⟨c, cs, hcs, -⟩ := exists_toString_eq_cons n
    have hone : d ∈ rest.take 1 := by
      rw [hcs] at hd
      exact (List.take_prefix_take_left (by simp)).subset hd
    rcases hrest with rfl | ⟨r, rfl | rfl⟩
    · cases hone
    · rw [List.mem_singleton.1 hone]
      rfl
    · rw [List.mem_singleton.1 hone]
      rfl

/-! ### What a text denotes -/

/-- A text is read as a value wherever a value may stand. -/
structure Denotes (t : List Char) (v : Value) : Prop where
  /-- It starts like a value, and not like the end of a list. -/
  head : ∃ c cs, t = c :: cs ∧ isSpace c = false ∧ c ≠ ']'
  value : ∀ fuel rest, t.length ≤ fuel + 1 → EndsValue rest →
    value (fuel + 1) (t ++ rest) = .ok (v, rest)

theorem Denotes.length_pos {t : List Char} {v : Value} (h : Denotes t v) :
    0 < t.length := by
  obtain ⟨c, cs, rfl, -, -⟩ := h.head
  exact Nat.succ_pos _

/-- What starts like neither a text nor an object nor a list is a keyword or a
number. -/
theorem value_succ_of_plain {c : Char} (hquote : c ≠ '"') (hbrace : c ≠ '\x7b')
    (hbracket : c ≠ '[') (fuel : Nat) (s : List Char) :
    value (fuel + 1) (c :: s) =
      match keyword? (c :: s) with
      | some r => .ok r
      | none => number (c :: s) := by
  unfold value
  split
  · next hnil => cases hnil
  · next hcons => exact absurd (List.cons.inj hcons).1 hquote
  · next hcons => exact absurd (List.cons.inj hcons).1 hbrace
  · next hcons => exact absurd (List.cons.inj hcons).1 hbracket
  · rfl

/-- A keyword denotes its value. -/
theorem Denotes.of_keyword {c : Char} {cs : List Char} {v : Value}
    (hspace : isSpace c = false) (hend : c ∉ [']', '"', '\x7b', '['])
    (h : ∀ rest, keyword? (c :: cs ++ rest) = some (v, rest)) :
    Denotes (c :: cs) v where
  head := ⟨c, cs, rfl, hspace, fun hc => hend (by simp [hc])⟩
  value := by
    intro fuel rest _ _
    simp only [List.mem_cons, not_or] at hend
    rw [List.cons_append, value_succ_of_plain hend.2.1 hend.2.2.1 hend.2.2.2.1,
      ← List.cons_append, h]

theorem denotes_null : Denotes ['n', 'u', 'l', 'l'] .null :=
  .of_keyword rfl (by decide) fun _ => rfl

theorem denotes_true : Denotes ['t', 'r', 'u', 'e'] (.bool true) :=
  .of_keyword rfl (by decide) fun _ => rfl

theorem denotes_false : Denotes ['f', 'a', 'l', 's', 'e'] (.bool false) :=
  .of_keyword rfl (by decide) fun _ => rfl

theorem denotes_int {n : Int}
    (hshort : (Nat.toDigits 10 n.natAbs).length ≤ maxIntegerDigits) :
    Denotes (toString n).toList (.int n) := by
  obtain ⟨c, cs, hcs, hfirst⟩ := exists_toString_eq_cons n
  have hother : c ∉ [' ', '\t', '\n', '\r', ']', '"', '\x7b', '['] := by
    have hall : ∀ d ∈ [' ', '\t', '\n', '\r', ']', '"', '\x7b', '['],
        ¬ (d = '-' ∨ d.isDigit = true) :=
      List.all_iff_forall_prop.1 (by decide)
    exact fun hc => hall c hc hfirst
  simp only [List.mem_cons, List.not_mem_nil, or_false, not_or] at hother
  obtain ⟨hspace, htab, hfeed, hreturn, hend, hquote, hbrace, hbracket⟩ := hother
  refine ⟨⟨c, cs, hcs, by simp [isSpace, hspace, htab, hfeed, hreturn], hend⟩, ?_⟩
  intro fuel rest _ hrest
  have hkeyword := keyword?_toString n hrest
  rw [← number_toString hshort hrest]
  rw [hcs, List.cons_append] at hkeyword ⊢
  rw [value_succ_of_plain hquote hbrace hbracket, hkeyword]

theorem denotes_str (s : String) :
    Denotes (stringLiteral s.toList) (.str s) where
  head := ⟨_, _, rfl, rfl, by decide⟩
  value := by
    intro fuel rest _ _
    have happend : stringLiteral s.toList ++ rest =
        '"' :: (s.toList.flatMap literalChar ++ '"' :: rest) := by
      simp [stringLiteral]
    rw [happend, value, stringBody_flatMap_literalChar]
    simp [Except.map]

/-! ### Lists -/

theorem joined_cons_cons (t u : List Char) (ts : List (List Char)) :
    joined (t :: u :: ts) = t ++ ',' :: ' ' :: joined (u :: ts) := by
  simp [joined, List.intercalate]

theorem isSafeText_joined {ts : List (List Char)} (h : ∀ t ∈ ts, IsSafeText t) :
    IsSafeText (joined ts) := by
  induction ts with
  | nil => exact List.forall_mem_nil _
  | cons t ts ih =>
    obtain ⟨ht, hts⟩ := List.forall_mem_cons.1 h
    cases ts with
    | nil => simpa [joined, List.intercalate] using ht
    | cons u us =>
      rw [joined_cons_cons]
      have hcomma : IsSafeText [',', ' '] := by decide
      exact ht.append (hcomma.append (ih hts))

theorem isWhole_joined {ts : List (List Char)} (h : ∀ t ∈ ts, IsWhole t) :
    IsWhole (joined ts) := by
  induction ts with
  | nil => exact isWhole_nil
  | cons t ts ih =>
    obtain ⟨ht, hts⟩ := List.forall_mem_cons.1 h
    cases ts with
    | nil => simpa [joined, List.intercalate] using ht
    | cons u us =>
      rw [joined_cons_cons]
      have hcomma : IsWhole [',', ' '] := isWhole_of_notMem (by decide)
      exact ht.append (hcomma.append (ih hts))

/-- Joined items start like the first one. -/
theorem exists_joined_eq_cons {t : List Char} {v : Value} (h : Denotes t v)
    (ts : List (List Char)) :
    ∃ c cs, joined (t :: ts) = c :: cs ∧ isSpace c = false ∧ c ≠ ']' := by
  obtain ⟨c, cs, rfl, hc⟩ := h.head
  cases ts with
  | nil => exact ⟨c, cs, by simp [joined, List.intercalate], hc⟩
  | cons u us => exact ⟨c, _, joined_cons_cons (c :: cs) u us, hc⟩

theorem skipSpace_joined {t : List Char} {v : Value} (h : Denotes t v)
    (ts : List (List Char)) (rest : List Char) :
    skipSpace (joined (t :: ts) ++ rest) = joined (t :: ts) ++ rest := by
  obtain ⟨c, cs, hcs, hspace, -⟩ := exists_joined_eq_cons h ts
  simp [hcs, skipSpace, hspace]

/-- The items of a list are read up to its closing bracket. -/
theorem items_joined {ts : List (List Char)} {vs : List Value}
    (h : List.Forall₂ Denotes ts vs) (hne : ts ≠ []) {fuel : Nat}
    (hfuel : (joined ts).length ≤ fuel) (rest : List Char) :
    items (fuel + 1) (joined ts ++ ']' :: rest) = .ok (vs, rest) := by
  induction h generalizing fuel with
  | nil => exact absurd rfl hne
  | @cons t v ts vs ht hts ih =>
    have hpos := ht.length_pos
    cases hts with
    | nil =>
      have hjoined : joined [t] = t := by simp [joined, List.intercalate]
      rw [hjoined] at hfuel ⊢
      obtain ⟨fuel, rfl⟩ : ∃ m, fuel = m + 1 := ⟨fuel - 1, by omega⟩
      rw [items, ht.value fuel _ hfuel (.inr ⟨rest, .inr rfl⟩)]
      rfl
    | @cons u w us ws hu hus =>
      rw [joined_cons_cons] at hfuel ⊢
      rw [List.length_append, List.length_cons, List.length_cons] at hfuel
      obtain ⟨fuel, rfl⟩ : ∃ m, fuel = m + 1 := ⟨fuel - 1, by omega⟩
      have hrest : items (fuel + 1) (joined (u :: us) ++ ']' :: rest) =
          .ok (w :: ws, rest) := ih (List.cons_ne_nil u us) (by omega)
      have hspace : skipSpace (' ' :: (joined (u :: us) ++ ']' :: rest)) =
          joined (u :: us) ++ ']' :: rest :=
        skipSpace_joined hu us _
      have hcomma (r : List Char) : skipSpace (',' :: r) = ',' :: r := rfl
      rw [List.append_assoc, List.cons_append, List.cons_append, items,
        ht.value fuel _ (by omega) (.inr ⟨_, .inl rfl⟩)]
      simp only [bind, Except.bind, hcomma, hspace, hrest]
      rfl

/-- A list denotes the list of what its items denote. -/
theorem denotes_list {ts : List (List Char)} {vs : List Value}
    (h : List.Forall₂ Denotes ts vs) :
    Denotes ('[' :: (joined ts ++ [']'])) (.list vs) where
  head := ⟨_, _, rfl, rfl, by decide⟩
  value := by
    intro fuel rest hfuel _
    rw [List.length_cons, List.length_append, List.length_singleton] at hfuel
    obtain ⟨fuel, rfl⟩ : ∃ m, fuel = m + 1 := ⟨fuel - 1, by omega⟩
    cases h with
    | nil =>
      rw [List.cons_append, value]
      rfl
    | @cons t v ts vs ht hts =>
      have hitems := items_joined (.cons ht hts) (List.cons_ne_nil t ts)
        (Nat.le_of_add_le_add_right (Nat.le_of_add_le_add_right hfuel)) rest
      have hskip := skipSpace_joined ht ts (']' :: rest)
      have hopen : '[' :: (joined (t :: ts) ++ [']']) ++ rest =
          '[' :: (joined (t :: ts) ++ ']' :: rest) := by
        simp
      obtain ⟨c, cs, hcs, -, hc⟩ := exists_joined_eq_cons ht ts
      rw [hopen, value, hskip]
      split
      · next r hr =>
        rw [hcs, List.cons_append] at hr
        exact absurd (List.cons.inj hr).1 hc
      · rw [hitems]
        rfl

/-! ### Whole values -/

/-- Values that each have a literal have one together. -/
theorem exists_literals? {vs : List Value} (h : ∀ v ∈ vs, ∃ t, literal? v = some t ∧
    Denotes t v ∧ IsSafeText t ∧ IsWhole t) :
    ∃ ts, literals? vs = some ts ∧ List.Forall₂ Denotes ts vs ∧
      (∀ t ∈ ts, IsSafeText t) ∧ ∀ t ∈ ts, IsWhole t := by
  induction vs with
  | nil => exact ⟨[], rfl, .nil, List.forall_mem_nil _, List.forall_mem_nil _⟩
  | cons v vs ih =>
    obtain ⟨⟨t, ht, hdenotes, hsafe, hwhole⟩, hrest⟩ := List.forall_mem_cons.1 h
    obtain ⟨ts, hts, hall, hsafes, hwholes⟩ := ih hrest
    exact ⟨t :: ts, by simp [literals?, ht, hts], .cons hdenotes hall,
      List.forall_mem_cons.2 ⟨hsafe, hsafes⟩,
      List.forall_mem_cons.2 ⟨hwhole, hwholes⟩⟩

/-- **Reading back.** A value that is exact has a literal, which denotes it, is
safe and escapes no half of a pair. -/
theorem exists_literal?_of_isExact {v : Value} (h : IsExact v) :
    ∃ t, literal? v = some t ∧ Denotes t v ∧ IsSafeText t ∧ IsWhole t := by
  induction h with
  | null =>
    exact ⟨_, rfl, denotes_null, by decide, isWhole_of_notMem (by decide)⟩
  | bool b =>
    cases b with
    | true =>
      exact ⟨_, rfl, denotes_true, by decide, isWhole_of_notMem (by decide)⟩
    | false =>
      exact ⟨_, rfl, denotes_false, by decide, isWhole_of_notMem (by decide)⟩
  | int h =>
    refine ⟨_, rfl, denotes_int h, isSafeText_toString _, isWhole_of_notMem ?_⟩
    intro hback
    rcases mem_toString hback with hminus | hdigit
    · exact absurd hminus (by decide)
    · exact absurd hdigit (by decide)
  | str s =>
    exact ⟨_, rfl, denotes_str s, isSafeText_stringLiteral _,
      isWhole_stringLiteral _⟩
  | list _ ih =>
    obtain ⟨ts, hts, hdenotes, hsafe, hwhole⟩ := exists_literals? ih
    have hbracket : IsSafeText ['['] ∧ IsSafeText [']'] := by decide
    have hopen : IsWhole ['['] := isWhole_of_notMem (by decide)
    have hclose : IsWhole [']'] := isWhole_of_notMem (by decide)
    exact ⟨_, by simp [literal?, hts], denotes_list hdenotes,
      hbracket.1.append ((isSafeText_joined hsafe).append hbracket.2),
      hopen.append ((isWhole_joined hwhole).append hclose)⟩

/-- A safe text that denotes a value is a document with that value. -/
theorem read_of_denotes {t : List Char} {v : Value} (h : Denotes t v)
    (hsafe : IsSafeText t) : read (String.ofList t) = .ok v := by
  obtain ⟨c, cs, rfl, hspace, -⟩ := h.head
  have hmark : ¬ (c :: cs).head? = some (Char.ofNat 0xFEFF) := by
    intro hc
    have hfirst : IsSafe c := hsafe c List.mem_cons_self
    rw [Option.some.inj hc] at hfirst
    exact absurd hfirst (by decide)
  have hskip : skipSpace (c :: cs) = c :: cs := by
    simp [skipSpace, hspace]
  have hvalue := h.value (2 * (c :: cs).length + 1) [] (by omega) (.inl rfl)
  rw [List.append_nil] at hvalue
  have hdocument : document (c :: cs) = .ok v := by
    rw [document, if_neg hmark, hskip, hvalue]
    rfl
  rw [read, String.toList_ofList, hdocument]

end ClientGen.Json
