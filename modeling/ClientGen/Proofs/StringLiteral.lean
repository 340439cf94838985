import Mathlib.Data.List.Basic
import ClientGen.Json.Reader
import ClientGen.Json.Writer

/-!
# String literals

A reader of string literals as TypeScript has them, character by character: it
says which UTF-16 code units a literal denotes and what follows it. A text that
stands between quotes as it is reads back if it is plain, and only then
(`readFrom_text_iff`): a quote in it ends the literal early, a line end leaves
it without an end, and an escape denotes fewer code units than it has
characters, which nothing after it makes up for (`length_lt_of_readFrom`).

The literal of a text in JSON, in which such characters are escaped, reads back
whatever the text is (`read?_stringLiteral`).
-/

namespace ClientGen.TypeScript

/-! ### Code units -/

/-- The code units of a code point, two of them beyond the first plane. -/
def unitsOf (n : Nat) : List Nat :=
  if n < 0x10000 then [n]
  else [0xD800 + (n - 0x10000) / 0x400, 0xDC00 + (n - 0x10000) % 0x400]

theorem length_unitsOf_pos (n : Nat) : 0 < (unitsOf n).length := by
  unfold unitsOf
  split <;> simp

theorem length_unitsOf_le_two (n : Nat) : (unitsOf n).length ≤ 2 := by
  unfold unitsOf
  split <;> simp

theorem unitsOf_of_lt {n : Nat} (h : n < 0x10000) : unitsOf n = [n] := by
  simp [unitsOf, h]

/-- The code units of a text. -/
def units (s : List Char) : List Nat := s.flatMap fun c => unitsOf c.toNat

@[simp] theorem units_nil : units [] = [] := rfl

@[simp] theorem units_cons (c : Char) (s : List Char) :
    units (c :: s) = unitsOf c.toNat ++ units s := rfl

theorem units_append (s t : List Char) : units (s ++ t) = units s ++ units t := by
  simp [units]

/-! ### The reader -/

/-- Where a reader is in a literal. -/
inductive State where
  /-- Between two characters or escapes. -/
  | text
  /-- After a backslash. -/
  | escape
  /-- After an escaped carriage return, which takes a line feed along. -/
  | afterReturn
  /-- After an escaped zero, which no digit may follow. -/
  | afterZero
  /-- After the letter of an escape by code point. -/
  | unicode
  /-- Before one hexadecimal digit and `left` more. -/
  | hex (left value : Nat)
  /-- Between the braces of an escape, with the digits so far. -/
  | point (value : Option Nat)
  deriving DecidableEq, Repr

/-- What a character does: it ends the literal, or adds code units to it. -/
inductive Step where
  | close
  | go (units : List Nat) (next : State)
  deriving DecidableEq, Repr

/-- The separators of lines and of paragraphs. -/
def isSeparator (c : Char) : Bool := c.toNat = 0x2028 || c.toNat = 0x2029

/-- How a literal is read. -/
structure Reader where
  /-- The quote that it stands between. -/
  quote : Char
  /-- Whether separators end a line, as they did before they were allowed in
  literals. -/
  strict : Bool
  isQuote : quote = '\'' ∨ quote = '"'

/-- The code unit of a one-letter escape. -/
def letterUnit? (c : Char) : Option Nat :=
  if c = 'b' then some 8
  else if c = 't' then some 9
  else if c = 'n' then some 10
  else if c = 'v' then some 11
  else if c = 'f' then some 12
  else if c = 'r' then some 13
  else none

/-- The character after a backslash. An escaped line end denotes nothing. -/
def stepEscape (c : Char) : Option Step :=
  if c = '\n' || isSeparator c then some (.go [] .text)
  else if c = '\r' then some (.go [] .afterReturn)
  else if c = 'x' then some (.go [] (.hex 1 0))
  else if c = 'u' then some (.go [] .unicode)
  else if c = '0' then some (.go [0] .afterZero)
  else if c.isDigit then none
  else
    match letterUnit? c with
    | some n => some (.go [n] .text)
    | none => some (.go (unitsOf c.toNat) .text)

/-- One hexadecimal digit, with `left` more to come. -/
def stepHex (left value : Nat) (c : Char) : Option Step :=
  match Json.hexValue? c with
  | none => none
  | some d =>
    match left with
    | 0 => some (.go [value * 16 + d] .text)
    | left + 1 => some (.go [] (.hex left (value * 16 + d)))

/-- A character between the braces of an escape. -/
def stepPoint (value : Option Nat) (c : Char) : Option Step :=
  if c = '\x7d' then value.map fun n => .go (unitsOf n) .text
  else
    match Json.hexValue? c with
    | none => none
    | some d =>
      if value.getD 0 * 16 + d < 0x110000 then
        some (.go [] (.point (some (value.getD 0 * 16 + d))))
      else none

namespace Reader

/-- The reader of literals between single quotes. -/
def single (strict : Bool) : Reader := ⟨'\'', strict, Or.inl rfl⟩

/-- The reader of literals between double quotes. -/
def double (strict : Bool) : Reader := ⟨'"', strict, Or.inr rfl⟩

/-- Whether a character ends a line. -/
def endsLine (r : Reader) (c : Char) : Bool :=
  c = '\n' || c = '\r' || (r.strict && isSeparator c)

/-- A character that is no part of an escape. -/
def stepText (r : Reader) (c : Char) : Option Step :=
  if c = r.quote then some .close
  else if c = '\\' then some (.go [] .escape)
  else if r.endsLine c then none
  else some (.go (unitsOf c.toNat) .text)

/-- One character, if a literal may have it there. -/
def step (r : Reader) (σ : State) (c : Char) : Option Step :=
  match σ with
  | .text => r.stepText c
  | .escape => stepEscape c
  | .afterReturn => if c = '\n' then some (.go [] .text) else r.stepText c
  | .afterZero => if c.isDigit then none else r.stepText c
  | .unicode =>
    if c = '\x7b' then some (.go [] (.point none)) else stepHex 3 0 c
  | .hex left value => stepHex left value c
  | .point value => stepPoint value c

/-- The code units of the rest of a literal, and what follows it. -/
def readFrom (r : Reader) : State → List Char → Option (List Nat × List Char)
  | _, [] => none
  | σ, c :: rest =>
    match r.step σ c with
    | none => none
    | some .close => some ([], rest)
    | some (.go us next) =>
      (r.readFrom next rest).map fun p => (us ++ p.1, p.2)

/-- The code units of the literal that a text starts with, and what follows
it. -/
def read? (r : Reader) : List Char → Option (List Nat × List Char)
  | [] => none
  | c :: rest => if c = r.quote then r.readFrom .text rest else none

/-- A literal with escapes denotes what they stand for. -/
example : (single true).read? "'it\\'s\\u\x7b41\x7d\\x42'.".toList =
    some (units "it'sAB".toList, ['.']) := by
  decide

/-- A text without quotes, backslashes and line ends. -/
def IsPlain (r : Reader) (s : List Char) : Prop :=
  ∀ c ∈ s, c ≠ r.quote ∧ c ≠ '\\' ∧ r.endsLine c = false

instance (r : Reader) (s : List Char) : Decidable (r.IsPlain s) :=
  List.decidableBAll _ s

variable {r : Reader}

theorem isPlain_cons {c : Char} {s : List Char} :
    r.IsPlain (c :: s) ↔
      (c ≠ r.quote ∧ c ≠ '\\' ∧ r.endsLine c = false) ∧ r.IsPlain s :=
  List.forall_mem_cons

/-! ### Lengths -/

/-- How many code units a reader may still add on account of the characters
before: a code point between braces may have two. -/
def credit : State → Nat
  | .point _ => 1
  | _ => 0

private theorem length_le_of_stepText {c : Char} {us : List Nat} {next : State}
    (h : r.stepText c = some (.go us next)) :
    us.length + credit next ≤ (unitsOf c.toNat).length := by
  unfold stepText at h
  split_ifs at h with hquote hescape hline
  · cases h
  · cases h
    exact Nat.zero_le _
  · cases h
    exact Nat.le_refl _

private theorem length_le_of_stepEscape {c : Char} {us : List Nat} {next : State}
    (h : stepEscape c = some (.go us next)) :
    us.length + credit next ≤ (unitsOf c.toNat).length := by
  have hpos := length_unitsOf_pos c.toNat
  unfold stepEscape at h
  split_ifs at h with hline hreturn hhex hunicode hzero hdigit
  all_goals try split at h
  all_goals
    cases h
    simp only [List.length_nil, List.length_singleton, credit]
    omega

private theorem length_le_of_stepHex {left value : Nat} {c : Char}
    {us : List Nat} {next : State}
    (h : stepHex left value c = some (.go us next)) :
    us.length + credit next ≤ (unitsOf c.toNat).length := by
  have hpos := length_unitsOf_pos c.toNat
  unfold stepHex at h
  cases hdigit : Json.hexValue? c with
  | none => simp [hdigit] at h
  | some d =>
    rw [hdigit] at h
    cases left <;> cases h <;>
      simp only [List.length_nil, List.length_singleton, credit] <;> omega

private theorem length_le_of_stepPoint {value : Option Nat} {c : Char}
    {us : List Nat} {next : State}
    (h : stepPoint value c = some (.go us next)) :
    us.length + credit next ≤ (unitsOf c.toNat).length + 1 := by
  have hpos := length_unitsOf_pos c.toNat
  unfold stepPoint at h
  split at h
  · cases value with
    | none => cases h
    | some n =>
      cases h
      have htwo := length_unitsOf_le_two n
      show (unitsOf n).length + 0 ≤ _
      omega
  · cases hdigit : Json.hexValue? c with
    | none => simp [hdigit] at h
    | some d =>
      simp only [hdigit] at h
      split at h
      · cases h
        exact Nat.le_add_left 1 _
      · cases h

/-- A character adds no more code units than it has itself, but for those that
are outstanding. -/
theorem length_le_of_step {σ next : State} {c : Char} {us : List Nat}
    (h : r.step σ c = some (.go us next)) :
    us.length + credit next ≤ (unitsOf c.toNat).length + credit σ := by
  have hpos := length_unitsOf_pos c.toNat
  cases σ with
  | text => exact length_le_of_stepText h
  | escape => exact length_le_of_stepEscape h
  | hex left value => exact length_le_of_stepHex h
  | point value => exact length_le_of_stepPoint h
  | afterReturn =>
    simp only [step] at h
    split at h
    · cases h
      exact Nat.zero_le _
    · exact length_le_of_stepText h
  | afterZero =>
    simp only [step] at h
    split at h
    · cases h
    · exact length_le_of_stepText h
  | unicode =>
    simp only [step] at h
    split at h
    · cases h
      exact hpos
    · exact length_le_of_stepHex h

/-- What is read has fewer code units than the characters that it is read from,
the closing quote among them. -/
theorem length_lt_of_readFrom {σ : State} {cs after : List Char} {us : List Nat}
    (h : r.readFrom σ cs = some (us, after)) :
    ∃ used, cs = used ++ after ∧
      us.length < (units used).length + credit σ := by
  induction cs generalizing σ us with
  | nil => cases h
  | cons c cs ih =>
    rw [readFrom] at h
    cases hstep : r.step σ c with
    | none => simp [hstep] at h
    | some s =>
      rw [hstep] at h
      cases s with
      | close =>
        cases h
        have hpos := length_unitsOf_pos c.toNat
        refine ⟨[c], rfl, ?_⟩
        simp only [units_cons, units_nil, List.append_nil, List.length_nil]
        omega
      | go vs next =>
        obtain ⟨⟨ws, rest⟩, hrest, hsame⟩ := Option.map_eq_some_iff.1 h
        obtain ⟨rfl, rfl⟩ := Prod.mk.inj hsame
        obtain ⟨used, rfl, hlength⟩ := ih hrest
        have hle := length_le_of_step hstep
        refine ⟨c :: used, rfl, ?_⟩
        simp only [units_cons, List.length_append]
        omega

/-! ### Texts between quotes -/

theorem unitsOf_quote (r : Reader) : unitsOf r.quote.toNat = [r.quote.toNat] := by
  rcases r.isQuote with h | h <;> rw [h] <;> rfl

theorem backslash_ne_quote (r : Reader) : '\\' ≠ r.quote := by
  rcases r.isQuote with h | h <;> rw [h] <;> decide

theorem readFrom_text_quote (rest : List Char) :
    r.readFrom .text (r.quote :: rest) = some ([], rest) := by
  simp [readFrom, step, stepText]

theorem readFrom_text_backslash (rest : List Char) :
    r.readFrom .text ('\\' :: rest) = r.readFrom .escape rest := by
  simp [readFrom, step, stepText, r.backslash_ne_quote]

theorem readFrom_text_lineEnd {c : Char} (hquote : c ≠ r.quote)
    (hescape : c ≠ '\\') (hline : r.endsLine c = true) (rest : List Char) :
    r.readFrom .text (c :: rest) = none := by
  simp [readFrom, step, stepText, hquote, hescape, hline]

theorem readFrom_text_plain {c : Char} (hquote : c ≠ r.quote)
    (hescape : c ≠ '\\') (hline : r.endsLine c = false) (rest : List Char) :
    r.readFrom .text (c :: rest) =
      (r.readFrom .text rest).map fun p => (unitsOf c.toNat ++ p.1, p.2) := by
  simp [readFrom, step, stepText, hquote, hescape, hline]

/-- A backslash is never read back: the escape and all that follows it have
fewer code units than the text. -/
theorem readFrom_escape_ne (s rest : List Char) :
    r.readFrom .escape (s ++ r.quote :: rest) ≠
      some (units ('\\' :: s), rest) := by
  intro h
  obtain ⟨used, hused, hlength⟩ := length_lt_of_readFrom h
  have hsplit : s ++ [r.quote] = used := by
    have hrest : s ++ [r.quote] ++ rest = used ++ rest := by
      simpa using hused
    exact List.append_cancel_right hrest
  have hone : (units ('\\' :: s)).length = (units s).length + 1 := by
    rw [units_cons, List.length_append, Nat.add_comm]
    rfl
  have hsame : (units used).length = (units s).length + 1 := by
    rw [← hsplit, units_append, List.length_append, units_cons, r.unitsOf_quote]
    rfl
  rw [hone, hsame] at hlength
  exact absurd hlength (Nat.lt_irrefl _)

/-- A text in front of a closing quote reads back exactly if it is plain. -/
theorem readFrom_text_iff {s rest : List Char} :
    r.readFrom .text (s ++ r.quote :: rest) = some (units s, rest) ↔
      r.IsPlain s := by
  induction s with
  | nil => simp [readFrom_text_quote, IsPlain]
  | cons c s ih =>
    rw [isPlain_cons, List.cons_append]
    by_cases hquote : c = r.quote
    · rw [hquote, readFrom_text_quote, units_cons, r.unitsOf_quote]
      simp
    · by_cases hescape : c = '\\'
      · rw [hescape, readFrom_text_backslash]
        exact iff_of_false (readFrom_escape_ne s rest) fun h => h.1.2.1 rfl
      · by_cases hline : r.endsLine c = true
        · rw [readFrom_text_lineEnd hquote hescape hline]
          simp [hline]
        · have hline := Bool.eq_false_iff.2 hline
          rw [readFrom_text_plain hquote hescape hline, ← ih]
          simp [hquote, hescape, hline]

/-- The same for a literal, from its opening quote on. -/
theorem read?_iff {s rest : List Char} :
    r.read? (r.quote :: (s ++ r.quote :: rest)) = some (units s, rest) ↔
      r.IsPlain s := by
  rw [read?, if_pos rfl, readFrom_text_iff]

/-! ### Escaped texts -/

theorem hexValue?_hexDigit {d : Nat} (h : d < 16) :
    Json.hexValue? (Text.hexDigit d) = some d := by
  have hall : ∀ d : Fin 16, Json.hexValue? (Text.hexDigit d) = some d.val := by
    decide
  exact hall ⟨d, h⟩

theorem hexDigit_ne_brace {d : Nat} (h : d < 16) : Text.hexDigit d ≠ '\x7b' := by
  have hall : ∀ d : Fin 16, Text.hexDigit d ≠ '\x7b' := by
    decide
  exact hall ⟨d, h⟩

/-- What is read from a text has the code units of a beginning in front. -/
def ReadsAs (r : Reader) (s : List Char) (us : List Nat) : Prop :=
  ∀ rest, r.readFrom .text (s ++ rest) =
    (r.readFrom .text rest).map fun p => (us ++ p.1, p.2)

theorem ReadsAs.append {s t : List Char} {us vs : List Nat}
    (hs : r.ReadsAs s us) (ht : r.ReadsAs t vs) :
    r.ReadsAs (s ++ t) (us ++ vs) := by
  intro rest
  rw [List.append_assoc, hs, ht, Option.map_map]
  congr 1
  funext p
  simp

/-- A digit with others to come. -/
theorem readFrom_hex_succ (r : Reader) {d : Nat} (h : d < 16)
    (left value : Nat) (rest : List Char) :
    r.readFrom (.hex (left + 1) value) (Text.hexDigit d :: rest) =
      r.readFrom (.hex left (value * 16 + d)) rest := by
  simp [readFrom, step, stepHex, hexValue?_hexDigit h]

/-- The last digit. -/
theorem readFrom_hex_zero (r : Reader) {d : Nat} (h : d < 16) (value : Nat)
    (rest : List Char) :
    r.readFrom (.hex 0 value) (Text.hexDigit d :: rest) =
      (r.readFrom .text rest).map fun p => ([value * 16 + d] ++ p.1, p.2) := by
  simp [readFrom, step, stepHex, hexValue?_hexDigit h]

/-- The escape of a code unit. -/
theorem readsAs_unitEscape (r : Reader) {n : Nat} (h : n < 0x10000) :
    r.ReadsAs (Json.unitEscape n) [n] := by
  intro rest
  have hlt (m : Nat) : m % 16 < 16 := Nat.mod_lt m (by decide)
  have hvalue : (((n / 16 / 16 / 16 % 16) * 16 + n / 16 / 16 % 16) * 16 +
      n / 16 % 16) * 16 + n % 16 = n := by
    omega
  have hletter (cs : List Char) :
      r.readFrom .escape ('u' :: cs) = r.readFrom .unicode cs := by
    simp [readFrom, step, stepEscape, isSeparator]
  have hfirst (m : Nat) (cs : List Char) :
      r.readFrom .unicode (Text.hexDigit (m % 16) :: cs) =
        r.readFrom (.hex 2 (m % 16)) cs := by
    simp [readFrom, step, stepHex, hexValue?_hexDigit (hlt m),
      hexDigit_ne_brace (hlt m)]
  simp only [Json.unitEscape, Text.hexDigits, List.nil_append, List.cons_append]
  rw [readFrom_text_backslash, hletter, hfirst, readFrom_hex_succ r (hlt _),
    readFrom_hex_succ r (hlt _), readFrom_hex_zero r (hlt _), hvalue]
  rfl

/-- An escape of one letter. -/
theorem readsAs_letter (r : Reader) {d : Char} {n : Nat}
    (h : stepEscape d = some (.go [n] .text)) : r.ReadsAs ['\\', d] [n] := by
  intro rest
  show r.readFrom .text ('\\' :: d :: rest) = _
  rw [readFrom_text_backslash, readFrom]
  simp [step, h]

theorem ReadsAs.ite {p : Prop} [Decidable p] {s t : List Char} {us : List Nat}
    (hs : p → r.ReadsAs s us) (ht : ¬ p → r.ReadsAs t us) :
    r.ReadsAs (if p then s else t) us := by
  by_cases h : p
  · rw [if_pos h]
    exact hs h
  · rw [if_neg h]
    exact ht h

/-- A character escaped as its only code unit. -/
theorem readsAs_unitEscape_toNat (r : Reader) {c : Char}
    (h : c.toNat < 0x10000) :
    r.ReadsAs (Json.unitEscape c.toNat) (unitsOf c.toNat) := by
  rw [unitsOf_of_lt h]
  exact readsAs_unitEscape r h

/-- A character escaped as two code units. -/
theorem readsAs_surrogates (r : Reader) {c : Char} (h : ¬ c.toNat < 0x10000) :
    r.ReadsAs
      (Json.unitEscape (0xD800 + (c.toNat - 0x10000) / 0x400) ++
        Json.unitEscape (0xDC00 + (c.toNat - 0x10000) % 0x400))
      (unitsOf c.toNat) := by
  have hpoint : c.toNat < 0x110000 := by
    have hvalid := c.valid
    simp only [UInt32.isValidChar, Nat.isValidChar] at hvalid
    show c.val.toNat < _
    omega
  rw [unitsOf, if_neg h]
  exact (readsAs_unitEscape r (by omega)).append (readsAs_unitEscape r (by omega))

/-- The characters that a literal has as they are. -/
theorem readsAs_printable {strict : Bool} {c : Char} (hquote : c ≠ '"')
    (hback : c ≠ '\\') (hlow : 0x20 ≤ c.toNat) (hhigh : c.toNat ≤ 0x7E) :
    (double strict).ReadsAs [c] (unitsOf c.toNat) := by
  have hfeed : c ≠ '\n' := by
    rintro rfl
    exact absurd hlow (by decide)
  have hreturn : c ≠ '\r' := by
    rintro rfl
    exact absurd hlow (by decide)
  have hline : c.toNat ≠ 0x2028 := by omega
  have hparagraph : c.toNat ≠ 0x2029 := by omega
  exact readFrom_text_plain hquote hback
    (by simp [endsLine, isSeparator, hfeed, hreturn, hline, hparagraph])

theorem readsAs_literalChar (strict : Bool) (c : Char) :
    (double strict).ReadsAs (Json.literalChar c) (unitsOf c.toNat) := by
  have hletter {d e : Char} {n : Nat} (hd : stepEscape d = some (.go [n] .text))
      (he : unitsOf e.toNat = [n]) (h : c.toNat = e.toNat) :
      (double strict).ReadsAs ['\\', d] (unitsOf c.toNat) := by
    rw [h, he]
    exact readsAs_letter _ hd
  unfold Json.literalChar
  refine .ite (fun h => hletter rfl rfl (congrArg Char.toNat h)) fun hquote => ?_
  refine .ite (fun h => hletter rfl rfl (congrArg Char.toNat h)) fun hback => ?_
  refine .ite (fun h => hletter rfl rfl (congrArg Char.toNat h)) fun _ => ?_
  refine .ite (fun h => hletter rfl rfl (congrArg Char.toNat h)) fun _ => ?_
  refine .ite (fun h => hletter rfl rfl (congrArg Char.toNat h)) fun _ => ?_
  refine .ite (fun h => hletter (e := '\x08') rfl rfl h) fun _ => ?_
  refine .ite (fun h => hletter (e := '\x0c') rfl rfl h) fun _ => ?_
  refine .ite (fun hmarkup => readsAs_unitEscape_toNat _ ?_) fun _ => ?_
  · simp only [Bool.or_eq_true, decide_eq_true_eq] at hmarkup
    rcases hmarkup with ((h | h) | h) | h <;> rw [h] <;> decide
  refine .ite (fun hprintable => ?_) fun _ => ?_
  · simp only [Bool.and_eq_true, decide_eq_true_eq] at hprintable
    exact readsAs_printable hquote hback hprintable.1 hprintable.2
  exact .ite (readsAs_unitEscape_toNat _) (readsAs_surrogates _)

/-- The literal of a text in JSON reads back, whatever the text is. -/
theorem read?_stringLiteral (strict : Bool) (s rest : List Char) :
    (double strict).read? (Json.stringLiteral s ++ rest) =
      some (units s, rest) := by
  have hbody : (double strict).ReadsAs (s.flatMap Json.literalChar) (units s) := by
    induction s with
    | nil => exact fun rest => by simp
    | cons c s ih => exact (readsAs_literalChar strict c).append ih
  have hclose : (double strict).readFrom .text ('"' :: rest) = some ([], rest) :=
    readFrom_text_quote rest
  have hopen : Json.stringLiteral s ++ rest =
      '"' :: (s.flatMap Json.literalChar ++ '"' :: rest) := by
    simp [Json.stringLiteral]
  rw [hopen]
  show (double strict).readFrom .text _ = _
  rw [hbody, hclose]
  simp

end Reader

end ClientGen.TypeScript
