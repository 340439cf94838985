import ClientGen.Proofs.Capitals
import ClientGen.Proofs.Identifier

/-!
# Identifiers in one pass

An identifier is made in two passes, one for each delimiter. The first may put
in front of a piece of the second a character that it has capitalized, which
does no harm, for a capital stays one. Nor does what the first capitalizes
become a delimiter of the second. So two passes are one that divides at both
delimiters (`collapse_collapse`), whichever comes first (`collapse_comm`), and
an identifier has the pieces between delimiters of either kind, each but the
first capitalized (`identifierChars_eq`, `Value.identifier?_onePass`).

With all pieces capitalized it is the *spelling* of the name
(`upperFirst_identifierChars`). A spelling does not tell where its pieces were
divided and by what: it is put together piece by piece
(`spelling_append_delimiter`).
-/

namespace ClientGen

namespace Text

/-- Whether a character divides a name into pieces. -/
def isDelimiter (c : Char) : Bool := c == '-' || c == '.'

/-- The pieces of a text, each capitalized. -/
def spelling (s : List Char) : List Char :=
  (s.splitOnP isDelimiter).flatMap upperFirst

/-! ### Character by character -/

/-- A text read from left to right: characters that divide are left out, and
each is followed by a capital, as the text itself is if `capital` is set. -/
def joinFrom (divides : Char → Bool) (capital : Bool) : List Char → List Char
  | [] => []
  | c :: rest =>
    if divides c then joinFrom divides true rest
    else (if capital then upperChar c else [c]) ++ joinFrom divides false rest

private theorem joinFrom_eq (divides : Char → Bool) (s : List Char) :
    (s.splitOnP divides).flatMap upperFirst = joinFrom divides true s ∧
      joinCapitalized (s.splitOnP divides) = joinFrom divides false s := by
  induction s with
  | nil => exact ⟨rfl, rfl⟩
  | cons c rest ih =>
    obtain ⟨ihcapital, ihplain⟩ := ih
    rw [List.splitOnP_cons_eq_if_modifyHead, joinFrom, joinFrom]
    cases hc : divides c with
    | true => exact ⟨ihcapital, ihcapital⟩
    | false =>
      cases hrest : rest.splitOnP divides with
      | nil => exact absurd hrest (List.splitOnP_ne_nil divides rest)
      | cons first others =>
        rw [hrest, joinCapitalized] at ihplain
        rw [if_neg Bool.false_ne_true, if_neg Bool.false_ne_true,
          List.modifyHead_cons, ← ihplain]
        constructor
        · rw [List.flatMap_cons, upperFirst, List.append_assoc]
          rfl
        · rfl

theorem spelling_eq (s : List Char) : spelling s = joinFrom isDelimiter true s :=
  (joinFrom_eq isDelimiter s).1

theorem collapse_eq (delimiter : Char) (s : List Char) :
    collapse delimiter s = joinFrom (· == delimiter) false s :=
  (joinFrom_eq (· == delimiter) s).2

/-- Characters that do not divide are read as they are. -/
private theorem joinFrom_append {divides : Char → Bool} {s : List Char}
    (h : ∀ c ∈ s, divides c = false) (rest : List Char) :
    joinFrom divides false (s ++ rest) = s ++ joinFrom divides false rest := by
  induction s with
  | nil => rfl
  | cons c s ih =>
    rw [List.cons_append, joinFrom, h c List.mem_cons_self,
      ih fun d hd => h d (List.mem_cons_of_mem c hd)]
    rfl

section Passes

variable {divides divides' : Char → Bool}
  (h : ∀ c, divides' c = true → IsMark c)

include h

/-- A character that does not divide, capitalized or not, is read as the start
of a piece. It is capitalized once at most, for a capital stays one, and no
mark comes of it that divides. -/
private theorem joinFrom_start {c : Char} (hc : divides' c = false)
    (capital capital' : Bool) (rest : List Char) :
    joinFrom divides' capital'
        ((if capital then upperChar c else [c]) ++ rest) =
      (if capital || capital' then upperChar c else [c]) ++
        joinFrom divides' false rest := by
  cases capital with
  | false =>
    rw [if_neg Bool.false_ne_true, List.singleton_append, joinFrom, hc,
      if_neg Bool.false_ne_true, Bool.false_or]
  | true =>
    obtain ⟨u, more, hupper, hstays⟩ := upperChar_eq_cons c
    have hfree : ∀ d ∈ u :: more, divides' d = false := by
      intro d hd
      rw [← hupper] at hd
      rw [Bool.eq_false_iff]
      intro hdivides
      rw [← eq_of_mem_upperChar (h d hdivides) hd, hdivides] at hc
      cases hc
    have hmore := joinFrom_append
      (fun d hd => hfree d (List.mem_cons_of_mem u hd)) rest
    rw [Bool.true_or, if_pos rfl, hupper, List.cons_append, joinFrom,
      hfree u List.mem_cons_self, if_neg Bool.false_ne_true, hmore, hstays,
      ite_self]
    rfl

/-- Two passes at once, the second of which divides at marks only. -/
private theorem joinFrom_joinFrom (capital capital' : Bool) (s : List Char) :
    joinFrom divides' capital' (joinFrom divides capital s) =
      joinFrom (fun c => divides c || divides' c) (capital || capital') s := by
  -- A flag is set while its pass has yet to capitalize what follows a delimiter.
  induction s generalizing capital capital' with
  | nil => rfl
  | cons c rest ih =>
    rw [joinFrom, joinFrom]
    cases hfirst : divides c with
    | true => exact ih true capital'
    | false =>
      rw [if_neg Bool.false_ne_true, Bool.false_or]
      cases hsecond : divides' c with
      | true =>
        -- What the second pass divides at is a mark, which the first leaves.
        rw [upperChar_of_isMark (h c hsecond), ite_self, List.singleton_append,
          joinFrom, hsecond]
        exact ih false true
      | false =>
        rw [joinFrom_start h hsecond, ih, if_neg Bool.false_ne_true]
        rfl

end Passes

/-- Collapsing a text at one delimiter and then at a mark is reading it once. -/
theorem collapse_collapse {mark : Char} (h : IsMark mark) (delimiter : Char)
    (s : List Char) :
    collapse mark (collapse delimiter s) =
      joinFrom (fun c => c == delimiter || c == mark) false s := by
  have hmark : ∀ c, (c == mark) = true → IsMark c := by
    intro c hc
    rwa [beq_iff_eq.1 hc]
  rw [collapse_eq, collapse_eq, joinFrom_joinFrom hmark]
  rfl

/-- At which of two marks a text is collapsed first does not matter. -/
theorem collapse_comm {mark mark' : Char} (h : IsMark mark) (h' : IsMark mark')
    (s : List Char) :
    collapse mark (collapse mark' s) = collapse mark' (collapse mark s) := by
  rw [collapse_collapse h, collapse_collapse h']
  congr 1
  funext c
  exact Bool.or_comm _ _

/-- What is read as the start of a capitalized text starts with a capital. -/
private theorem upperFirst_joinFrom (divides : Char → Bool) (capital : Bool)
    (s : List Char) :
    upperFirst (joinFrom divides capital s) = joinFrom divides true s := by
  induction s generalizing capital with
  | nil => rfl
  | cons c rest ih =>
    rw [joinFrom, joinFrom]
    cases divides c with
    | true => exact ih true
    | false =>
      rw [if_neg Bool.false_ne_true, if_neg Bool.false_ne_true, if_pos rfl]
      cases capital with
      | false => rfl
      | true =>
        obtain ⟨u, more, hupper, hstays⟩ := upperChar_eq_cons c
        rw [if_pos rfl, hupper, List.cons_append, upperFirst, hstays]
        rfl

/-- Marks that do not divide are read as they are. -/
private theorem mem_joinFrom_of_mem {divides : Char → Bool} {d : Char}
    (hd : IsMark d) (hdivides : divides d = false) (capital : Bool)
    {s : List Char} (h : d ∈ s) : d ∈ joinFrom divides capital s := by
  induction s generalizing capital with
  | nil => cases h
  | cons c rest ih =>
    rw [joinFrom]
    rcases List.mem_cons.1 h with rfl | hrest
    · rw [hdivides, if_neg Bool.false_ne_true, upperChar_of_isMark hd]
      cases capital <;> exact List.mem_cons_self
    · split
      · exact ih true hrest
      · exact List.mem_append_right _ (ih false hrest)

/-- What is read is a character that does not divide, or a capital of one. -/
private theorem exists_of_mem_joinFrom {divides : Char → Bool} {capital : Bool}
    {s : List Char} {d : Char} (h : d ∈ joinFrom divides capital s) :
    ∃ c ∈ s, divides c = false ∧ (d = c ∨ d ∈ upperChar c) := by
  induction s generalizing capital with
  | nil => cases h
  | cons c rest ih =>
    rw [joinFrom] at h
    have hlater : ∀ {flag}, d ∈ joinFrom divides flag rest →
        ∃ c' ∈ c :: rest, divides c' = false ∧ (d = c' ∨ d ∈ upperChar c') := by
      intro flag hd
      obtain ⟨c', hc', hfrom⟩ := ih hd
      exact ⟨c', List.mem_cons_of_mem c hc', hfrom⟩
    cases hc : divides c with
    | true =>
      rw [hc, if_pos rfl] at h
      exact hlater h
    | false =>
      rw [hc, if_neg Bool.false_ne_true, List.mem_append] at h
      rcases h with hfirst | hrest
      · refine ⟨c, List.mem_cons_self, hc, ?_⟩
        cases capital with
        | false => exact Or.inl (List.mem_singleton.1 hfirst)
        | true => exact Or.inr hfirst
      · exact hlater hrest

/-! ### Identifiers and spellings -/

theorem identifierChars_eq_joinFrom (s : List Char) :
    identifierChars s = joinFrom isDelimiter false s :=
  collapse_collapse (by decide) '-' s

/-- An identifier has the pieces of the name between delimiters of either kind,
each but the first capitalized. -/
theorem identifierChars_eq (s : List Char) :
    identifierChars s = joinCapitalized (s.splitOnP isDelimiter) := by
  rw [identifierChars_eq_joinFrom, (joinFrom_eq isDelimiter s).2]

/-- A capitalized identifier is the spelling of the name. -/
theorem upperFirst_identifierChars (s : List Char) :
    upperFirst (identifierChars s) = spelling s := by
  rw [identifierChars_eq_joinFrom, spelling_eq, upperFirst_joinFrom]

/-- An identifier has the marks of the name but for delimiters. -/
theorem mem_identifierChars_of_mem {d : Char} (hd : IsMark d)
    (hdivides : isDelimiter d = false) {s : List Char} (h : d ∈ s) :
    d ∈ identifierChars s := by
  rw [identifierChars_eq_joinFrom]
  exact mem_joinFrom_of_mem hd hdivides false h

/-- A spelling has the marks of the name but for delimiters. -/
theorem mem_spelling_of_mem {d : Char} (hd : IsMark d)
    (hdivides : isDelimiter d = false) {s : List Char} (h : d ∈ s) :
    d ∈ spelling s := by
  rw [spelling_eq]
  exact mem_joinFrom_of_mem hd hdivides true h

/-- What a spelling has is a character of the name, or a capital of one. -/
theorem exists_of_mem_spelling {s : List Char} {d : Char} (h : d ∈ spelling s) :
    ∃ c ∈ s, isDelimiter c = false ∧ (d = c ∨ d ∈ upperChar c) := by
  rw [spelling_eq] at h
  exact exists_of_mem_joinFrom h

/-- A spelling is put together from those of the parts between delimiters. -/
theorem spelling_append_delimiter (s t : List Char) {d : Char}
    (hd : isDelimiter d = true) :
    spelling (s ++ d :: t) = spelling s ++ spelling t := by
  rw [spelling, List.splitOnP_append_cons s t hd, List.flatMap_append]
  rfl

/-! ### Names read once -/

/-- A name divided at all delimiters at once: the first piece as it is, and each
other with its first character, if it has any, in upper case. -/
def onePass (s : List Char) : List Char :=
  let pieces := s.splitOnP isDelimiter
  pieces.headD [] ++
    pieces.tail.flatMap fun piece => upperChars (piece.take 1) ++ piece.drop 1

/-- Capitalizing a text puts its first character, if it has any, in upper
case. -/
theorem upperFirst_eq_append (s : List Char) :
    upperFirst s = upperChars (s.take 1) ++ s.drop 1 := by
  cases s with
  | nil => rfl
  | cons c rest => simp [upperFirst, upperChars]

/-- Dropping dashes and then dots is one pass. -/
theorem identifierChars_eq_onePass (s : List Char) :
    identifierChars s = onePass s := by
  rw [identifierChars_eq, onePass]
  cases s.splitOnP isDelimiter with
  | nil => rfl
  | cons first others =>
    rw [joinCapitalized, funext upperFirst_eq_append]
    rfl

end Text

namespace Value

/-- **Identifiers in one pass.** Every value but null has an identifier, which
is the text of the value divided at all delimiters at once and put together
with capitals. No delimiter is left in it, so it is its own identifier, and it
would be the same if dots were dropped before dashes. -/
theorem identifier?_onePass {v : Value} (h : v ≠ .null) :
    ∃ name, v.identifier? = some name ∧
      name.toList = Text.onePass v.text.toList ∧
      '-' ∉ name.toList ∧ '.' ∉ name.toList ∧
      (Value.str name).identifier? = some name ∧
      name.toList = Text.collapse '-' (Text.collapse '.' v.text.toList) := by
  have hname := identifier?_eq_some_iff.2 ⟨h, rfl⟩
  have hchars := Text.toList_identifier v.text
  refine ⟨_, hname, ?_, ?_, ?_, ?_, ?_⟩
  · rw [hchars, Text.identifierChars_eq_onePass]
  · rw [hchars]
    exact Text.dash_notMem_identifierChars _
  · rw [hchars]
    exact Text.dot_notMem_identifierChars _
  · rw [identifier?_str, Text.identifier_identifier]
  · rw [hchars, Text.identifierChars]
    exact Text.collapse_comm (by decide) (by decide) _

/-- Delimiters that follow one another make no difference, and what is one
character may have two for its upper case. -/
theorem identifier?_onePass_street :
    (Value.str "street-.ßen--x").identifier? = some "streetSSenX" ∧
      Text.onePass "street-.ßen--x".toList = "streetSSenX".toList ∧
      (Value.str "streetSSenX").identifier? = some "streetSSenX" ∧
      Text.collapse '-' (Text.collapse '.' "street-.ßen--x".toList) =
        "streetSSenX".toList := by
  obtain ⟨name, hname, hpass, -, -, hagain, hswapped⟩ :=
    identifier?_onePass (v := .str "street-.ßen--x") (by nofun)
  have hpassed : Text.onePass "street-.ßen--x".toList =
      "streetSSenX".toList := by
    decide +kernel
  obtain rfl : name = "streetSSenX" :=
    String.toList_inj.1 (hpass.trans hpassed)
  exact ⟨hname, hpassed, hagain, hswapped.symm⟩

end Value

end ClientGen
