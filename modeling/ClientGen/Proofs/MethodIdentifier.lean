import ClientGen.Proofs.MethodWords
import ClientGen.Proofs.PathSlots

/-!
# Names of methods that are identifiers

A path of common characters is made of segments, and these of characters and
slots. Where a slot stands alone in its segment, its braces are dropped; where
it stands next to something else they are not, and end up in the name of the
method. So the name of a verb and a path is an identifier exactly if every
segment has no slot or is one (`isCamelWord_build_iff`). Paths may well have
other segments (`exists_braced_name`).
-/

namespace ClientGen

/-! ### Characters of identifiers -/

namespace Text

/-- Whether a character is an ASCII letter, a digit or an underscore. -/
def isWordChar (c : Char) : Bool := c.isAlphanum || c == '_'

/-- Whether a text is a lower case letter, followed by letters, digits and
underscores. -/
def isCamelWord : List Char → Bool
  | [] => false
  | c :: rest => c.isLower && rest.all isWordChar

/-- Whether a character is one of identifiers or a delimiter. -/
def isNameChar (c : Char) : Bool := isWordChar c || isDelimiter c

theorem toNat_lt_of_isNameChar {c : Char} (h : isNameChar c = true) :
    c.toNat < 128 := by
  simp only [isNameChar, isWordChar, isDelimiter, Bool.or_eq_true,
    beq_iff_eq] at h
  rcases h with (halphanum | rfl) | rfl | rfl
  · exact toNat_lt_of_isAlphanum halphanum
  all_goals decide

/-- Capitals of such characters are such characters. -/
theorem isWordChar_of_mem_upperChar {c d : Char} (h : isWordChar c = true)
    (hd : d ∈ upperChar c) : isWordChar d = true := by
  have hascii : c.toNat < 128 :=
    toNat_lt_of_isNameChar (by rw [isNameChar, h, Bool.true_or])
  have hupper : isWordChar c = true → isWordChar c.toUpper = true :=
    forall_ascii (P := fun c => isWordChar c = true → isWordChar c.toUpper = true)
      (by decide) hascii
  rw [upperChar, if_pos hascii, List.mem_singleton] at hd
  rw [hd]
  exact hupper h

theorem isNameChar_of_mem_upperFirst {s : List Char}
    (h : ∀ c ∈ s, isNameChar c = true) {d : Char} (hd : d ∈ upperFirst s) :
    isNameChar d = true := by
  cases s with
  | nil => cases hd
  | cons c rest =>
    rw [upperFirst, List.mem_append] at hd
    rcases hd with hfirst | hrest
    · have hc := h c List.mem_cons_self
      rw [isNameChar, Bool.or_eq_true] at hc ⊢
      rcases hc with hword | hdivides
      · exact Or.inl (isWordChar_of_mem_upperChar hword hfirst)
      · -- A delimiter is its own capital.
        have hsame : upperChar c = [c] := by
          rw [isDelimiter, Bool.or_eq_true, beq_iff_eq, beq_iff_eq] at hdivides
          rcases hdivides with rfl | rfl <;> decide
        rw [hsame, List.mem_singleton] at hfirst
        rw [hfirst]
        exact Or.inr hdivides
    · exact h d (List.mem_cons_of_mem c hrest)

/-- The spelling of a name of such characters has no delimiters. -/
theorem isWordChar_of_mem_spelling {s : List Char}
    (h : ∀ c ∈ s, isNameChar c = true) {d : Char} (hd : d ∈ spelling s) :
    isWordChar d = true := by
  obtain ⟨c, hc, hdivides, hfrom⟩ := exists_of_mem_spelling hd
  have hword : isWordChar c = true := by
    have hname := h c hc
    rwa [isNameChar, hdivides, Bool.or_false] at hname
  rcases hfrom with rfl | hupper
  · exact hword
  · exact isWordChar_of_mem_upperChar hword hupper

/-! ### ASCII texts -/

/-- The upper case of an ASCII text is made character by character. -/
theorem upperChars_of_ascii {s : List Char} (h : ∀ c ∈ s, c.toNat < 128) :
    upperChars s = s.map Char.toUpper := by
  induction s with
  | nil => rfl
  | cons c rest ih =>
    obtain ⟨hc, hrest⟩ := List.forall_mem_cons.1 h
    rw [List.map_cons, ← ih hrest, upperChars, List.flatMap_cons, upperChar,
      if_pos hc]
    rfl

/-- So is its lower case, for it has no sigma. -/
theorem lowerAfter_of_ascii {s : List Char} (h : ∀ c ∈ s, c.toNat < 128)
    (after : Bool) : lowerAfter after s = s.map Char.toLower := by
  induction s generalizing after with
  | nil => rfl
  | cons c rest ih =>
    obtain ⟨hc, hrest⟩ := List.forall_mem_cons.1 h
    have hsigma : c ≠ capitalSigma := by
      rintro rfl
      exact absurd hc (by decide)
    rw [lowerAfter, if_neg hsigma, lowerChar, if_pos hc, ih hrest]
    rfl

end Text

namespace Method

open Text

/-! ### Verbs in ASCII -/

/-- A verb in ASCII letters of any case is made of letters. -/
private theorem isAlpha_of_mem {verb : String} (h : verb.toUpper ∈ verbs)
    {c : Char} (hc : c ∈ verb.toList) : c.toNat < 128 ∧ c.isAlpha = true := by
  have hletters : ∀ v ∈ verbs, v.toList.all
      (fun d => d.toNat < 128 && d.isAlpha) = true := by
    decide
  have hmem : c.toUpper ∈ verb.toUpper.toList := by
    rw [String.toUpper, String.toList_map]
    exact List.mem_map_of_mem hc
  have hupper := List.all_eq_true.1 (hletters _ h) _ hmem
  rw [Bool.and_eq_true, decide_eq_true_eq] at hupper
  have hascii : c.toNat < 128 := by
    by_cases hlower : c.isLower = true
    · exact toNat_lt_of_isAlphanum (isAlphanum_of_isLower hlower)
    · have hsame : c.toUpper = c := by
        refine dif_neg fun hrange => hlower (Bool.and_eq_true_iff.2 ?_)
        exact ⟨decide_eq_true hrange.1, decide_eq_true hrange.2⟩
      rw [← hsame]
      exact hupper.1
  have hback : c.toUpper.isAlpha = true → c.isAlpha = true :=
    forall_ascii (P := fun c => c.toUpper.isAlpha = true → c.isAlpha = true)
      (by decide) hascii
  exact ⟨hascii, hback hupper.2⟩

theorem spellsVerb_of_toUpper {verb : String} (h : verb.toUpper ∈ verbs) :
    SpellsVerb verb.toList := by
  have hupper : upperChars verb.toList = verb.toUpper.toList := by
    rw [upperChars_of_ascii fun c hc => (isAlpha_of_mem h hc).1, String.toUpper,
      String.toList_map]
  rw [SpellsVerb, hupper, String.ofList_toList]
  exact h

/-- Such a verb in lower case is made of lower case letters. -/
theorem isLower_of_mem_lowerChars {verb : String} (h : verb.toUpper ∈ verbs)
    {d : Char} (hd : d ∈ lowerChars verb.toList) : d.isLower = true := by
  rw [lowerChars, lowerAfter_of_ascii fun c hc => (isAlpha_of_mem h hc).1,
    List.mem_map] at hd
  obtain ⟨c, hc, rfl⟩ := hd
  obtain ⟨hascii, halpha⟩ := isAlpha_of_mem h hc
  have hlower : c.isAlpha = true → c.toLower.isLower = true :=
    forall_ascii (P := fun c => c.isAlpha = true → c.toLower.isLower = true)
      (by decide) hascii
  exact hlower halpha

end Method

namespace MethodName

open Text Method UrlTemplate

/-! ### Segments -/

/-- Whether a piece of a segment is a common character, or a slot with a name of
common characters. -/
def IsCommon : Piece → Prop
  | .char c => isNameChar c = true
  | .slot name => name ≠ [] ∧ ∀ c ∈ name, isNameChar c = true

instance : DecidablePred IsCommon
  | .char c => inferInstanceAs (Decidable (isNameChar c = true))
  | .slot name =>
    decidable_of_iff (name ≠ [] ∧ name.all isNameChar = true)
      (and_congr_right fun _ => List.all_eq_true)

/-- Whether a segment has no slot, or is one. -/
def IsWhole (segment : List Piece) : Prop :=
  (∀ name, .slot name ∉ segment) ∨ ∃ name, segment = [.slot name]

/-- The path with given segments. -/
def pathOf (segments : List (List Piece)) : String :=
  String.ofList ('/' :: ['/'].intercalate (segments.map sourceOf))

variable {segment : List Piece}

/-- The characters of a segment are common ones and the braces of its slots. -/
theorem cases_of_mem_sourceOf (h : ∀ piece ∈ segment, IsCommon piece) {c : Char}
    (hc : c ∈ sourceOf segment) :
    isNameChar c = true ∨
      (c = '\x7b' ∨ c = '\x7d') ∧ ∃ name, .slot name ∈ segment := by
  induction segment with
  | nil => cases hc
  | cons piece rest ih =>
    obtain ⟨hpiece, hrest⟩ := List.forall_mem_cons.1 h
    have hlater : c ∈ sourceOf rest → isNameChar c = true ∨
        (c = '\x7b' ∨ c = '\x7d') ∧ ∃ name, .slot name ∈ piece :: rest := by
      intro hmem
      refine (ih hrest hmem).imp_right ?_
      rintro ⟨hbrace, name, hname⟩
      exact ⟨hbrace, name, List.mem_cons_of_mem piece hname⟩
    cases piece with
    | char d =>
      rcases List.mem_cons.1 hc with rfl | hmem
      · exact Or.inl hpiece
      · exact hlater hmem
    | slot name =>
      rcases List.mem_cons.1 hc with rfl | hmem
      · exact Or.inr ⟨Or.inl rfl, name, List.mem_cons_self⟩
      · rcases List.mem_append.1 hmem with hname | hafter
        · exact Or.inl (hpiece.2 c hname)
        · rcases List.mem_cons.1 hafter with rfl | hmore
          · exact Or.inr ⟨Or.inr rfl, name, List.mem_cons_self⟩
          · exact hlater hmore

/-- A slot opens with a brace. -/
theorem brace_mem_sourceOf {name : List Char} (h : .slot name ∈ segment) :
    '\x7b' ∈ sourceOf segment := by
  induction segment with
  | nil => cases h
  | cons piece rest ih =>
    rcases List.mem_cons.1 h with rfl | hrest
    · exact List.mem_cons_self
    · cases piece with
      | char c => exact List.mem_cons_of_mem c (ih hrest)
      | slot other =>
        exact List.mem_cons_of_mem _
          (List.mem_append_right _ (List.mem_cons_of_mem _ (ih hrest)))

/-- A segment that has a slot next to something else is read with a brace. -/
theorem exists_brace_mem_segmentWord (h : ∀ piece ∈ segment, IsCommon piece)
    (hwhole : ¬ IsWhole segment) :
    ∃ d ∈ segmentWord (sourceOf segment), d = '\x7b' ∨ d = '\x7d' := by
  rw [IsWhole, not_or, not_forall, not_exists] at hwhole
  obtain ⟨⟨name, hslot⟩, hother⟩ := hwhole
  rw [not_not] at hslot
  by_cases hform : ∃ x, x ≠ [] ∧ sourceOf segment = '\x7b' :: (x ++ ['\x7d'])
  · -- Only the outer braces are dropped, and those of one slot are inside.
    obtain ⟨x, hx, hsource⟩ := hform
    refine ⟨'\x7d', ?_, Or.inr rfl⟩
    rw [hsource, segmentWord_slot hx]
    refine List.mem_append_right _ (mem_upperFirst_of_mem (by decide) ?_)
    cases segment with
    | nil => cases hslot
    | cons piece rest =>
      cases piece with
      | char c =>
        obtain ⟨rfl, -⟩ := List.cons.inj hsource
        have hname : isNameChar '\x7b' = true := h _ List.mem_cons_self
        exact absurd hname (by decide)
      | slot n =>
        have hmore : sourceOf rest ≠ [] := by
          cases rest with
          | nil => exact absurd rfl (hother n)
          | cons next _ => cases next <;> exact List.cons_ne_nil _ _
        have hinside := congrArg List.dropLast (List.cons.inj hsource).2
        rw [List.dropLast_append_of_ne_nil (List.cons_ne_nil _ _),
          List.dropLast_cons_of_ne_nil hmore, List.dropLast_concat] at hinside
        rw [← hinside]
        exact List.mem_append_right _ List.mem_cons_self
  · refine ⟨'\x7b', ?_, Or.inl rfl⟩
    rw [segmentWord_of_not_slot fun x hx hsource => hform ⟨x, hx, hsource⟩]
    exact brace_mem_sourceOf hslot

/-- A segment adds only characters of identifiers to a name exactly if it has
no slot or is one. -/
theorem forall_isWordChar_iff (h : ∀ piece ∈ segment, IsCommon piece) :
    (∀ d ∈ spelling (segmentWord (sourceOf segment)), isWordChar d = true) ↔
      IsWhole segment := by
  constructor
  · intro hword
    by_contra hwhole
    obtain ⟨d, hd, hbrace⟩ := exists_brace_mem_segmentWord h hwhole
    rcases hbrace with rfl | rfl
    · exact absurd (hword _ (mem_spelling_of_mem (by decide) (by decide) hd))
        (by decide)
    · exact absurd (hword _ (mem_spelling_of_mem (by decide) (by decide) hd))
        (by decide)
  · rintro (hnone | ⟨name, rfl⟩) d hd
    · have hcommon : ∀ c ∈ sourceOf segment, isNameChar c = true := by
        intro c hc
        rcases cases_of_mem_sourceOf h hc with hname | ⟨-, name, hslot⟩
        · exact hname
        · exact absurd hslot (hnone name)
      have hsame : segmentWord (sourceOf segment) = sourceOf segment := by
        refine segmentWord_of_not_slot fun x _ hsource => ?_
        have hbrace := hcommon '\x7b' (hsource ▸ List.mem_cons_self)
        exact absurd hbrace (by decide)
      rw [hsame] at hd
      exact isWordChar_of_mem_spelling hcommon hd
    · obtain ⟨hne, hname⟩ := h _ List.mem_cons_self
      have hsource : sourceOf [.slot name] = '\x7b' :: (name ++ ['\x7d']) := rfl
      rw [hsource, segmentWord_slot hne] at hd
      refine isWordChar_of_mem_spelling (fun c hc => ?_) hd
      rcases List.mem_append.1 hc with hslot | hcapital
      · have hslotWord : slotWord.all isNameChar = true := by decide
        exact List.all_eq_true.1 hslotWord c hslot
      · exact isNameChar_of_mem_upperFirst hname hcapital

/-! ### Paths -/

/-- The path with given segments is spelled segment by segment. -/
theorem pathSpelling_pathOf {segments : List (List Piece)}
    (h : ∀ segment ∈ segments, ∀ piece ∈ segment, IsCommon piece) :
    pathSpelling (pathOf segments).toList =
      segments.flatMap fun segment => spelling (segmentWord (sourceOf segment)) := by
  have hpieces : ('/' :: ['/'].intercalate (segments.map sourceOf)).splitOn '/' =
      [] :: (['/'].intercalate (segments.map sourceOf)).splitOn '/' := by
    rw [List.splitOn_cons_eq_if_modifyHead]
    rfl
  rw [pathSpelling_eq, pathOf, String.toList_ofList, hpieces, List.drop_succ_cons,
    List.drop_zero]
  cases segments with
  | nil => decide
  | cons segment rest =>
    have hslash : ∀ source ∈ (segment :: rest).map sourceOf, '/' ∉ source := by
      rintro _ hsource hmem
      obtain ⟨s, hs, rfl⟩ := List.mem_map.1 hsource
      rcases cases_of_mem_sourceOf (h s hs) hmem with hname | ⟨hbrace, -⟩
      · exact absurd hname (by decide)
      · exact absurd hbrace (by decide)
    rw [List.splitOn_intercalate '/' hslash (List.cons_ne_nil _ _),
      List.flatMap_map]

/-- What follows a lower case letter decides whether a name is an identifier. -/
theorem isCamelWord_append_iff {v s : List Char} (hne : v ≠ [])
    (hv : ∀ d ∈ v, d.isLower = true) :
    isCamelWord (v ++ s) = true ↔ ∀ d ∈ s, isWordChar d = true := by
  cases v with
  | nil => exact absurd rfl hne
  | cons c rest =>
    obtain ⟨hc, hrest⟩ := List.forall_mem_cons.1 hv
    have hword : ∀ d ∈ rest, isWordChar d = true := by
      intro d hd
      rw [isWordChar, isAlphanum_of_isLower (hrest d hd), Bool.true_or]
    rw [List.cons_append, isCamelWord, hc, Bool.true_and, List.all_append,
      List.all_eq_true.2 hword, Bool.true_and, List.all_eq_true]

/-- **Names of methods as identifiers.** A verb, in any case of its letters, and
a path of common characters have a name. It is a lower case letter followed by
letters, digits and underscores exactly if every segment of the path has no slot
or is one. -/
theorem isCamelWord_build_iff {verb : String} {segments : List (List Piece)}
    (hverb : verb.toUpper ∈ Method.verbs)
    (hsegments : ∀ segment ∈ segments, ∀ piece ∈ segment, IsCommon piece) :
    ∃ name, build (.str verb) (.str (pathOf segments)) = .ok name ∧
      (isCamelWord name.toList = true ↔
        ∀ segment ∈ segments, IsWhole segment) := by
  refine ⟨_, rfl, ?_⟩
  have hspells := spellsVerb_of_toUpper hverb
  have hne : lowerChars verb.toList ≠ [] := by
    intro hnil
    have hupper := upperChars_lowerChars_of_spellsVerb hspells
    rw [hnil] at hupper
    exact ne_nil_of_spellsVerb hspells (upperChars_eq_nil.1 hupper.symm)
  rw [ofPath, String.toList_ofList, ofPathChars_eq hspells,
    pathSpelling_pathOf hsegments,
    isCamelWord_append_iff hne fun d => isLower_of_mem_lowerChars hverb]
  simp only [List.mem_flatMap]
  constructor
  · intro hword segment hsegment
    refine (forall_isWordChar_iff (hsegments segment hsegment)).1 fun d hd => ?_
    exact hword d ⟨segment, hsegment, hd⟩
  · rintro hwhole d ⟨segment, hsegment, hd⟩
    exact (forall_isWordChar_iff (hsegments segment hsegment)).2
      (hwhole segment hsegment) d hd

/-- Segments with a version, with a slot and with delimiters. -/
def owners : List (List Piece) :=
  [[.char 'v', .char '1'], [.slot "pet-id".toList],
    [.char 'o', .char '.', .char 'a', .char '-', .char '_'], []]

theorem isCamelWord_build_owners :
    build (.str "Get") (.str "/v1/\x7bpet-id\x7d/o.a-_/") =
        .ok "getV1ByPetIdOA_" ∧
      isCamelWord "getV1ByPetIdOA_".toList = true := by
  have hpath : pathOf owners = "/v1/\x7bpet-id\x7d/o.a-_/" := by decide +kernel
  have hcommon : ∀ segment ∈ owners, ∀ piece ∈ segment, IsCommon piece := by
    decide +kernel
  have hwhole : ∀ segment ∈ owners, IsWhole segment := by
    simp only [owners, List.forall_mem_cons]
    refine ⟨Or.inl ?_, Or.inr ⟨_, rfl⟩, Or.inl ?_, Or.inl ?_, ?_⟩ <;> simp
  have hname : build (.str "Get") (.str "/v1/\x7bpet-id\x7d/o.a-_/") =
      .ok "getV1ByPetIdOA_" := by
    decide +kernel
  obtain ⟨name, hbuild, hiff⟩ :=
    @isCamelWord_build_iff "Get" owners (by decide +kernel) hcommon
  rw [hpath, hname] at hbuild
  obtain rfl := Except.ok.inj hbuild
  exact ⟨hname, hiff.2 hwhole⟩

/-- Where a slot is followed by a file extension, the name has its braces. -/
theorem exists_braced_name :
    ¬ ∀ (verb : String) (segments : List (List Piece)),
      verb.toUpper ∈ Method.verbs →
      (∀ segment ∈ segments, ∀ piece ∈ segment, IsCommon piece) →
      ∃ name, build (.str verb) (.str (pathOf segments)) = .ok name ∧
        isCamelWord name.toList = true := by
  intro h
  let file : List Piece :=
    .slot "name".toList :: (".json".toList.map .char)
  have hcommon : ∀ segment ∈ [file], ∀ piece ∈ segment, IsCommon piece := by
    decide +kernel
  obtain ⟨name, hbuild, hword⟩ := h "GET" [file] (by decide +kernel) hcommon
  have hname : build (.str "GET") (.str (pathOf [file])) =
      .ok "get\x7bname\x7dJson" := by
    decide +kernel
  rw [hname] at hbuild
  obtain rfl := Except.ok.inj hbuild
  exact absurd hword (by decide +kernel)

end MethodName

end ClientGen
