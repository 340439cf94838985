import ClientGen.Proofs.Spelling
import ClientGen.Proofs.Verb

/-!
# What a path adds to the names of its methods

The name of a verb and a path is the verb in lower case followed by the
spellings of the segments of the path (`ofPathChars_eq`). The verb can be told
from what follows it. The segments cannot be told from one another: `/a-b` and
`/a/b` are spelled alike.

They can if the path is *plain*, that is, each segment is a word of lower case
letters, digits and underscores, or a slot for such a word. Then a capital
starts each word, and the word `by` each slot (`pathSpelling_inj`).
-/

namespace ClientGen.MethodName

open Text Method

/-- The segments of a path that starts with a slash. -/
def segments (path : List Char) : List (List Char) :=
  ((dropFinalSlash path).splitOn '/').drop 1

/-- The spellings of the segments of a path, one after another. -/
def pathSpelling (path : List Char) : List Char :=
  (segments path).flatMap fun segment => spelling (segmentWord segment)

/-- The word that stands for a slot. -/
def slotWord : List Char := ['b', 'y']

/-! ### Slots -/

theorem segmentWord_slot {name : List Char} (h : name ≠ []) :
    segmentWord ('\x7b' :: (name ++ ['\x7d'])) =
      slotWord ++ upperFirst name := by
  have hlength : 2 < ('\x7b' :: name).length + 1 := by
    have hpos := List.length_pos_iff.2 h
    rw [List.length_cons]
    omega
  rw [← List.cons_append, segmentWord, List.length_append,
    List.length_singleton, List.getLast?_concat, decide_eq_true hlength,
    if_pos (by rfl), List.cons_append, List.drop_succ_cons, List.drop_zero,
    List.dropLast_concat]
  rfl

/-- What is no slot with a name in it stays as it is. -/
theorem segmentWord_of_not_slot {segment : List Char}
    (h : ∀ name, name ≠ [] → segment ≠ '\x7b' :: (name ++ ['\x7d'])) :
    segmentWord segment = segment := by
  refine if_neg ?_
  simp only [Bool.and_eq_true, decide_eq_true_eq, beq_iff_eq]
  rintro ⟨⟨hlength, hhead⟩, hlast⟩
  obtain ⟨rest, rfl⟩ := List.head?_eq_some_iff.1 hhead
  obtain ⟨front, hfront⟩ := List.getLast?_eq_some_iff.1 hlast
  cases front with
  | nil =>
    rw [hfront] at hlength
    exact absurd hlength (by decide)
  | cons c name =>
    obtain ⟨rfl, hrest⟩ := List.cons.inj hfront
    refine h name ?_ hfront
    rintro rfl
    rw [hfront] at hlength
    exact absurd hlength (by decide)

/-! ### Names are put together from verbs and spellings -/

private theorem spelling_intercalate (words : List (List Char)) :
    spelling (['-'].intercalate words) = words.flatMap spelling := by
  induction words with
  | nil => rfl
  | cons word rest ih =>
    cases rest with
    | nil => simp
    | cons next others =>
      rw [List.intercalate_cons_cons, List.append_assoc, List.singleton_append,
        spelling_append_delimiter _ _ (by decide), ih]
      rfl

/-- The root adds nothing to a verb, and neither does the spelling of its
path. -/
private theorem pathSpelling_root {path : List Char}
    (h : path = ['/'] ∨ path = []) : pathSpelling path = [] := by
  rcases h with rfl | rfl <;> decide

/-- A verb and a path are called by the verb in lower case and the spelling of
the path, the first character of both together in lower case. -/
theorem ofPathChars_eq_lowerFirst (verb path : List Char) :
    ofPathChars verb path =
      lowerFirst (lowerChars verb ++ pathSpelling path) := by
  simp only [ofPathChars, Bool.or_eq_true, decide_eq_true_eq]
  by_cases hroot : path = ['/'] ∨ path = []
  · rw [if_pos hroot, pathSpelling_root hroot, List.append_nil,
      lowerFirst_lowerChars]
  · rw [if_neg hroot, upperFirst_identifierChars, spelling_intercalate,
      List.flatMap_map]
    rfl

/-- A verb is in lower case from its first character on. -/
theorem ofPathChars_eq {verb : List Char} (h : SpellsVerb verb)
    (path : List Char) :
    ofPathChars verb path = lowerChars verb ++ pathSpelling path := by
  rw [ofPathChars_eq_lowerFirst,
    lowerFirst_lowerChars_append (ne_nil_of_spellsVerb h)]

/-- Two names are the same if and only if the verbs are the same in lower case
and the paths are spelled alike. -/
theorem ofPath_inj {verb verb' : String} (h : SpellsVerb verb.toList)
    (h' : SpellsVerb verb'.toList) (path path' : String) :
    ofPath verb path = ofPath verb' path' ↔
      lower verb = lower verb' ∧
        pathSpelling path.toList = pathSpelling path'.toList := by
  rw [ofPath, ofPath, String.ofList_inj, ofPathChars_eq h, ofPathChars_eq h',
    lower, lower, String.ofList_inj]
  constructor
  · exact lowerChars_append_inj h h'
  · rintro ⟨hverb, hpath⟩
    rw [hverb, hpath]

/-! ### Plain words -/

/-- Whether a character can follow the first one of a plain word. -/
def isPlainChar (c : Char) : Bool := c.isLower || c.isDigit || c == '_'

/-- Whether a text is a lower case letter, followed by lower case letters,
digits and underscores. -/
def isPlainWord : List Char → Bool
  | [] => false
  | c :: rest => c.isLower && rest.all isPlainChar

/-- Whether no plain word goes on here. -/
def StartsWord (s : List Char) : Prop := s.takeWhile isPlainChar = []

/-- A lower case letter has a capital, which it is the lower case of. -/
private theorem upperChar_of_isLower {c : Char} (h : c.isLower = true) :
    upperChar c = [c.toUpper] ∧ c.toUpper.toLower = c ∧
      isPlainChar c.toUpper = false := by
  have hascii := toNat_lt_of_isAlphanum (isAlphanum_of_isLower h)
  have hcapital : c.isLower = true → upperChar c = [c.toUpper] ∧
      c.toUpper.toLower = c ∧ isPlainChar c.toUpper = false :=
    forall_ascii (P := fun c => c.isLower = true → upperChar c = [c.toUpper] ∧
      c.toUpper.toLower = c ∧ isPlainChar c.toUpper = false) (by decide) hascii
  exact hcapital h

private theorem startsWord_upperFirst {w : List Char}
    (hw : isPlainWord w = true) (s : List Char) :
    StartsWord (upperFirst w ++ s) := by
  cases w with
  | nil => cases hw
  | cons c rest =>
    obtain ⟨hupper, -, hcapital⟩ :=
      upperChar_of_isLower (Bool.and_eq_true_iff.1 hw).1
    rw [StartsWord, upperFirst, hupper, List.append_assoc,
      List.singleton_append, List.takeWhile_cons_of_neg (by simp [hcapital])]

/-- Where a capitalized plain word ends can be told if another one follows. -/
private theorem upperFirst_append_inj {w w' s s' : List Char}
    (hw : isPlainWord w = true) (hw' : isPlainWord w' = true)
    (hs : StartsWord s) (hs' : StartsWord s')
    (h : upperFirst w ++ s = upperFirst w' ++ s') : w = w' ∧ s = s' := by
  cases w with
  | nil => cases hw
  | cons c rest =>
    cases w' with
    | nil => cases hw'
    | cons c' rest' =>
      obtain ⟨hc, hrest⟩ := Bool.and_eq_true_iff.1 hw
      obtain ⟨hc', hrest'⟩ := Bool.and_eq_true_iff.1 hw'
      obtain ⟨hupper, hback, -⟩ := upperChar_of_isLower hc
      obtain ⟨hupper', hback', -⟩ := upperChar_of_isLower hc'
      rw [upperFirst, upperFirst, hupper, hupper'] at h
      obtain ⟨hcapital, htail⟩ := List.cons.inj h
      change rest ++ s = rest' ++ s' at htail
      have hsame : rest = rest' := by
        have htaken := congrArg (List.takeWhile isPlainChar) htail
        rwa [List.takeWhile_append_of_pos (List.all_eq_true.1 hrest),
          List.takeWhile_append_of_pos (List.all_eq_true.1 hrest'), hs, hs',
          List.append_nil, List.append_nil] at htaken
      rw [hsame] at htail
      rw [← hback, ← hback', hcapital, hsame]
      exact ⟨rfl, List.append_cancel_left htail⟩

/-- Texts can be told from what is written of them one after another, if each
starts a word and ends where another word starts. -/
private theorem flatMap_inj_of_startsWord {P : List Char → Prop}
    {f : List Char → List Char}
    (hne : ∀ {w}, P w → f w ≠ [])
    (hstarts : ∀ {w}, P w → ∀ s, StartsWord (f w ++ s))
    (hinj : ∀ {w w' s s'}, P w → P w' → StartsWord s → StartsWord s' →
      f w ++ s = f w' ++ s' → w = w' ∧ s = s')
    {ws ws' : List (List Char)} (h : ∀ w ∈ ws, P w) (h' : ∀ w ∈ ws', P w)
    (hsame : ws.flatMap f = ws'.flatMap f) : ws = ws' := by
  have hstartsAll : ∀ {ws : List (List Char)}, (∀ w ∈ ws, P w) →
      StartsWord (ws.flatMap f) := by
    intro ws hall
    cases ws with
    | nil => rfl
    | cons w rest => exact hstarts (hall w List.mem_cons_self) _
  induction ws generalizing ws' with
  | nil =>
    cases ws' with
    | nil => rfl
    | cons w rest =>
      rw [List.flatMap_cons, List.flatMap_nil, eq_comm,
        List.append_eq_nil_iff] at hsame
      exact absurd hsame.1 (hne (h' w List.mem_cons_self))
  | cons w rest ih =>
    cases ws' with
    | nil =>
      rw [List.flatMap_cons, List.flatMap_nil, List.append_eq_nil_iff] at hsame
      exact absurd hsame.1 (hne (h w List.mem_cons_self))
    | cons w' rest' =>
      obtain ⟨hfirst, hrest⟩ := List.forall_mem_cons.1 h
      obtain ⟨hfirst', hrest'⟩ := List.forall_mem_cons.1 h'
      obtain ⟨rfl, htail⟩ := hinj hfirst hfirst' (hstartsAll hrest)
        (hstartsAll hrest') hsame
      rw [ih hrest hrest' htail]

private theorem upperFirst_ne_nil {w : List Char} (hw : isPlainWord w = true) :
    upperFirst w ≠ [] := by
  cases w with
  | nil => cases hw
  | cons c rest =>
    exact List.append_ne_nil_of_left_ne_nil (upperChar_ne_nil c) rest

/-- Plain words can be told from their capitalized forms. -/
theorem flatMap_upperFirst_inj {ws ws' : List (List Char)}
    (h : ∀ w ∈ ws, isPlainWord w = true) (h' : ∀ w ∈ ws', isPlainWord w = true)
    (hsame : ws.flatMap upperFirst = ws'.flatMap upperFirst) : ws = ws' :=
  flatMap_inj_of_startsWord upperFirst_ne_nil startsWord_upperFirst
    upperFirst_append_inj h h' hsame

/-! ### Plain paths -/

/-- A segment that is a plain word, but not the one for a slot, or a slot for a
plain word. -/
inductive PlainSegment : List Char → Prop where
  | word {w : List Char} (hword : isPlainWord w = true) (hslot : w ≠ slotWord) :
    PlainSegment w
  | slot {w : List Char} (hword : isPlainWord w = true) :
    PlainSegment ('\x7b' :: (w ++ ['\x7d']))

/-- A path all of whose segments are plain. -/
def IsPlain (path : List Char) : Prop :=
  ∀ segment ∈ segments path, PlainSegment segment

private theorem isPlainChar_of_mem {w : List Char} (hw : isPlainWord w = true) :
    ∀ c ∈ w, isPlainChar c = true := by
  cases w with
  | nil => cases hw
  | cons c rest =>
    obtain ⟨hc, hrest⟩ := Bool.and_eq_true_iff.1 hw
    refine List.forall_mem_cons.2 ⟨?_, List.all_eq_true.1 hrest⟩
    rw [isPlainChar, hc]
    rfl

/-- A text without delimiters is spelled by capitalizing it. -/
private theorem spelling_of_notMem {s : List Char} (hdash : '-' ∉ s)
    (hdot : '.' ∉ s) : spelling s = upperFirst s := by
  rw [← upperFirst_identifierChars, identifierChars_of_not_mem hdash hdot]

/-- A plain word is spelled by capitalizing it. -/
private theorem spelling_word {w : List Char} (hw : isPlainWord w = true) :
    spelling (segmentWord w) = upperFirst w := by
  have hplain := isPlainChar_of_mem hw
  have hbrace : w.head? ≠ some '\x7b' := by
    intro hhead
    exact absurd (hplain _ (List.mem_of_head? hhead)) (by decide)
  have hword : segmentWord w = w := by
    rw [segmentWord, if_neg (by simp [hbrace])]
  rw [hword]
  exact spelling_of_notMem (fun h => absurd (hplain _ h) (by decide))
    (fun h => absurd (hplain _ h) (by decide))

/-- A slot is spelled by capitalizing the word for it and the one in it. -/
private theorem spelling_slot {w : List Char} (hw : isPlainWord w = true) :
    spelling (segmentWord ('\x7b' :: (w ++ ['\x7d']))) =
      upperFirst slotWord ++ upperFirst w := by
  have hplain := isPlainChar_of_mem hw
  have hne : w ≠ [] := by
    rintro rfl
    cases hw
  have hfree : ∀ d, IsMark d → d ∉ slotWord → isPlainChar d = false →
      d ∉ slotWord ++ upperFirst w := by
    intro d hmark hby hnot hd
    rcases List.mem_append.1 hd with hd | hd
    · exact hby hd
    · rw [hplain d (mem_of_mem_upperFirst hmark hd)] at hnot
      cases hnot
  rw [segmentWord_slot hne, spelling_of_notMem
    (hfree '-' (by decide) (by decide) (by decide))
    (hfree '.' (by decide) (by decide) (by decide))]
  rfl

/-- The spelling of a plain segment starts a word. -/
private theorem startsWord_spelling {segment : List Char}
    (h : PlainSegment segment) (s : List Char) :
    StartsWord (spelling (segmentWord segment) ++ s) := by
  cases h with
  | word hword =>
    rw [spelling_word hword]
    exact startsWord_upperFirst hword s
  | slot hword =>
    rw [spelling_slot hword, List.append_assoc]
    exact startsWord_upperFirst (by decide) _

private theorem spelling_ne_nil {segment : List Char}
    (h : PlainSegment segment) : spelling (segmentWord segment) ≠ [] := by
  cases h with
  | word hword =>
    rw [spelling_word hword]
    exact upperFirst_ne_nil hword
  | slot hword =>
    rw [spelling_slot hword]
    exact List.append_ne_nil_of_right_ne_nil _ (upperFirst_ne_nil hword)

/-- Where the spelling of a plain segment ends can be told if another one
follows. -/
private theorem spelling_append_inj {segment segment' s s' : List Char}
    (h : PlainSegment segment) (h' : PlainSegment segment')
    (hs : StartsWord s) (hs' : StartsWord s')
    (hsame : spelling (segmentWord segment) ++ s =
      spelling (segmentWord segment') ++ s') :
    segment = segment' ∧ s = s' := by
  cases h with
  | word hword hslot =>
    rw [spelling_word hword] at hsame
    cases h' with
    | word hword' =>
      rw [spelling_word hword'] at hsame
      exact upperFirst_append_inj hword hword' hs hs' hsame
    | slot hword' =>
      rw [spelling_slot hword', List.append_assoc] at hsame
      exact absurd (upperFirst_append_inj hword (by decide) hs
        (startsWord_upperFirst hword' s') hsame).1 hslot
  | slot hword =>
    rw [spelling_slot hword, List.append_assoc] at hsame
    cases h' with
    | word hword' hslot' =>
      rw [spelling_word hword'] at hsame
      exact absurd (upperFirst_append_inj (by decide) hword'
        (startsWord_upperFirst hword s) hs' hsame).1.symm hslot'
    | slot hword' =>
      rw [spelling_slot hword', List.append_assoc] at hsame
      have htail := List.append_cancel_left hsame
      obtain ⟨rfl, rfl⟩ := upperFirst_append_inj hword hword' hs hs' htail
      exact ⟨rfl, rfl⟩

/-- Plain segments can be told from their spellings. -/
private theorem flatMap_spelling_inj {segs segs' : List (List Char)}
    (h : ∀ segment ∈ segs, PlainSegment segment)
    (h' : ∀ segment ∈ segs', PlainSegment segment)
    (hsame : (segs.flatMap fun segment => spelling (segmentWord segment)) =
      segs'.flatMap fun segment => spelling (segmentWord segment)) :
    segs = segs' :=
  flatMap_inj_of_startsWord spelling_ne_nil startsWord_spelling
    spelling_append_inj h h' hsame

/-! ### Paths and their segments -/

/-- A path that starts with a slash is made of its segments, but for a slash at
its end. -/
theorem intercalate_segments {path : List Char} (h : path.head? = some '/') :
    ['/'].intercalate ([] :: segments path) = dropFinalSlash path := by
  have hpieces : (dropFinalSlash path).splitOn '/' = [] :: segments path := by
    have hstarts : dropFinalSlash path = [] ∨
        ∃ rest, dropFinalSlash path = '/' :: rest := by
      cases path with
      | nil => exact Or.inl rfl
      | cons c rest =>
        obtain rfl : c = '/' := Option.some.inj h
        unfold dropFinalSlash
        split
        · cases rest with
          | nil => exact Or.inl rfl
          | cons d more => exact Or.inr ⟨_, rfl⟩
        · exact Or.inr ⟨rest, rfl⟩
    rw [segments]
    rcases hstarts with hnil | ⟨rest, hcons⟩
    · rw [hnil]
      rfl
    · rw [hcons, List.splitOn_cons_eq_if_modifyHead]
      rfl
  rw [← hpieces, List.intercalate_splitOn]

/-- Plain paths that are spelled alike are equal but for a slash at the end. -/
theorem pathSpelling_inj {path path' : List Char}
    (hroot : path.head? = some '/') (hroot' : path'.head? = some '/')
    (h : IsPlain path) (h' : IsPlain path')
    (hsame : pathSpelling path = pathSpelling path') :
    dropFinalSlash path = dropFinalSlash path' := by
  rw [← intercalate_segments hroot, ← intercalate_segments hroot',
    flatMap_spelling_inj h h' hsame]

end ClientGen.MethodName
