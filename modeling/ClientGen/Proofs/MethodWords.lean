import ClientGen.Proofs.PathSpelling

/-!
# Names of methods word by word

A name is made of a path by stripping it of a slash, joining its segments with
dashes, and then dropping dashes and dots. Here it is read off in one pass
(`words`): the path is divided at slashes, what stands before the first one is
dropped, a slot with a name in it becomes `by` and that name, and each piece is
divided at dashes and dots. Empty words say nothing, so neither do slashes that
are doubled or at the end.

The two agree on all verbs and paths (`build_eq_named`).
-/

namespace ClientGen.MethodName

open Text

/-- The name in a slot, which is a name in braces that is not empty. -/
def slotName? : List Char → Option (List Char)
  | '\x7b' :: rest =>
    if rest.getLast? = some '\x7d' ∧ rest.dropLast ≠ [] then some rest.dropLast
    else none
  | _ => none

/-- What a piece of a path is read as. -/
def rewritten (piece : List Char) : List Char :=
  match slotName? piece with
  | some name => 'b' :: 'y' :: upperFirst name
  | none => piece

/-- The words of a piece of a path. -/
def wordsOf (piece : List Char) : List (List Char) :=
  ((rewritten piece).splitOnP isDelimiter).filter fun word => !word.isEmpty

/-- The words of a path. What stands before its first slash has none. -/
def words (path : List Char) : List (List Char) :=
  ((path.splitOn '/').drop 1).flatMap wordsOf

/-- A verb and the words of a path in camel case. -/
def named (verb path : String) : String :=
  String.ofList (lowerFirst
    (lowerChars verb.toList ++ (words path.toList).flatMap upperFirst))

/-! ### Pieces -/

theorem slotName?_eq_some_iff {piece name : List Char} :
    slotName? piece = some name ↔
      piece = '\x7b' :: (name ++ ['\x7d']) ∧ name ≠ [] := by
  constructor
  · intro h
    unfold slotName? at h
    split at h
    · next rest =>
      split at h
      · next hrest =>
        obtain ⟨hlast, hname⟩ := hrest
        obtain rfl := Option.some.inj h
        obtain ⟨front, rfl⟩ := List.getLast?_eq_some_iff.1 hlast
        rw [List.dropLast_concat] at hname ⊢
        exact ⟨rfl, hname⟩
      · cases h
    · cases h
  · rintro ⟨rfl, hname⟩
    simp [slotName?, hname]

/-- A piece is read as the segment that it is. -/
theorem rewritten_eq_segmentWord (piece : List Char) :
    rewritten piece = segmentWord piece := by
  unfold rewritten
  cases hslot : slotName? piece with
  | some name =>
    obtain ⟨rfl, hname⟩ := slotName?_eq_some_iff.1 hslot
    exact (segmentWord_slot hname).symm
  | none =>
    refine (segmentWord_of_not_slot ?_).symm
    intro name hname hpiece
    rw [slotName?_eq_some_iff.2 ⟨hpiece, hname⟩] at hslot
    cases hslot

/-- Empty words add nothing to a spelling. -/
theorem flatMap_wordsOf (piece : List Char) :
    (wordsOf piece).flatMap upperFirst = spelling (segmentWord piece) := by
  rw [wordsOf, rewritten_eq_segmentWord, spelling]
  induction (segmentWord piece).splitOnP isDelimiter with
  | nil => rfl
  | cons word rest ih =>
    cases word with
    | nil => exact ih
    | cons c more =>
      rw [List.filter_cons_of_pos (by rfl), List.flatMap_cons, ih]
      rfl

/-! ### Slashes -/

/-- The words on either side of a slash. -/
theorem words_append_slash (before after : List Char) :
    words (before ++ '/' :: after) =
      words before ++ (after.splitOn '/').flatMap wordsOf := by
  have hsplit : (before ++ '/' :: after).splitOn '/' =
      before.splitOn '/' ++ after.splitOn '/' :=
    List.splitOnP_append_cons before after (by rfl)
  have hfirst : 1 ≤ (before.splitOn '/').length :=
    List.length_pos_iff.2 (List.splitOnP_ne_nil _ before)
  rw [words, hsplit, List.drop_append_of_le_length hfirst, List.flatMap_append]
  rfl

/-- A slash at the end adds no word. -/
theorem words_concat_slash (path : List Char) :
    words (path ++ ['/']) = words path := by
  have hnone : (([] : List Char).splitOn '/').flatMap wordsOf = [] := by decide
  rw [words_append_slash, hnone, List.append_nil]

/-- Two slashes are as good as one. -/
theorem words_append_slashes (before after : List Char) :
    words (before ++ '/' :: '/' :: after) = words (before ++ '/' :: after) := by
  have hsplit : ('/' :: after).splitOn '/' = [] :: after.splitOn '/' := by
    rw [List.splitOn_cons_eq_if_modifyHead]
    rfl
  have hempty : wordsOf [] = [] := by decide
  rw [words_append_slash, words_append_slash, hsplit, List.flatMap_cons, hempty,
    List.nil_append]

theorem words_dropFinalSlash (path : List Char) :
    words (dropFinalSlash path) = words path := by
  unfold dropFinalSlash
  split
  · next hlast =>
    obtain ⟨front, rfl⟩ := List.getLast?_eq_some_iff.1 (beq_iff_eq.1 hlast)
    rw [List.dropLast_concat, words_concat_slash]
  · rfl

/-- The words of a path are spelled as its segments are. -/
theorem flatMap_words (path : List Char) :
    (words path).flatMap upperFirst = pathSpelling path := by
  rw [← words_dropFinalSlash, words, List.flatMap_assoc]
  simp only [flatMap_wordsOf]
  rfl

/-- A path is spelled piece by piece, whether or not a slash at its end is
dropped. -/
theorem pathSpelling_eq (path : List Char) :
    pathSpelling path =
      ((path.splitOn '/').drop 1).flatMap fun piece =>
        spelling (segmentWord piece) := by
  rw [← flatMap_words, words, List.flatMap_assoc]
  simp only [flatMap_wordsOf]

/-! ### Names -/

theorem ofPath_eq_named (verb path : String) :
    ofPath verb path = named verb path := by
  rw [ofPath, ofPathChars_eq_lowerFirst, ← flatMap_words]
  rfl

/-- A verb and a path are called by the verb and the words of the path. Slashes
that are doubled or at the end do not matter, and the root has no words. -/
theorem build_eq_named (verb : String) :
    (∀ path, build (.str verb) (.str path) = .ok (named verb path)) ∧
      (∀ path, build (.str verb) (.str (path ++ "/")) =
        build (.str verb) (.str path)) ∧
      (∀ before after, build (.str verb) (.str (before ++ "//" ++ after)) =
        build (.str verb) (.str (before ++ "/" ++ after))) ∧
      build (.str verb) (.str "/") = .ok (lower verb) ∧
      build (.str verb) (.str "") = .ok (lower verb) := by
  have hnamed (path : String) :
      build (.str verb) (.str path) = .ok (named verb path) := by
    rw [build, ofPath_eq_named]
  have hroot (path : String) (h : words path.toList = []) :
      build (.str verb) (.str path) = .ok (lower verb) := by
    rw [hnamed, named, h, List.flatMap_nil, List.append_nil,
      lowerFirst_lowerChars]
    rfl
  refine ⟨hnamed, ?_, ?_, hroot "/" (by decide), hroot "" (by decide)⟩
  · intro path
    have hpath : (path ++ "/").toList = path.toList ++ ['/'] := by
      rw [String.toList_append]
      rfl
    rw [hnamed, hnamed, named, named, hpath, words_concat_slash]
  · intro before after
    have hdouble : (before ++ "//" ++ after).toList =
        before.toList ++ '/' :: '/' :: after.toList := by
      simp
    have hsingle : (before ++ "/" ++ after).toList =
        before.toList ++ '/' :: after.toList := by
      simp
    rw [hnamed, hnamed, named, named, hdouble, hsingle, words_append_slashes]

example : named "GET" "/v1//users/\x7buser-id\x7d/old.orders/" =
    "getV1UsersByUserIdOldOrders" := by
  decide +kernel

end ClientGen.MethodName
