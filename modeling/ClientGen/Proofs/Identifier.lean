import ClientGen.Identifier
import ClientGen.Proofs.Case

/-!
# What identifiers are made of

Collapsing a name at a delimiter takes the delimiter out (`not_mem_collapse`)
and adds no punctuation, for what it capitalizes was there before
(`mem_of_mem_collapse`). So an identifier has neither dashes nor dots, is its
own identifier (`identifier_identifier`), and has a slash only if the name had
one (`slash_notMem_identifier`).
-/

namespace ClientGen.Text

/-! ### Pieces of a text -/

/-- The pieces of a text are made of its characters but the delimiter. -/
theorem mem_of_mem_splitOn {delimiter : Char} {s piece : List Char}
    (hpiece : piece ∈ s.splitOn delimiter) {d : Char} (hd : d ∈ piece) :
    d ∈ s ∧ d ≠ delimiter := by
  induction s generalizing piece with
  | nil =>
    rw [List.splitOn_nil, List.mem_singleton] at hpiece
    subst hpiece
    cases hd
  | cons c rest ih =>
    rw [List.splitOn_cons_eq_if_modifyHead] at hpiece
    split at hpiece
    · -- A delimiter starts a new piece, and the others are those of the rest.
      rcases List.mem_cons.1 hpiece with rfl | hpiece
      · cases hd
      · obtain ⟨hmem, hne⟩ := ih hpiece hd
        exact ⟨List.mem_cons_of_mem c hmem, hne⟩
    · next hc =>
      have hc : c ≠ delimiter := by simpa using hc
      cases hrest : rest.splitOn delimiter with
      | nil => exact absurd hrest (List.splitOn_ne_nil delimiter rest)
      | cons first others =>
        rw [hrest, List.modifyHead_cons] at hpiece
        rw [hrest] at ih
        rcases List.mem_cons.1 hpiece with rfl | hpiece
        · rcases List.mem_cons.1 hd with rfl | hd
          · exact ⟨List.mem_cons_self, hc⟩
          · obtain ⟨hmem, hne⟩ := ih List.mem_cons_self hd
            exact ⟨List.mem_cons_of_mem c hmem, hne⟩
        · obtain ⟨hmem, hne⟩ := ih (List.mem_cons_of_mem first hpiece) hd
          exact ⟨List.mem_cons_of_mem c hmem, hne⟩

/-- Putting pieces together adds no mark. -/
private theorem mem_of_mem_joinCapitalized {d : Char} (hd : IsMark d)
    {pieces : List (List Char)} (h : d ∈ joinCapitalized pieces) :
    ∃ piece ∈ pieces, d ∈ piece := by
  cases pieces with
  | nil => cases h
  | cons first rest =>
    rw [joinCapitalized, List.mem_append] at h
    rcases h with h | h
    · exact ⟨first, List.mem_cons_self, h⟩
    · obtain ⟨piece, hpiece, h⟩ := List.mem_flatMap.1 h
      exact ⟨piece, List.mem_cons_of_mem first hpiece, mem_of_mem_upperFirst hd h⟩

/-- Collapsing a text adds no mark. -/
theorem mem_of_mem_collapse {delimiter d : Char} (hd : IsMark d)
    {s : List Char} (h : d ∈ collapse delimiter s) : d ∈ s := by
  obtain ⟨piece, hpiece, h⟩ := mem_of_mem_joinCapitalized hd h
  exact (mem_of_mem_splitOn hpiece h).1

/-- Collapsing a text at a mark takes it out. -/
theorem not_mem_collapse {delimiter : Char} (hd : IsMark delimiter)
    (s : List Char) : delimiter ∉ collapse delimiter s := by
  intro h
  obtain ⟨piece, hpiece, h⟩ := mem_of_mem_joinCapitalized hd h
  exact (mem_of_mem_splitOn hpiece h).2 rfl

/-! ### Identifiers -/

theorem dash_notMem_identifierChars (s : List Char) :
    '-' ∉ identifierChars s := by
  intro h
  have hdash := mem_of_mem_collapse (by decide) h
  exact not_mem_collapse (by decide) s hdash

theorem dot_notMem_identifierChars (s : List Char) :
    '.' ∉ identifierChars s :=
  not_mem_collapse (by decide) _

/-- The identifier of a name is its own identifier. -/
@[simp] theorem identifier_identifier (s : String) :
    identifier (identifier s) = identifier s := by
  rw [identifier, toList_identifier, identifierChars_of_not_mem
    (dash_notMem_identifierChars _) (dot_notMem_identifierChars _)]
  rfl

/-- The identifier of a name has no slash that the name has not. -/
theorem slash_notMem_identifier {s : String} (h : '/' ∉ s.toList) :
    '/' ∉ (identifier s).toList := by
  rw [toList_identifier]
  intro hslash
  have hcollapsed := mem_of_mem_collapse (by decide) hslash
  exact h (mem_of_mem_collapse (by decide) hcollapsed)

/-- The lower case of a text has no slash that the text has not. -/
theorem slash_notMem_lower {s : String} (h : '/' ∉ s.toList) :
    '/' ∉ (lower s).toList := by
  rw [toList_lower]
  intro hslash
  exact h (mem_of_mem_lowerChars (by decide) hslash)

end ClientGen.Text
