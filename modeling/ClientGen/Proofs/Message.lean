import Mathlib.Data.List.TakeWhile
import ClientGen.CommandLine.Run

/-!
# Texts without styles

What a text loses with the sequences that style a terminal (`plain`). No such
sequence has a space in it, so what stands in front of a space loses its own ones
only (`plain_append_of_space`), and a text without escape characters loses
nothing (`plain_of_notMem`). The line that sums up a run can therefore lose
something in the name of the output directory only (`plain_summary`).
-/

namespace ClientGen.CommandLine

/-- The character that every style starts with. -/
def escape : Char := '\x1b'

/-! ### Characters -/

/-- A style ends where its text ends. -/
theorem styleLength_le (cs : List Char) : styleLength cs ≤ cs.length := by
  unfold styleLength
  split
  · next rest =>
    dsimp only
    split
    · next numbers e after hdrop =>
      have hlength := congrArg List.length hdrop
      rw [List.length_drop, List.length_cons] at hlength
      split
      · rw [List.length_cons]
        omega
      · exact Nat.zero_le _
    · exact Nat.zero_le _
  · exact Nat.zero_le _

/-- A space is none of the characters that a test finds at the start of a
text. -/
private theorem takeWhile_append_space {q : Char → Bool} (hq : q ' ' = false)
    (as bs : List Char) :
    (as ++ ' ' :: bs).takeWhile q = as.takeWhile q := by
  rw [List.takeWhile_append]
  split
  · next hall =>
    have has : as.takeWhile q = as :=
      (List.takeWhile_prefix q).eq_of_length hall
    rw [List.takeWhile_cons_of_neg (by simp [hq]), List.append_nil, has]
  · rfl

/-- What stands behind a space has no say in the style in front of it. -/
theorem styleLength_append (as bs : List Char) :
    styleLength (as ++ ' ' :: bs) = styleLength as := by
  cases as with
  | nil => rfl
  | cons a rest =>
    by_cases ha : a = '['
    · subst ha
      have hspace : (' ' = ';' || ' ' = '?' || ' '.isDigit) = false := rfl
      have hnumbers := takeWhile_append_space
        (q := fun d => d = ';' || d = '?' || d.isDigit) hspace rest bs
      have hwithin := (List.takeWhile_prefix
        (fun d : Char => d = ';' || d = '?' || d.isDigit) (l := rest)).length_le
      rw [List.cons_append, styleLength, styleLength, hnumbers,
        List.drop_append_of_le_length hwithin]
      cases rest.drop _ with
      | nil => rfl
      | cons e after => rfl
    · rw [List.cons_append, styleLength, styleLength]
      · simpa using ha
      · simpa using ha

/-- Styles are dropped in front of a space and behind it, each for itself. -/
theorem dropStyles_append_space (as bs : List Char) {skip : Nat}
    (h : skip ≤ as.length) :
    dropStyles skip (as ++ ' ' :: bs) =
      dropStyles skip as ++ ' ' :: dropStyles 0 bs := by
  induction as generalizing skip with
  | nil =>
    cases Nat.le_zero.1 h
    rfl
  | cons a as ih =>
    cases skip with
    | succ skip => exact ih (Nat.le_of_succ_le_succ h)
    | zero =>
      rw [List.cons_append, dropStyles, dropStyles, styleLength_append]
      split
      · exact ih (styleLength_le as)
      · rw [ih (Nat.zero_le _), List.cons_append]

/-- What stands behind characters other than escapes loses its styles for
itself. -/
theorem dropStyles_append_of_notMem {as : List Char} (h : escape ∉ as)
    (bs : List Char) : dropStyles 0 (as ++ bs) = as ++ dropStyles 0 bs := by
  induction as with
  | nil => rfl
  | cons a as ih =>
    have ha : a.toNat ≠ 0x1B := by
      intro ha
      have hescape : a = escape := Char.toNat_inj.1 ha
      exact h (hescape ▸ List.mem_cons_self)
    have has : escape ∉ as := fun hmem => h (List.mem_cons_of_mem a hmem)
    rw [List.cons_append, dropStyles, if_neg (by simp [ha]), ih has,
      List.cons_append]

/-! ### Texts -/

/-- Styles do not reach across a space. -/
theorem plain_append_of_space (s : String) {t : String} {cs : List Char}
    (h : t.toList = ' ' :: cs) : plain (s ++ t) = plain s ++ plain t := by
  have hspace : dropStyles 0 (' ' :: cs) = ' ' :: dropStyles 0 cs := rfl
  rw [plain, plain, plain, String.toList_append, h,
    dropStyles_append_space _ _ (Nat.zero_le _), hspace, String.ofList_append]

theorem plain_append_of_notMem {s : String} (h : escape ∉ s.toList)
    (t : String) : plain (s ++ t) = s ++ plain t := by
  rw [plain, plain, String.toList_append, dropStyles_append_of_notMem h,
    String.ofList_append, String.ofList_toList]

/-- A text without escape characters is written as it is. -/
theorem plain_of_notMem {s : String} (h : escape ∉ s.toList) : plain s = s := by
  have hchars := dropStyles_append_of_notMem h []
  rw [List.append_nil, dropStyles, List.append_nil] at hchars
  rw [plain, hchars, String.ofList_toList]

theorem escape_notMem_toString (n : Nat) : escape ∉ (toString n).toList := by
  intro h
  have hdigits : (toString n).toList = Nat.toDigits 10 n :=
    String.toList_ofList
  rw [hdigits] at h
  have hdigit := Nat.isDigit_of_mem_toDigits (by decide) (by decide) h
  exact absurd hdigit (by decide)

/-- What the summary says about the client. -/
def counts (c : Client) : String :=
  " (" ++ (toString c.methods ++ (" methods, " ++
    (toString c.definitions ++ (" models, " ++
      (toString c.enums ++ " enums)")))))

/-- The summary loses nothing but styles in the name of the output directory. -/
theorem plain_summary (out : Path) (paths : List Path) (c : Client) :
    plain (summary out paths c) =
      "Generated " ++ toString paths.length ++ " files in " ++
        plain out.text ++ " (" ++ toString c.methods ++ " methods, " ++
        toString c.definitions ++ " models, " ++
        toString c.enums ++ " enums)" := by
  have hcounts : escape ∉ (counts c).toList := by
    simp only [counts, String.toList_append, List.mem_append,
      escape_notMem_toString, false_or]
    decide
  have hsummary : summary out paths c =
      "Generated " ++ (toString paths.length ++ (" files in " ++
        (out.text ++ counts c))) := by
    unfold summary counts
    repeat rw [String.append_assoc]
  have hspace : (counts c).toList = ' ' :: (counts c).toList.tail := by
    rw [counts, String.toList_append]
    rfl
  rw [hsummary, plain_append_of_notMem (by decide),
    plain_append_of_notMem (escape_notMem_toString _),
    plain_append_of_notMem (by decide),
    plain_append_of_space _ hspace, plain_of_notMem hcounts]
  unfold counts
  repeat rw [String.append_assoc]

end ClientGen.CommandLine
