import Mathlib.Data.List.Basic

/-!
# The first of each kind

Names compete for a place: of several things of one name the first is kept,
and what is kept stays in its order. `List.eraseDupsBy r` is this choice, for
any relation `r` that calls two things alike.

This file says what the choice does to a list as a whole. What is kept is
pairwise unlike (`pairwise_eraseDupsBy`); leaving out things of some kinds may
be done before or after (`eraseDupsBy_filter`); to choose by a name is to
choose among the names (`map_eraseDupsBy`); and choosing inside the parts of a
list first does not change the choice in the whole
(`eraseDups_flatMap_eraseDups`).
-/

namespace ClientGen.FirstOfEach

variable {α β : Type} {r : α → α → Bool}

/-- One choice drops from the rest whatever is like the head. Whatever follows
for a list from that rest holds of all lists. -/
theorem choice_induction {motive : List α → Prop} (r : α → α → Bool)
    (nil : motive [])
    (cons : ∀ a as, motive (as.filter fun b => r b a = false) →
      motive (a :: as)) :
    ∀ as, motive as := by
  intro as
  match as with
  | [] => exact nil
  | a :: as => exact cons a as (choice_induction r nil cons _)
termination_by as => as.length
decreasing_by exact Nat.lt_succ_of_le (List.length_filter_le _ as)

/-- What is kept stays in its order. -/
theorem eraseDupsBy_sublist (as : List α) :
    (as.eraseDupsBy r).Sublist as := by
  induction as using choice_induction r with
  | nil => exact List.Sublist.refl []
  | cons a as ih =>
    rw [List.eraseDupsBy_cons]
    exact (ih.trans List.filter_sublist).cons_cons a

/-- Of the things that are kept none is like an earlier one. -/
theorem pairwise_eraseDupsBy (as : List α) :
    (as.eraseDupsBy r).Pairwise fun a b => r b a = false := by
  induction as using choice_induction r with
  | nil => exact List.Pairwise.nil
  | cons a as ih =>
    rw [List.eraseDupsBy_cons, List.pairwise_cons]
    refine ⟨?_, ih⟩
    intro b hb
    have hmem := (eraseDupsBy_sublist _).mem hb
    simpa using (List.mem_filter.1 hmem).2

/-- No name is kept twice. -/
theorem nodup_eraseDups [BEq α] [LawfulBEq α] (as : List α) :
    as.eraseDups.Nodup := by
  refine (pairwise_eraseDupsBy as).imp ?_
  intro a b hba hab
  subst hab
  simp at hba

/-- Leaving out what does not satisfy `p`, which cannot tell like things
apart, may be done before the choice or after it. -/
theorem eraseDupsBy_filter {p : α → Bool}
    (hp : ∀ a b, r b a = true → p b = p a) (as : List α) :
    (as.filter p).eraseDupsBy r = (as.eraseDupsBy r).filter p := by
  induction as using choice_induction r with
  | nil => rfl
  | cons a as ih =>
    rw [List.eraseDupsBy_cons]
    by_cases ha : p a = true
    · rw [List.filter_cons_of_pos ha, List.filter_cons_of_pos ha,
        List.eraseDupsBy_cons, ← ih, List.filter_filter, List.filter_filter]
      simp only [Bool.and_comm]
    · -- What is like the head goes with it, so nothing else is lost.
      have hdrop : (as.filter fun b => decide (r b a = false)).filter p =
          as.filter p := by
        rw [List.filter_filter]
        refine List.filter_congr ?_
        intro b _
        cases hb : r b a with
        | false => simp
        | true => simp [hp a b hb, ha]
      rw [List.filter_cons_of_neg ha, List.filter_cons_of_neg ha, ← ih, hdrop]

/-- Only the things of the list are compared. -/
theorem eraseDupsBy_congr {r' : α → α → Bool} {as : List α}
    (h : ∀ a ∈ as, ∀ b ∈ as, r b a = r' b a) :
    as.eraseDupsBy r = as.eraseDupsBy r' := by
  induction as using choice_induction r with
  | nil => rfl
  | cons a as ih =>
    have hrest : (as.filter fun b => decide (r b a = false)) =
        as.filter fun b => decide (r' b a = false) := by
      refine List.filter_congr ?_
      intro b hb
      rw [h a List.mem_cons_self b (List.mem_cons_of_mem a hb)]
    have hsub : ∀ b ∈ as.filter fun b => decide (r b a = false), b ∈ a :: as := by
      intro b hb
      exact List.mem_cons_of_mem a (List.mem_filter.1 hb).1
    rw [List.eraseDupsBy_cons, List.eraseDupsBy_cons, ← hrest,
      ih fun b hb c hc => h b (hsub b hb) c (hsub c hc)]

/-- One thing more is kept if it is like none that is kept. -/
theorem eraseDupsBy_concat (as : List α) (b : α) :
    (as ++ [b]).eraseDupsBy r =
      if (as.eraseDupsBy r).any (r b) then as.eraseDupsBy r
      else as.eraseDupsBy r ++ [b] := by
  induction as using choice_induction r with
  | nil => rfl
  | cons a as ih =>
    rw [List.cons_append, List.eraseDupsBy_cons, List.eraseDupsBy_cons,
      List.filter_append, List.any_cons]
    cases hb : r b a with
    | true =>
      have hdrop : [b].filter (fun b => decide (r b a = false)) = [] := by
        simp [hb]
      rw [hdrop, List.append_nil, Bool.true_or, if_pos rfl]
    | false =>
      have hkeep : [b].filter (fun b => decide (r b a = false)) = [b] := by
        simp [hb]
      rw [hkeep, ih, Bool.false_or]
      split <;> rfl

/-- To choose by a name is to choose among the names. -/
theorem map_eraseDupsBy {f : β → α} (bs : List β) :
    (bs.eraseDupsBy fun b a => r (f b) (f a)).map f =
      (bs.map f).eraseDupsBy r := by
  induction bs using choice_induction fun b a => r (f b) (f a) with
  | nil => rfl
  | cons b bs ih =>
    rw [List.map_cons, List.eraseDupsBy_cons, List.eraseDupsBy_cons,
      List.map_cons, ih, List.filter_map]
    rfl

section Names

variable [BEq α] [LawfulBEq α]

/-- Names that are chosen once stay as they are. -/
theorem eraseDups_of_nodup {as : List α} (h : as.Nodup) :
    as.eraseDups = as := by
  induction as with
  | nil => rfl
  | cons a as ih =>
    rw [List.nodup_cons] at h
    have hall : as.filter (fun b => !b == a) = as := by
      rw [List.filter_eq_self]
      intro b hb
      have hne : b ≠ a := fun hba => h.1 (hba ▸ hb)
      simpa using hne
    rw [List.eraseDups_cons, hall, ih h.2]

/-- The names of a second part are chosen among those that the first part does
not have. -/
theorem eraseDups_append_eq_filter (as bs : List α) :
    (as ++ bs).eraseDups =
      as.eraseDups ++ bs.eraseDups.filter (fun b => !as.contains b) := by
  have hcongr : ∀ a b : α, (b == a) = true →
      (!as.contains b) = !as.contains a := by
    intro a b h
    rw [beq_iff_eq.1 h]
  rw [List.eraseDups_append]
  exact congrArg _ (eraseDupsBy_filter hcongr bs)

/-- Choosing inside the parts first does not change the choice in the
whole. -/
theorem eraseDups_flatMap_eraseDups (f : β → List α) (bs : List β) :
    (bs.flatMap fun b => (f b).eraseDups).eraseDups =
      (bs.flatMap f).eraseDups := by
  induction bs with
  | nil => rfl
  | cons b bs ih =>
    have hcontains : ∀ a, (f b).eraseDups.contains a = (f b).contains a := by
      intro a
      simp
    rw [List.flatMap_cons, List.flatMap_cons, eraseDups_append_eq_filter,
      eraseDups_append_eq_filter, ih, eraseDups_of_nodup (nodup_eraseDups _)]
    simp only [hcontains]

end Names

end ClientGen.FirstOfEach
