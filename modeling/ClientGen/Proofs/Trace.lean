import Mathlib.Data.List.Forall2
import ClientGen.Trace

/-!
# Steps that agree

Two traced steps agree if they end alike, with the same result or the same
fault, and leave the same table behind whatever table they meet. What they
report on the way may differ. Agreement is respected by everything that steps
are composed of, so that a nested reading of a document can be replaced by a
flat one (`Agree.collect_flatten`).

A bound on the kinds of events that a step can have (`Emits`) is respected by
the same compositions, whether the steps succeed or not.
-/

namespace ClientGen.Traced

variable {α β ι : Type}

/-! ### Lists that correspond -/

/-- In lists that correspond every element of the second has its like in the
first. -/
theorem exists_of_mem_right {R : α → β → Prop} {as : List α} {bs : List β}
    (h : List.Forall₂ R as bs) {b : β} (hb : b ∈ bs) : ∃ a ∈ as, R a b := by
  induction h with
  | nil => cases hb
  | cons hR _ ih =>
    rcases List.mem_cons.1 hb with rfl | hb
    · exact ⟨_, List.mem_cons_self, hR⟩
    · obtain ⟨a, ha, hR⟩ := ih hb
      exact ⟨a, List.mem_cons_of_mem _ ha, hR⟩

/-- In lists that correspond, what corresponds to each other may be asked of
either list. -/
theorem forall_mem_congr {R : α → β → Prop} {P : α → Prop} {Q : β → Prop}
    {as : List α} {bs : List β} (h : List.Forall₂ R as bs)
    (hR : ∀ a b, R a b → (P a ↔ Q b)) :
    (∀ a ∈ as, P a) ↔ ∀ b ∈ bs, Q b := by
  induction h with
  | nil => simp
  | cons hab _ ih => rw [List.forall_mem_cons, List.forall_mem_cons, hR _ _ hab, ih]

/-- Lists correspond if what is made of the one is what is made of the other. -/
theorem map_eq_of_forall₂ {f : α → ι} {g : β → ι} {as : List α} {bs : List β}
    (h : List.Forall₂ (fun a b => f a = g b) as bs) : as.map f = bs.map g := by
  have hmaps : List.Forall₂ (· = ·) (as.map f) (bs.map g) := by
    rw [List.forall₂_map_left_iff, List.forall₂_map_right_iff]
    exact h
  rwa [List.forall₂_eq_eq_eq] at hmaps

/-- A relation within the first of two lists that correspond carries over to
the second. -/
theorem pairwise_of_forall₂ {R : α → β → Prop} {S : α → α → Prop}
    {T : β → β → Prop} {as : List α} {bs : List β} (h : List.Forall₂ R as bs)
    (hS : as.Pairwise S)
    (hT : ∀ {a a' b b'}, R a b → R a' b' → S a a' → T b b') :
    bs.Pairwise T := by
  induction h with
  | nil => exact List.Pairwise.nil
  | cons hab hrest ih =>
    obtain ⟨hhead, htail⟩ := List.pairwise_cons.1 hS
    refine List.pairwise_cons.2 ⟨?_, ih htail⟩
    intro b' hb'
    obtain ⟨a', ha', hR⟩ := exists_of_mem_right hrest hb'
    exact hT hab hR (hhead a' ha')

/-! ### Steps that succeed -/

/-- The end of a composed step. -/
theorem outcome_bind (x : Traced α) (f : α → Traced β) :
    (x >>= f).outcome = x.outcome.bind fun a => (f a).outcome := by
  obtain ⟨events, outcome⟩ := x
  cases outcome with
  | error e => rfl
  | ok a => rfl

/-- A composed step succeeds if both of its parts do. -/
theorem bind_outcome_eq_ok {x : Traced α} {f : α → Traced β} {b : β} :
    (x >>= f).outcome = .ok b ↔
      ∃ a, x.outcome = .ok a ∧ (f a).outcome = .ok b := by
  obtain ⟨events, outcome⟩ := x
  cases outcome with
  | error e => simp
  | ok a => simp

/-- The events of a composed step whose first part succeeds. -/
theorem events_bind {x : Traced α} {a : α} (h : x.outcome = .ok a)
    (f : α → Traced β) : (x >>= f).events = x.events ++ (f a).events := by
  obtain ⟨events, outcome⟩ := x
  subst h
  rfl

/-- Steps succeed together if each one does. -/
theorem collect_outcome_eq_ok {xs : List (Traced α)} {as : List α} :
    (collect xs).outcome = .ok as ↔
      List.Forall₂ (fun x a => x.outcome = .ok a) xs as := by
  induction xs generalizing as with
  | nil => simp [eq_comm]
  | cons x xs ih =>
    rw [collect_cons, bind_outcome_eq_ok, List.forall₂_cons_left_iff]
    constructor
    · rintro ⟨a, ha, h⟩
      obtain ⟨rest, hrest, hcons⟩ := bind_outcome_eq_ok.1 h
      cases hcons
      exact ⟨a, rest, ha, ih.1 hrest, rfl⟩
    · rintro ⟨a, rest, ha, hrest, rfl⟩
      exact ⟨a, ha, bind_outcome_eq_ok.2 ⟨rest, ih.2 hrest, rfl⟩⟩

/-- Steps succeed together exactly if none of them fails. -/
theorem exists_collect_outcome_eq_ok_iff {xs : List (Traced α)} :
    (∃ as, (collect xs).outcome = .ok as) ↔
      ∀ x ∈ xs, ∃ a, x.outcome = .ok a := by
  simp only [collect_outcome_eq_ok]
  induction xs with
  | nil => simp
  | cons x xs ih =>
    rw [List.forall_mem_cons, ← ih]
    constructor
    · rintro ⟨as, h⟩
      obtain ⟨a, rest, ha, hrest, -⟩ := List.forall₂_cons_left_iff.1 h
      exact ⟨⟨a, ha⟩, rest, hrest⟩
    · rintro ⟨⟨a, ha⟩, rest, hrest⟩
      exact ⟨a :: rest, List.Forall₂.cons ha hrest⟩

/-- Steps fail with the fault of the first one that fails. -/
theorem collect_outcome_eq_error {xs : List (Traced α)} {e : Fault}
    (h : (collect xs).outcome = .error e) :
    ∃ before x after, xs = before ++ x :: after ∧
      (∀ y ∈ before, ∃ a, y.outcome = .ok a) ∧ x.outcome = .error e := by
  induction xs with
  | nil => cases h
  | cons x xs ih =>
    rw [collect_cons, outcome_bind] at h
    cases hx : x.outcome with
    | error f =>
      rw [hx] at h
      cases h
      exact ⟨[], x, xs, rfl, fun y hy => absurd hy List.not_mem_nil, hx⟩
    | ok a =>
      rw [hx] at h
      have hrest : (collect xs).outcome = .error e := by
        change (collect xs >>= fun as => Pure.pure (a :: as)).outcome = _ at h
        rw [outcome_bind] at h
        cases hxs : (collect xs).outcome with
        | error f => rw [hxs] at h; exact h
        | ok as => rw [hxs] at h; cases h
      obtain ⟨before, y, after, rfl, hbefore, hy⟩ := ih hrest
      refine ⟨x :: before, y, after, rfl, ?_, hy⟩
      exact List.forall_mem_cons.2 ⟨⟨a, hx⟩, hbefore⟩

/-- The events of steps that all succeed. -/
theorem events_collect {xs : List (Traced α)} {as : List α}
    (h : (collect xs).outcome = .ok as) :
    (collect xs).events = xs.flatMap (·.events) := by
  induction xs generalizing as with
  | nil => rfl
  | cons x xs ih =>
    rw [collect_cons, bind_outcome_eq_ok] at h
    obtain ⟨a, ha, h⟩ := h
    obtain ⟨rest, hrest, -⟩ := bind_outcome_eq_ok.1 h
    rw [collect_cons, events_bind ha, events_bind hrest, ih hrest,
      List.flatMap_cons]
    simp

/-- Where steps end alike one by one, they end alike together. -/
theorem collect_outcome_congr {xs ys : List (Traced α)}
    (h : List.Forall₂ (fun x y => x.outcome = y.outcome) xs ys) :
    (collect xs).outcome = (collect ys).outcome := by
  induction h with
  | nil => rfl
  | cons hxy _ ih =>
    simp only [collect_cons, outcome_bind, hxy, ih]

/-- Steps one after another are those of the first part and then those of the
second. -/
theorem collect_append (xs ys : List (Traced α)) :
    collect (xs ++ ys) =
      collect xs >>= fun as => collect ys >>= fun bs => Pure.pure (as ++ bs) := by
  induction xs with
  | nil =>
    rw [List.nil_append, collect_nil]
    exact (bind_pure (collect ys)).symm
  | cons x xs ih =>
    simp only [List.cons_append, collect_cons, ih, bind_assoc, pure_bind]

/-! ### Kinds of events -/

/-- All events of a step are of a kind, also if the step fails. -/
def Emits (P : Event → Prop) (x : Traced α) : Prop := ∀ e ∈ x.events, P e

theorem Emits.pure (P : Event → Prop) (a : α) :
    (Pure.pure a : Traced α).Emits P := by
  intro e he
  cases he

theorem Emits.ofExcept (P : Event → Prop) (r : Except Fault α) :
    (Traced.ofExcept r).Emits P := by
  intro e he
  cases he

/-- A composed step has the events of its first part and, if that succeeds,
those of the second. -/
theorem Emits.bind {P : Event → Prop} {x : Traced α} {f : α → Traced β}
    (hx : x.Emits P) (hf : ∀ a, (f a).Emits P) : (x >>= f).Emits P := by
  obtain ⟨events, outcome⟩ := x
  cases outcome with
  | error e => exact hx
  | ok a =>
    intro e he
    rcases List.mem_append.1 he with he | he
    · exact hx e he
    · exact hf a e he

theorem Emits.collect {P : Event → Prop} {xs : List (Traced α)}
    (h : ∀ x ∈ xs, x.Emits P) : (collect xs).Emits P := by
  induction xs with
  | nil => exact Emits.pure P []
  | cons x xs ih =>
    have htail := ih fun y hy => h y (List.mem_cons_of_mem x hy)
    rw [collect_cons]
    refine (h x List.mem_cons_self).bind fun a => ?_
    exact htail.bind fun as => Emits.pure P (a :: as)

/-! ### Steps that agree -/

/-- Two steps end alike and leave the same table. -/
structure Agree (x y : Traced α) : Prop where
  outcome : x.outcome = y.outcome
  table : ∀ t, x.tableAfter t = y.tableAfter t

theorem Agree.refl (x : Traced α) : Agree x x := ⟨rfl, fun _ => rfl⟩

theorem Agree.symm {x y : Traced α} (h : Agree x y) : Agree y x :=
  ⟨h.outcome.symm, fun t => (h.table t).symm⟩

theorem Agree.trans {x y z : Traced α} (h : Agree x y) (k : Agree y z) :
    Agree x z :=
  ⟨h.outcome.trans k.outcome, fun t => (h.table t).trans (k.table t)⟩

/-- Steps that agree may be followed by steps that agree. -/
theorem Agree.bind {x y : Traced α} {f g : α → Traced β} (h : Agree x y)
    (hf : ∀ a, Agree (f a) (g a)) : Agree (x >>= f) (y >>= g) := by
  obtain ⟨events, outcome⟩ := x
  obtain ⟨events', outcome'⟩ := y
  obtain ⟨houtcome, htable⟩ := h
  change outcome = outcome' at houtcome
  subst houtcome
  cases outcome with
  | error e => exact ⟨rfl, htable⟩
  | ok a =>
    refine ⟨(hf a).outcome, fun t => ?_⟩
    have hfirst : t.applyAll events = t.applyAll events' := htable t
    show t.applyAll (events ++ (f a).events) =
      t.applyAll (events' ++ (g a).events)
    rw [EnumTable.applyAll_append, EnumTable.applyAll_append, hfirst]
    exact (hf a).table _

/-- Lists of steps that agree one by one agree as a whole. -/
theorem Agree.collect {xs ys : List (Traced α)} (h : List.Forall₂ Agree xs ys) :
    Agree (Traced.collect xs) (Traced.collect ys) := by
  induction h with
  | nil => exact Agree.refl _
  | cons hxy _ ih =>
    rw [collect_cons, collect_cons]
    exact hxy.bind fun a => ih.bind fun as => Agree.refl _

/-- Steps that each agree with a list of steps agree with all of these, one
after another. -/
theorem Agree.collect_flatten (xs : List ι) {f : ι → Traced (List α)}
    {g : ι → List (Traced α)}
    (h : ∀ x ∈ xs, Agree (f x) (Traced.collect (g x))) :
    Agree (Traced.collect (xs.map f) >>= fun as => Pure.pure as.flatten)
      (Traced.collect (xs.flatMap g)) := by
  induction xs with
  | nil => exact Agree.refl _
  | cons x xs ih =>
    have hhead := h x List.mem_cons_self
    have htail := ih fun y hy => h y (List.mem_cons_of_mem x hy)
    rw [List.map_cons, collect_cons, List.flatMap_cons, collect_append]
    simp only [bind_assoc, pure_bind, List.flatten_cons]
    refine hhead.bind fun as => ?_
    have hrest := htail.bind fun bs => Agree.refl (Pure.pure (as ++ bs))
    simpa only [bind_assoc, pure_bind] using hrest

end ClientGen.Traced
