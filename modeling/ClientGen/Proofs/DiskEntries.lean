import ClientGen.Disk

/-!
# Entries put one after another

What is put last at a place of a disk stays (`at?_putAll_last`), and where
nothing is put all stays (`at?_putAll_of_forall_ne`). Putting all entries once
more changes nothing, not even the order in which they are listed
(`putAll_putAll`): an entry that is overwritten later does not matter when it
is put again, and one that is not is already there.
-/

namespace ClientGen.Disk

variable {d : Disk}

/-- The disk with entries put at places, one after another. -/
def putAll (d : Disk) (es : List (Place × Entry)) : Disk :=
  es.foldl (fun d e => d.put e.1 e.2) d

@[simp] theorem putAll_nil (d : Disk) : d.putAll [] = d := rfl

@[simp] theorem putAll_cons (d : Disk) (e : Place × Entry)
    (es : List (Place × Entry)) :
    d.putAll (e :: es) = (d.put e.1 e.2).putAll es := rfl

theorem putAll_append (d : Disk) (es fs : List (Place × Entry)) :
    d.putAll (es ++ fs) = (d.putAll es).putAll fs :=
  List.foldl_append

/-- Where nothing is put, all stays. -/
theorem at?_putAll_of_forall_ne (d : Disk) {es : List (Place × Entry)}
    {q : Place} (h : ∀ e ∈ es, e.1 ≠ q) : (d.putAll es).at? q = d.at? q := by
  induction es generalizing d with
  | nil => rfl
  | cons e es ih =>
    obtain ⟨he, hes⟩ := List.forall_mem_cons.1 h
    rw [putAll_cons, ih _ hes, at?_put_of_ne d (Ne.symm he)]

/-- What is put last at a place stays. -/
theorem at?_putAll_last (d : Disk) (before : List (Place × Entry))
    {e : Place × Entry} {after : List (Place × Entry)} (he : e.1.names ≠ [])
    (h : ∀ f ∈ after, f.1 ≠ e.1) :
    (d.putAll (before ++ e :: after)).at? e.1 = some e.2 := by
  rw [putAll_append, putAll_cons, at?_putAll_of_forall_ne _ h,
    at?_put_self _ he]

/-! ### Entries put once more -/

/-- Something is listed for a place. -/
private def Occupied (d : Disk) (q : Place) : Prop := ∃ x ∈ d.entries, x.1 = q

private theorem any_iff {q : Place} :
    (d.entries.any fun x => x.1 == q) = true ↔ d.Occupied q := by
  simp [Occupied]

private theorem put_of_occupied {q : Place} (h : d.Occupied q) (e : Entry) :
    d.put q e = ⟨d.entries.map fun x => if x.1 = q then (q, e) else x⟩ := by
  rw [put, if_pos (any_iff.2 h)]

private theorem put_of_not_occupied {q : Place} (h : ¬ d.Occupied q)
    (e : Entry) : d.put q e = ⟨d.entries ++ [(q, e)]⟩ := by
  rw [put, if_neg (mt any_iff.1 h)]

/-- What is put is the only entry that is listed for its place. -/
private theorem mem_put {q : Place} {e : Entry} {x : Place × Entry} :
    x ∈ (d.put q e).entries ↔ x = (q, e) ∨ x ∈ d.entries ∧ x.1 ≠ q := by
  by_cases hocc : d.Occupied q
  · rw [put_of_occupied hocc, List.mem_map]
    constructor
    · rintro ⟨y, hy, hx⟩
      by_cases hyq : y.1 = q
      · rw [if_pos hyq] at hx
        exact Or.inl hx.symm
      · rw [if_neg hyq] at hx
        subst hx
        exact Or.inr ⟨hy, hyq⟩
    · rintro (rfl | ⟨hx, hxq⟩)
      · obtain ⟨y, hy, hyq⟩ := hocc
        exact ⟨y, hy, if_pos hyq⟩
      · exact ⟨x, hx, if_neg hxq⟩
  · rw [put_of_not_occupied hocc, List.mem_append, List.mem_singleton]
    constructor
    · rintro (hx | hx)
      · exact Or.inr ⟨hx, fun hxq => hocc ⟨x, hx, hxq⟩⟩
      · exact Or.inl hx
    · rintro (hx | ⟨hx, -⟩)
      · exact Or.inr hx
      · exact Or.inl hx

/-- A place is occupied once something is put there, and stays so. -/
private theorem occupied_put {q r : Place} {e : Entry} :
    (d.put r e).Occupied q ↔ q = r ∨ d.Occupied q := by
  constructor
  · rintro ⟨x, hx, rfl⟩
    rcases mem_put.1 hx with rfl | ⟨hx, -⟩
    · exact Or.inl rfl
    · exact Or.inr ⟨x, hx, rfl⟩
  · intro h
    by_cases hqr : q = r
    · exact ⟨(r, e), mem_put.2 (Or.inl rfl), hqr.symm⟩
    · obtain ⟨x, hx, rfl⟩ := h.resolve_left hqr
      exact ⟨x, mem_put.2 (Or.inr ⟨hx, hqr⟩), rfl⟩

/-- Of two entries put at an occupied place, the second one counts. -/
private theorem put_put_self {q : Place} (h : d.Occupied q) (e f : Entry) :
    (d.put q e).put q f = d.put q f := by
  have h' : (d.put q e).Occupied q := occupied_put.2 (Or.inl rfl)
  rw [put_of_occupied h', put_of_occupied h, put_of_occupied h, List.map_map]
  congr 1
  apply List.map_congr_left
  intro x hx
  by_cases hxq : x.1 = q
  · simp [hxq]
  · simp [hxq]

/-- Entries at different places can be put in any order, if one of the places
is occupied. -/
private theorem put_comm {q r : Place} (h : d.Occupied q) (hqr : q ≠ r)
    (e f : Entry) : (d.put q e).put r f = (d.put r f).put q e := by
  have hq : (d.put r f).Occupied q := occupied_put.2 (Or.inr h)
  by_cases hr : d.Occupied r
  · have hr' : (d.put q e).Occupied r := occupied_put.2 (Or.inr hr)
    rw [put_of_occupied hr', put_of_occupied hq, put_of_occupied h,
      put_of_occupied hr, List.map_map, List.map_map]
    congr 1
    apply List.map_congr_left
    intro x hx
    by_cases hxq : x.1 = q
    · simp [hxq, hqr]
    · by_cases hxr : x.1 = r
      · simp [hxr, Ne.symm hqr]
      · simp [hxq, hxr]
  · have hr' : ¬ (d.put q e).Occupied r := by
      intro hocc
      rcases occupied_put.1 hocc with hsame | hocc
      · exact hqr hsame.symm
      · exact hr hocc
    rw [put_of_not_occupied hr', put_of_occupied hq, put_of_occupied h,
      put_of_not_occupied hr]
    simp [Ne.symm hqr]

/-- What was put at an occupied place does not matter if something is put there
later. -/
private theorem putAll_put_of_mem {es : List (Place × Entry)} {q : Place}
    (h : d.Occupied q) (hq : ∃ e ∈ es, e.1 = q) (f : Entry) :
    (d.put q f).putAll es = d.putAll es := by
  induction es generalizing d with
  | nil =>
    obtain ⟨e, he, -⟩ := hq
    cases he
  | cons e es ih =>
    rw [putAll_cons, putAll_cons]
    by_cases heq : e.1 = q
    · rw [heq, put_put_self h]
    · have hrest : ∃ e' ∈ es, e'.1 = q := by
        obtain ⟨e', he', hq'⟩ := hq
        rcases List.mem_cons.1 he' with rfl | he'
        · exact absurd hq' heq
        · exact ⟨e', he', hq'⟩
      rw [put_comm h (Ne.symm heq)]
      exact ih (occupied_put.2 (Or.inr h)) hrest

/-- An entry is the only one that is listed for a place. -/
private structure Holds (d : Disk) (q : Place) (e : Entry) : Prop where
  occupied : d.Occupied q
  only : ∀ x ∈ d.entries, x.1 = q → x = (q, e)

private theorem Holds.put_eq {q : Place} {e : Entry} (h : d.Holds q e) :
    d.put q e = d := by
  rw [put_of_occupied h.occupied]
  have hsame : (d.entries.map fun x => if x.1 = q then (q, e) else x) =
      d.entries.map id := by
    apply List.map_congr_left
    intro x hx
    by_cases hxq : x.1 = q
    · rw [if_pos hxq, h.only x hx hxq, id]
    · rw [if_neg hxq, id]
  rw [hsame, List.map_id]

private theorem holds_put (d : Disk) (q : Place) (e : Entry) :
    (d.put q e).Holds q e where
  occupied := occupied_put.2 (Or.inl rfl)
  only x hx hxq := by
    rcases mem_put.1 hx with hx | ⟨-, hne⟩
    · exact hx
    · exact absurd hxq hne

private theorem Holds.put {q r : Place} {e : Entry} (h : d.Holds q e)
    (hqr : r ≠ q) (f : Entry) : (d.put r f).Holds q e where
  occupied := occupied_put.2 (Or.inr h.occupied)
  only x hx hxq := by
    rcases mem_put.1 hx with rfl | ⟨hx, -⟩
    · exact absurd hxq hqr
    · exact h.only x hx hxq

private theorem Holds.putAll {q : Place} {e : Entry} (h : d.Holds q e)
    {es : List (Place × Entry)} (hes : ∀ f ∈ es, f.1 ≠ q) :
    (d.putAll es).Holds q e := by
  induction es generalizing d with
  | nil => exact h
  | cons f es ih =>
    obtain ⟨hf, hes⟩ := List.forall_mem_cons.1 hes
    exact ih (h.put hf f.2) hes

private theorem Occupied.putAll {q : Place} (h : d.Occupied q)
    (es : List (Place × Entry)) : (d.putAll es).Occupied q := by
  induction es generalizing d with
  | nil => exact h
  | cons e es ih => exact ih (occupied_put.2 (Or.inr h))

/-- Putting all entries once more changes nothing. -/
theorem putAll_putAll (d : Disk) (es : List (Place × Entry)) :
    (d.putAll es).putAll es = d.putAll es := by
  induction es generalizing d with
  | nil => rfl
  | cons e es ih =>
    rw [putAll_cons, putAll_cons]
    by_cases hlater : ∃ f ∈ es, f.1 = e.1
    · -- The first entry is overwritten, so that it does not matter again.
      have hocc : ((d.put e.1 e.2).putAll es).Occupied e.1 :=
        (holds_put d e.1 e.2).occupied.putAll es
      rw [putAll_put_of_mem hocc hlater, ih]
    · -- The first entry stays, so that putting it again changes nothing.
      have hes : ∀ f ∈ es, f.1 ≠ e.1 := by
        intro f hf hsame
        exact hlater ⟨f, hf, hsame⟩
      rw [((holds_put d e.1 e.2).putAll hes).put_eq, ih]

end ClientGen.Disk
