import Mathlib.Algebra.Order.Field.Basic
import Mathlib.Data.List.Forall2
import Mathlib.Tactic.FieldSimp
import Mathlib.Tactic.Linarith
import Mathlib.Tactic.Ring
import ClientGen.Proofs.Value

/-!
# Equal values

Values are compared as keys: numbers by what they are worth whatever their kind,
mappings and sets without regard to order. That this is an equivalence hangs on
two things that every document grants: a number with a fraction is in its one
canonical form, and no two keys of a mapping and no two members of a set are the
same. Values of which this holds, through and through, are called proper.

On proper values `same` is symmetric and transitive (`same_comm`,
`same_trans`). Scalars are compared by one normal form (`same_eq_decide`); for
mappings and sets the point is that an injection between lists of equal length
reaches every element (`exists_of_forall_exists`).
-/

namespace ClientGen

open ClientGen.Decimal

/-! ### Scalars -/

/-- What a scalar is worth when it is compared. -/
inductive Scalar where
  | null
  | number (d : Dyadic)
  | infinity (negative : Bool)
  | nan
  | text (s : String)
  | bytes (data : List UInt8)
  | date (d : Date)
  /-- A point in time, in microseconds, of a clock with or without an offset. -/
  | moment (hasOffset : Bool) (microseconds : Int)
  deriving DecidableEq

namespace Decimal.Binary64

/-- The form in which rounding leaves a number: a finite one has a mantissa of
53 bits, or else the least exponent. -/
def IsCanonical : Binary64 → Prop
  | .finite _ m e =>
    m < 2 ^ 53 ∧ minExponent ≤ e ∧ (2 ^ 52 ≤ m ∨ e = minExponent)
  | _ => True

/-- What a number with a fraction is worth. -/
def scalar : Binary64 → Scalar
  | .nan => .nan
  | .infinity negative => .infinity negative
  | .finite negative m e =>
    .number (Dyadic.ofIntWithPrec (if negative then -(m : Int) else m) (-e))

/-- Of two equal finite numbers in canonical form neither has the smaller
exponent: its mantissa would need a bit more than there are. -/
private theorem exponent_le {m n : Nat} {e f : Int} (hm : m < 2 ^ 53)
    (he : minExponent ≤ e) (hn : 2 ^ 52 ≤ n ∨ f = minExponent)
    (h : (m : Rat) * 2 ^ e = n * 2 ^ f) : f ≤ e := by
  by_contra hlt
  have hbig : 2 ^ 52 ≤ n := by
    rcases hn with hn | hn
    · exact hn
    · omega
  obtain ⟨k, hk⟩ : ∃ k : Nat, f = e + ((k + 1 : Nat) : Int) :=
    ⟨(f - e - 1).toNat, by omega⟩
  have hpos : (0 : Rat) < 2 ^ e := zpow_pos (by norm_num) e
  have hsplit : (2 : Rat) ^ f = 2 ^ (k + 1) * 2 ^ e := by
    rw [hk, zpow_add₀ (by norm_num), zpow_natCast, mul_comm]
  rw [hsplit, ← mul_assoc] at h
  have hsame : (m : Rat) = n * 2 ^ (k + 1) := mul_right_cancel₀ hpos.ne' h
  have hnat : m = n * 2 ^ (k + 1) := by exact_mod_cast hsame
  have htwo : 2 ≤ 2 ^ (k + 1) := by
    have hone := Nat.one_le_two_pow (n := k)
    rw [pow_succ]
    omega
  have hlarge := Nat.mul_le_mul hbig htwo
  omega

private theorem abs_signed (negative : Bool) (m : Nat) (e : Int) :
    |(((if negative then -(m : Int) else m) : Int) : Rat) * 2 ^ e| =
      m * 2 ^ e := by
  have hpos : (0 : Rat) < 2 ^ e := zpow_pos (by norm_num) e
  rw [abs_mul, abs_of_pos hpos]
  cases negative <;> simp

private theorem scalar_finite_eq_iff {s t : Bool} {m n : Nat} {e f : Int} :
    (finite s m e).scalar = (finite t n f).scalar ↔
      (((if s then -(m : Int) else m) : Int) : Rat) * 2 ^ e =
        (((if t then -(n : Int) else n) : Int) : Rat) * 2 ^ f := by
  rw [scalar, scalar, Scalar.number.injEq, ← Dyadic.toRat_inj,
    Dyadic.toRat_ofIntWithPrec_eq_mul_two_pow,
    Dyadic.toRat_ofIntWithPrec_eq_mul_two_pow, neg_neg, neg_neg]

/-- Finite numbers in canonical form are worth the same if they are the same,
or two zeros. -/
private theorem finite_same_iff {s t : Bool} {m n : Nat} {e f : Int}
    (hx : (finite s m e).IsCanonical) (hy : (finite t n f).IsCanonical) :
    ((finite s m e).same (finite t n f) = true) ↔
      (finite s m e).scalar = (finite t n f).scalar := by
  obtain ⟨hm, he, hme⟩ := hx
  obtain ⟨hn, hf, hnf⟩ := hy
  rw [scalar_finite_eq_iff]
  have hpos : ∀ k : Int, (0 : Rat) < 2 ^ k := fun k => zpow_pos (by norm_num) k
  constructor
  · intro h
    rw [same, Bool.or_eq_true, Bool.and_eq_true, beq_iff_eq] at h
    rcases h with ⟨hzero, hzero'⟩ | h
    · have hm0 : m = 0 := by simpa [isZero] using hzero
      have hn0 : n = 0 := by simpa [isZero] using hzero'
      simp [hm0, hn0]
    · cases h
      rfl
  · intro h
    have habs : (m : Rat) * 2 ^ e = n * 2 ^ f := by
      rw [← abs_signed s m e, ← abs_signed t n f, h]
    have hexponent : e = f :=
      Int.le_antisymm (exponent_le hn hf hme habs.symm)
        (exponent_le hm he hnf habs)
    subst hexponent
    have hsigned := mul_right_cancel₀ (hpos e).ne' h
    have hmantissa : (m : Rat) = n := mul_right_cancel₀ (hpos e).ne' habs
    have hmn : m = n := by exact_mod_cast hmantissa
    subst hmn
    have hint : (if s then -(m : Int) else m) = if t then -(m : Int) else m := by
      exact_mod_cast hsigned
    rw [same, Bool.or_eq_true, Bool.and_eq_true, beq_iff_eq]
    by_cases hm0 : m = 0
    · left
      simp [isZero, hm0]
    · right
      cases s <;> cases t <;> simp at hint ⊢ <;> omega

/-- In canonical form numbers are the same if they are worth the same. -/
theorem same_eq_decide {x y : Binary64} (hx : x.IsCanonical)
    (hy : y.IsCanonical) : x.same y = decide (x.scalar = y.scalar) := by
  cases x with
  | finite s m e =>
    cases y with
    | finite t n f =>
      rw [Bool.eq_iff_iff, decide_eq_true_iff]
      exact finite_same_iff hx hy
    | _ => simp [same, scalar, isZero]
  | _ => cases y <;> simp [same, scalar, isZero, beq_eq_decide]

end Decimal.Binary64

namespace Value

/-- What a value is worth when it is compared, if it is a scalar. -/
def scalar? : Value → Option Scalar
  | .null => some .null
  | .bool b => some (.number (Dyadic.ofIntWithPrec (if b then 1 else 0) 0))
  | .int n => some (.number (Dyadic.ofIntWithPrec n 0))
  | .float x => some x.scalar
  | .str s => some (.text s)
  | .bytes data => some (.bytes data)
  | .date d => some (.date d)
  | .timestamp t => some (.moment t.offset.isSome
      (t.localMicroseconds - t.offset.getD 0 * 60000000))
  | _ => none

mutual

/-- Numbers are in canonical form, and keys and members distinct, through and
through. -/
def Proper : Value → Prop
  | .float x => x.IsCanonical
  | .list items => ProperList items
  | .pair k v => Proper k ∧ Proper v
  | .map entries =>
    ProperEntries entries ∧ entries.Pairwise fun e f => same e.1 f.1 = false
  | .set members =>
    ProperList members ∧ members.Pairwise fun x y => same x y = false
  | _ => True

/-- All items of a list are proper. -/
def ProperList : List Value → Prop
  | [] => True
  | v :: rest => Proper v ∧ ProperList rest

/-- All keys and values of a mapping are proper. -/
def ProperEntries : List (Value × Value) → Prop
  | [] => True
  | (k, v) :: rest => (Proper k ∧ Proper v) ∧ ProperEntries rest

end

theorem properList_iff {vs : List Value} :
    ProperList vs ↔ ∀ v ∈ vs, v.Proper := by
  induction vs with
  | nil => simp [ProperList]
  | cons v vs ih => simp [ProperList, ih]

theorem properEntries_iff {es : List (Value × Value)} :
    ProperEntries es ↔ ∀ e ∈ es, e.1.Proper ∧ e.2.Proper := by
  induction es with
  | nil => simp [ProperEntries]
  | cons e es ih =>
    obtain ⟨k, v⟩ := e
    rw [ProperEntries, ih, List.forall_mem_cons]

theorem sameList_iff {xs ys : List Value} :
    sameList xs ys = true ↔ List.Forall₂ (fun x y => same x y = true) xs ys := by
  induction xs generalizing ys with
  | nil => cases ys <;> simp [sameList]
  | cons x xs ih =>
    cases ys with
    | nil => simp [sameList]
    | cons y ys => simp [sameList, ih]

theorem entriesWithin_iff {es fs : List (Value × Value)} :
    entriesWithin es fs = true ↔
      ∀ e ∈ es, ∃ f ∈ fs, same e.1 f.1 = true ∧ same e.2 f.2 = true := by
  induction es with
  | nil => simp [entriesWithin]
  | cons e es ih =>
    obtain ⟨k, v⟩ := e
    rw [entriesWithin, Bool.and_eq_true, ih, List.any_eq_true,
      List.forall_mem_cons]
    simp only [Bool.and_eq_true]

theorem membersWithin_iff {xs ys : List Value} :
    membersWithin xs ys = true ↔ ∀ x ∈ xs, ∃ y ∈ ys, same x y = true := by
  induction xs with
  | nil => simp [membersWithin]
  | cons x xs ih =>
    rw [membersWithin, Bool.and_eq_true, ih, List.any_eq_true,
      List.forall_mem_cons]

/-! ### Comparing by kind -/

private theorem same_moment (t u : Timestamp) :
    t.same u = decide (Scalar.moment t.offset.isSome
        (t.localMicroseconds - t.offset.getD 0 * 60000000) =
      Scalar.moment u.offset.isSome
        (u.localMicroseconds - u.offset.getD 0 * 60000000)) := by
  unfold Timestamp.same
  cases t.offset <;> cases u.offset <;> simp [beq_eq_decide]

private theorem same_float (x : Binary64) {w : Value}
    (hw : ∀ y, w ≠ .float y) {b : Scalar} (hb : w.scalar? = some b) :
    same (.float x) w = decide (x.scalar = b) ∧
      same w (.float x) = decide (b = x.scalar) := by
  cases w with
  | float y => exact absurd rfl (hw y)
  | list items => cases hb
  | pair k v => cases hb
  | map entries => cases hb
  | set members => cases hb
  | _ =>
    cases hb
    cases x <;>
      simp [same, number?, Binary64.toDyadic?, Binary64.scalar, beq_eq_decide]

/-- Scalars are the same if they are worth the same. -/
theorem same_eq_decide {v w : Value} (hv : v.Proper) (hw : w.Proper)
    {a b : Scalar} (ha : v.scalar? = some a) (hb : w.scalar? = some b) :
    same v w = decide (a = b) := by
  by_cases hfloat : (∃ x, v = .float x) ∨ ∃ y, w = .float y
  · rcases hfloat with ⟨x, rfl⟩ | ⟨y, rfl⟩
    · cases ha
      by_cases hother : ∃ y, w = .float y
      · obtain ⟨y, rfl⟩ := hother
        cases hb
        rw [same]
        exact Binary64.same_eq_decide hv hw
      · exact (same_float x (fun y hy => hother ⟨y, hy⟩) hb).1
    · cases hb
      by_cases hother : ∃ x, v = .float x
      · obtain ⟨x, rfl⟩ := hother
        cases ha
        rw [same]
        exact Binary64.same_eq_decide hv hw
      · exact (same_float y (fun x hx => hother ⟨x, hx⟩) ha).2
  · have hv' : ∀ x, v ≠ .float x := fun x hx => hfloat (Or.inl ⟨x, hx⟩)
    have hw' : ∀ y, w ≠ .float y := fun y hy => hfloat (Or.inr ⟨y, hy⟩)
    cases v <;> cases w <;> cases ha <;> cases hb <;>
      simp_all [same, number?, same_moment, beq_eq_decide]

/-- A scalar is not the same as what is none. -/
private theorem same_of_scalar {v w : Value} {a : Scalar}
    (ha : v.scalar? = some a) (hsame : same v w = true ∨ same w v = true) :
    ∃ b, w.scalar? = some b := by
  cases v <;> cases w <;> simp_all [same, number?, scalar?]

private theorem same_list_iff {xs : List Value} {w : Value} :
    same (.list xs) w = true ↔ ∃ ys, w = .list ys ∧
      List.Forall₂ (fun x y => same x y = true) xs ys := by
  cases w <;> simp [same, number?, sameList_iff]

private theorem same_pair_iff {k v w : Value} :
    same (.pair k v) w = true ↔ ∃ l u, w = .pair l u ∧
      same k l = true ∧ same v u = true := by
  cases w <;> simp [same, number?]

private theorem same_map_iff {es : List (Value × Value)} {w : Value} :
    same (.map es) w = true ↔ ∃ fs, w = .map fs ∧ es.length = fs.length ∧
      ∀ e ∈ es, ∃ f ∈ fs, same e.1 f.1 = true ∧ same e.2 f.2 = true := by
  cases w <;> simp [same, number?, entriesWithin_iff]

private theorem same_set_iff {xs : List Value} {w : Value} :
    same (.set xs) w = true ↔ ∃ ys, w = .set ys ∧ xs.length = ys.length ∧
      ∀ x ∈ xs, ∃ y ∈ ys, same x y = true := by
  cases w <;> simp [same, number?, membersWithin_iff]

/-! ### Equivalence -/

/-- If each element of a list is related to one of a list of equal length, and
no two to the same one, then every element of the other list is reached. -/
private theorem exists_of_forall_exists {α β : Type} {R : α → β → Prop}
    {as : List α} {bs : List β} (hlength : as.length = bs.length)
    (hto : ∀ a ∈ as, ∃ b ∈ bs, R a b)
    (honce : as.Pairwise fun a a' => ∀ b ∈ bs, R a b → ¬ R a' b) :
    ∀ b ∈ bs, ∃ a ∈ as, R a b := by
  induction as generalizing bs with
  | nil =>
    intro b hb
    rw [List.length_eq_zero_iff.1 hlength.symm] at hb
    cases hb
  | cons a as ih =>
    obtain ⟨b₀, hb₀, hab₀⟩ := hto a List.mem_cons_self
    obtain ⟨before, after, rfl⟩ := List.append_of_mem hb₀
    rw [List.pairwise_cons] at honce
    have hrest : (before ++ after).Sublist (before ++ b₀ :: after) :=
      (List.Sublist.refl before).append (List.sublist_cons_self b₀ after)
    have hlength' : as.length = (before ++ after).length := by
      simp only [List.length_append, List.length_cons] at hlength ⊢
      omega
    -- The element that the head reached is out of reach for all others.
    have hto' : ∀ a' ∈ as, ∃ b ∈ before ++ after, R a' b := by
      intro a' ha'
      obtain ⟨b, hb, hab⟩ := hto a' (List.mem_cons_of_mem a ha')
      have hne : b ≠ b₀ := by
        rintro rfl
        exact honce.1 a' ha' b hb hab₀ hab
      refine ⟨b, ?_, hab⟩
      rw [List.mem_append, List.mem_cons] at hb
      rw [List.mem_append]
      rcases hb with hb | rfl | hb
      · exact Or.inl hb
      · exact absurd rfl hne
      · exact Or.inr hb
    have honce' : as.Pairwise fun a a' =>
        ∀ b ∈ before ++ after, R a b → ¬ R a' b :=
      honce.2.imp fun h b hb => h b (hrest.mem hb)
    intro b hb
    by_cases hhead : b = b₀
    · subst hhead
      exact ⟨a, List.mem_cons_self, hab₀⟩
    · have hb' : b ∈ before ++ after := by
        rw [List.mem_append, List.mem_cons] at hb
        rw [List.mem_append]
        rcases hb with hb | rfl | hb
        · exact Or.inl hb
        · exact absurd rfl hhead
        · exact Or.inr hb
      obtain ⟨a', ha', hab⟩ := ih hlength' hto' honce' b hb'
      exact ⟨a', List.mem_cons_of_mem a ha', hab⟩

/-- On the proper values below a size `same` is an equivalence. -/
structure EquivalentBelow (n : Nat) : Prop where
  symm : ∀ v w, sizeOf v < n → sizeOf w < n → v.Proper → w.Proper →
    same v w = true → same w v = true
  trans : ∀ u v w, sizeOf u < n → sizeOf v < n → sizeOf w < n →
    u.Proper → v.Proper → w.Proper →
    same u v = true → same v w = true → same u w = true

private theorem size_item {x : Value} {xs : List Value} (h : x ∈ xs) :
    sizeOf x < sizeOf xs := List.sizeOf_lt_of_mem h

private theorem size_entry {e : Value × Value} {es : List (Value × Value)}
    (h : e ∈ es) : sizeOf e.1 < sizeOf es ∧ sizeOf e.2 < sizeOf es := by
  have hentry := List.sizeOf_lt_of_mem h
  obtain ⟨k, v⟩ := e
  rw [Prod.mk.sizeOf_spec] at hentry
  constructor <;> dsimp only <;> omega

private theorem forall₂_symm {α : Type} {R : α → α → Prop} {xs ys : List α}
    (h : List.Forall₂ R xs ys) (hR : ∀ x ∈ xs, ∀ y ∈ ys, R x y → R y x) :
    List.Forall₂ R ys xs := by
  induction h with
  | nil => exact List.Forall₂.nil
  | cons hxy _ ih =>
    refine List.Forall₂.cons
      (hR _ List.mem_cons_self _ List.mem_cons_self hxy) (ih ?_)
    intro x hx y hy
    exact hR x (List.mem_cons_of_mem _ hx) y (List.mem_cons_of_mem _ hy)

private theorem forall₂_trans {α : Type} {R : α → α → Prop}
    {xs ys zs : List α} (h : List.Forall₂ R xs ys) (k : List.Forall₂ R ys zs)
    (hR : ∀ x ∈ xs, ∀ y ∈ ys, ∀ z ∈ zs, R x y → R y z → R x z) :
    List.Forall₂ R xs zs := by
  induction h generalizing zs with
  | nil =>
    cases k
    exact List.Forall₂.nil
  | cons hxy _ ih =>
    cases k with
    | cons hyz k =>
      refine List.Forall₂.cons (hR _ List.mem_cons_self _ List.mem_cons_self _
        List.mem_cons_self hxy hyz) (ih k ?_)
      intro x hx y hy z hz
      exact hR x (List.mem_cons_of_mem _ hx) y (List.mem_cons_of_mem _ hy) z
        (List.mem_cons_of_mem _ hz)

/-- Elements with distinct keys are not related to the same one: their keys
would be the same then. -/
private theorem pairwise_once {α : Type} {n : Nat} (ih : EquivalentBelow n)
    (key : α → Value) {as bs : List α}
    (has : ∀ a ∈ as, sizeOf (key a) < n ∧ (key a).Proper)
    (hbs : ∀ b ∈ bs, sizeOf (key b) < n ∧ (key b).Proper)
    (hdistinct : as.Pairwise fun a a' => same (key a) (key a') = false) :
    as.Pairwise fun a a' => ∀ b ∈ bs, same (key a) (key b) = true →
      ¬ same (key a') (key b) = true := by
  refine hdistinct.imp_of_mem ?_
  intro a a' ha ha' hkeys b hb hab hab'
  obtain ⟨hsize, hproper⟩ := has a ha
  obtain ⟨hsize', hproper'⟩ := has a' ha'
  obtain ⟨hsizeb, hproperb⟩ := hbs b hb
  have hback := ih.symm _ _ hsize' hsizeb hproper' hproperb hab'
  have hsame := ih.trans _ _ _ hsize hsizeb hsize' hproper hproperb hproper'
    hab hback
  rw [hkeys] at hsame
  cases hsame

private theorem symm_step {n : Nat} (ih : EquivalentBelow n) {v w : Value}
    (hv : sizeOf v < n + 1) (hw : sizeOf w < n + 1) (hpv : v.Proper)
    (hpw : w.Proper) (h : same v w = true) : same w v = true := by
  cases hscalar : v.scalar? with
  | some a =>
    obtain ⟨b, hb⟩ := same_of_scalar hscalar (Or.inl h)
    rw [same_eq_decide hpv hpw hscalar hb, decide_eq_true_iff] at h
    rw [same_eq_decide hpw hpv hb hscalar, decide_eq_true_iff, h]
  | none =>
    cases v with
    | list xs =>
      obtain ⟨ys, rfl, hsame⟩ := same_list_iff.1 h
      rw [Value.list.sizeOf_spec] at hv hw
      rw [Proper, properList_iff] at hpv hpw
      refine same_list_iff.2 ⟨xs, rfl, forall₂_symm hsame ?_⟩
      intro x hx y hy hxy
      have hsx := size_item hx
      have hsy := size_item hy
      exact ih.symm x y (by omega) (by omega) (hpv x hx) (hpw y hy) hxy
    | pair k u =>
      obtain ⟨l, t, rfl, hkl, hut⟩ := same_pair_iff.1 h
      rw [Value.pair.sizeOf_spec] at hv hw
      rw [Proper] at hpv hpw
      have hlk := ih.symm k l (by omega) (by omega) hpv.1 hpw.1 hkl
      have htu := ih.symm u t (by omega) (by omega) hpv.2 hpw.2 hut
      exact same_pair_iff.2 ⟨k, u, rfl, hlk, htu⟩
    | map es =>
      obtain ⟨fs, rfl, hlength, hto⟩ := same_map_iff.1 h
      rw [Value.map.sizeOf_spec] at hv hw
      rw [Proper, properEntries_iff] at hpv hpw
      have hkeys := pairwise_once ih Prod.fst
        (fun e he => ⟨by have := size_entry he; omega, (hpv.1 e he).1⟩)
        (fun f hf => ⟨by have := size_entry hf; omega, (hpw.1 f hf).1⟩) hpv.2
      have honce : es.Pairwise fun e e' => ∀ f ∈ fs,
          (same e.1 f.1 = true ∧ same e.2 f.2 = true) →
            ¬ (same e'.1 f.1 = true ∧ same e'.2 f.2 = true) :=
        hkeys.imp fun h f hf hef hef' => h f hf hef.1 hef'.1
      refine same_map_iff.2 ⟨es, rfl, hlength.symm, ?_⟩
      intro f hf
      obtain ⟨e, he, hkey, hvalue⟩ :=
        exists_of_forall_exists hlength hto honce f hf
      have hse := size_entry he
      have hsf := size_entry hf
      exact ⟨e, he,
        ih.symm e.1 f.1 (by omega) (by omega) (hpv.1 e he).1 (hpw.1 f hf).1 hkey,
        ih.symm e.2 f.2 (by omega) (by omega) (hpv.1 e he).2 (hpw.1 f hf).2
          hvalue⟩
    | set xs =>
      obtain ⟨ys, rfl, hlength, hto⟩ := same_set_iff.1 h
      rw [Value.set.sizeOf_spec] at hv hw
      rw [Proper, properList_iff] at hpv hpw
      have honce := pairwise_once ih id
        (fun x hx => ⟨by have := size_item hx; simp only [id]; omega,
          hpv.1 x hx⟩)
        (fun y hy => ⟨by have := size_item hy; simp only [id]; omega,
          hpw.1 y hy⟩) hpv.2
      refine same_set_iff.2 ⟨xs, rfl, hlength.symm, ?_⟩
      intro y hy
      obtain ⟨x, hx, hxy⟩ := exists_of_forall_exists hlength hto honce y hy
      have hsx := size_item hx
      have hsy := size_item hy
      exact ⟨x, hx, ih.symm x y (by omega) (by omega) (hpv.1 x hx) (hpw.1 y hy)
        hxy⟩
    | _ => cases hscalar

private theorem trans_step {n : Nat} (ih : EquivalentBelow n) {u v w : Value}
    (hu : sizeOf u < n + 1) (hv : sizeOf v < n + 1) (hw : sizeOf w < n + 1)
    (hpu : u.Proper) (hpv : v.Proper) (hpw : w.Proper)
    (h : same u v = true) (k : same v w = true) : same u w = true := by
  cases hscalar : u.scalar? with
  | some a =>
    obtain ⟨b, hb⟩ := same_of_scalar hscalar (Or.inl h)
    obtain ⟨c, hc⟩ := same_of_scalar hb (Or.inl k)
    rw [same_eq_decide hpu hpv hscalar hb, decide_eq_true_iff] at h
    rw [same_eq_decide hpv hpw hb hc, decide_eq_true_iff] at k
    rw [same_eq_decide hpu hpw hscalar hc, decide_eq_true_iff, h, k]
  | none =>
    cases u with
    | list xs =>
      obtain ⟨ys, rfl, hxy⟩ := same_list_iff.1 h
      obtain ⟨zs, rfl, hyz⟩ := same_list_iff.1 k
      rw [Value.list.sizeOf_spec] at hu hv hw
      rw [Proper, properList_iff] at hpu hpv hpw
      refine same_list_iff.2 ⟨zs, rfl, forall₂_trans hxy hyz ?_⟩
      intro x hx y hy z hz
      have hsx := size_item hx
      have hsy := size_item hy
      have hsz := size_item hz
      exact ih.trans x y z (by omega) (by omega) (by omega) (hpu x hx)
        (hpv y hy) (hpw z hz)
    | pair i s =>
      obtain ⟨j, t, rfl, hij, hst⟩ := same_pair_iff.1 h
      obtain ⟨l, r, rfl, hjl, htr⟩ := same_pair_iff.1 k
      rw [Value.pair.sizeOf_spec] at hu hv hw
      rw [Proper] at hpu hpv hpw
      have hil := ih.trans i j l (by omega) (by omega) (by omega) hpu.1 hpv.1
        hpw.1 hij hjl
      have hsr := ih.trans s t r (by omega) (by omega) (by omega) hpu.2 hpv.2
        hpw.2 hst htr
      exact same_pair_iff.2 ⟨l, r, rfl, hil, hsr⟩
    | map es =>
      obtain ⟨fs, rfl, hlength, hto⟩ := same_map_iff.1 h
      obtain ⟨gs, rfl, hlength', hto'⟩ := same_map_iff.1 k
      rw [Value.map.sizeOf_spec] at hu hv hw
      rw [Proper, properEntries_iff] at hpu hpv hpw
      refine same_map_iff.2 ⟨gs, rfl, hlength.trans hlength', ?_⟩
      intro e he
      obtain ⟨f, hf, hkey, hvalue⟩ := hto e he
      obtain ⟨g, hg, hkey', hvalue'⟩ := hto' f hf
      have hse := size_entry he
      have hsf := size_entry hf
      have hsg := size_entry hg
      exact ⟨g, hg,
        ih.trans e.1 f.1 g.1 (by omega) (by omega) (by omega) (hpu.1 e he).1
          (hpv.1 f hf).1 (hpw.1 g hg).1 hkey hkey',
        ih.trans e.2 f.2 g.2 (by omega) (by omega) (by omega) (hpu.1 e he).2
          (hpv.1 f hf).2 (hpw.1 g hg).2 hvalue hvalue'⟩
    | set xs =>
      obtain ⟨ys, rfl, hlength, hto⟩ := same_set_iff.1 h
      obtain ⟨zs, rfl, hlength', hto'⟩ := same_set_iff.1 k
      rw [Value.set.sizeOf_spec] at hu hv hw
      rw [Proper, properList_iff] at hpu hpv hpw
      refine same_set_iff.2 ⟨zs, rfl, hlength.trans hlength', ?_⟩
      intro x hx
      obtain ⟨y, hy, hxy⟩ := hto x hx
      obtain ⟨z, hz, hyz⟩ := hto' y hy
      have hsx := size_item hx
      have hsy := size_item hy
      have hsz := size_item hz
      exact ⟨z, hz, ih.trans x y z (by omega) (by omega) (by omega)
        (hpu.1 x hx) (hpv.1 y hy) (hpw.1 z hz) hxy hyz⟩
    | _ => cases hscalar

private theorem equivalentBelow (n : Nat) : EquivalentBelow n := by
  induction n with
  | zero =>
    exact ⟨fun v w hv => absurd hv (Nat.not_lt_zero _),
      fun u v w hu => absurd hu (Nat.not_lt_zero _)⟩
  | succ n ih =>
    exact ⟨fun v w hv hw => symm_step ih hv hw,
      fun u v w hu hv hw => trans_step ih hu hv hw⟩

/-- On proper values it does not matter which one is compared with which. -/
theorem same_comm {v w : Value} (hv : v.Proper) (hw : w.Proper) :
    same v w = same w v := by
  have ih := equivalentBelow (sizeOf v + sizeOf w + 1)
  have hsv : sizeOf v < sizeOf v + sizeOf w + 1 := by omega
  have hsw : sizeOf w < sizeOf v + sizeOf w + 1 := by omega
  rw [Bool.eq_iff_iff]
  exact ⟨ih.symm v w hsv hsw hv hw, ih.symm w v hsw hsv hw hv⟩

/-- What is the same as the same proper value is the same. -/
theorem same_trans {u v w : Value} (hu : u.Proper) (hv : v.Proper)
    (hw : w.Proper) (h : same u v = true) (k : same v w = true) :
    same u w = true := by
  have ih := equivalentBelow (sizeOf u + sizeOf v + sizeOf w + 1)
  exact ih.trans u v w (by omega) (by omega) (by omega) hu hv hw h k

/-- On proper values it does not matter which one is held against which. -/
theorem equals_comm {v w : Value} (hv : v.Proper) (hw : w.Proper) :
    v.equals w = w.equals v := by
  rw [equals, equals, same_comm hv hw, Bool.and_comm v.isNaN]

private theorem isNaN_iff {v : Value} :
    v.isNaN = true ↔ v.scalar? = some .nan := by
  cases v with
  | float x => cases x <;> simp [isNaN, Binary64.isNaN, scalar?, Binary64.scalar]
  | _ => simp [isNaN, scalar?]

private theorem isNaN_of_same {v w : Value} (hv : v.Proper) (hw : w.Proper)
    (h : same v w = true) (hnan : v.isNaN = true) : w.isNaN = true := by
  have hscalar := isNaN_iff.1 hnan
  obtain ⟨b, hb⟩ := same_of_scalar hscalar (Or.inl h)
  rw [same_eq_decide hv hw hscalar hb, decide_eq_true_iff] at h
  rw [isNaN_iff, hb, h]

/-- Values that equal the same proper value equal each other. -/
theorem equals_of_equals {u v w : Value} (hu : u.Proper) (hv : v.Proper)
    (hw : w.Proper) (h : u.equals w = true) (k : v.equals w = true) :
    u.equals v = true := by
  rw [equals, Bool.and_eq_true] at h k
  have hback : same w v = true := by rw [same_comm hw hv, k.1]
  have hsame := same_trans hu hw hv h.1 hback
  rw [equals, hsame, Bool.true_and]
  cases hnan : u.isNaN with
  | false => rfl
  | true =>
    have hnan' := isNaN_of_same hu hw h.1 hnan
    have hno := h.2
    rw [hnan, hnan'] at hno
    cases hno

end Value

end ClientGen
