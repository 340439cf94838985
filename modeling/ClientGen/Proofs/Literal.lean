import ClientGen.Json.Writer

/-!
# Values with a literal form

A value has a literal if it is made of nulls, booleans, numbers and texts by
lists, pairs and mappings, and if the keys of each mapping can be ordered:
texts among texts, numbers among numbers, and null only by itself. This is
`HasLiteral`, and `isSome_literal?_iff` says that the writer has a literal for
exactly these values. Dates, binary data and sets stay out, wherever they occur.
-/

namespace ClientGen.Json

/-- Whether a value is a number in the wide sense, in which booleans are. -/
def isNumber : Value → Bool
  | .bool _ | .int _ | .float _ => true
  | _ => false

/-- Keys that can be ordered among each other: texts only, numbers only, or
null by itself. -/
def OrderedKeys (keys : List Value) : Prop :=
  (∀ k ∈ keys, ∃ s, k = .str s) ∨ (∀ k ∈ keys, isNumber k = true) ∨
    keys = [.null]

/-- A value has a literal form. -/
inductive HasLiteral : Value → Prop
  | null : HasLiteral .null
  | bool (b : Bool) : HasLiteral (.bool b)
  | int (n : Int) : HasLiteral (.int n)
  | float (x : Decimal.Binary64) : HasLiteral (.float x)
  | str (s : String) : HasLiteral (.str s)
  | list {items : List Value} (hitems : ∀ v ∈ items, HasLiteral v) :
      HasLiteral (.list items)
  | pair {k v : Value} (hkey : HasLiteral k) (hvalue : HasLiteral v) :
      HasLiteral (.pair k v)
  | map {entries : Fields} (hvalues : ∀ e ∈ entries, HasLiteral e.2)
      (hkeys : OrderedKeys (entries.map (·.1))) : HasLiteral (.map entries)

/-! ### Keys -/

theorem isSome_rank? (k : Value) :
    (keyBefore?.rank? k).isSome = isNumber k := by
  cases k with
  | float x => cases x <;> rfl
  | _ => rfl

/-- Two keys can be compared if both are texts or both are numbers. -/
theorem isSome_keyBefore?_iff {k l : Value} :
    (keyBefore? k l).isSome = true ↔
      (∃ s t, k = .str s ∧ l = .str t) ∨
        (isNumber k = true ∧ isNumber l = true) := by
  by_cases htexts : ∃ s t, k = .str s ∧ l = .str t
  · obtain ⟨s, t, rfl, rfl⟩ := htexts
    simp [keyBefore?]
  · rw [or_iff_right htexts, ← isSome_rank?, ← isSome_rank?]
    unfold keyBefore?
    split
    · next s t => exact absurd ⟨s, t, rfl, rfl⟩ htexts
    · cases keyBefore?.rank? k <;> cases keyBefore?.rank? l <;> simp

/-- Only texts, numbers and null can name members. -/
theorem isSome_memberName?_iff (k : Value) :
    (memberName? k).isSome = true ↔
      (∃ s, k = .str s) ∨ isNumber k = true ∨ k = .null := by
  cases k <;> simp [memberName?, isNumber]

/-- Members that are texts by name can be compared, and so can those that are
numbers. -/
theorem comparable_of_alike {es : List (Value × List Char)}
    (h : (∀ e ∈ es, ∃ s, e.1 = .str s) ∨ ∀ e ∈ es, isNumber e.1 = true) :
    comparable es = true := by
  induction es with
  | nil => rfl
  | cons e rest ih =>
    simp only [comparable, Bool.and_eq_true, List.all_eq_true]
    simp only [List.forall_mem_cons] at h
    constructor
    · intro e' he'
      rw [isSome_keyBefore?_iff]
      rcases h with ⟨⟨s, hs⟩, hrest⟩ | ⟨hnumber, hrest⟩
      · obtain ⟨t, ht⟩ := hrest e' he'
        exact Or.inl ⟨s, t, hs, ht⟩
      · exact Or.inr ⟨hnumber, hrest e' he'⟩
    · exact ih (h.imp And.right And.right)

private theorem isSome_mapM_iff {α β : Type} {f : α → Option β} {as : List α} :
    (as.mapM f).isSome = true ↔ ∀ a ∈ as, (f a).isSome = true := by
  induction as with
  | nil => simp
  | cons a as ih =>
    rw [List.forall_mem_cons, ← ih, List.mapM_cons]
    cases f a <;> cases as.mapM f <;> simp

/-- All members have a name if all keys can be one. -/
theorem isSome_memberTexts?_iff (es : List (Value × List Char)) :
    (memberTexts? es).isSome = true ↔
      ∀ e ∈ es, (memberName? e.1).isSome = true := by
  have hsorted : ∀ e, e ∈ sortMembers es ↔ e ∈ es := fun _ => List.mem_mergeSort
  rw [memberTexts?, isSome_mapM_iff]
  simp only [hsorted]
  refine forall₂_congr fun e _ => ?_
  cases memberName? e.1 <;> simp

/-- The members of an object can be ordered and named exactly if their keys are
of one kind. -/
theorem orderedKeys_iff (es : List (Value × List Char)) :
    (comparable es = true ∧ (memberTexts? es).isSome = true) ↔
      OrderedKeys (es.map (·.1)) := by
  simp only [isSome_memberTexts?_iff, isSome_memberName?_iff, OrderedKeys,
    List.forall_mem_map]
  constructor
  · rintro ⟨hcomparable, hnames⟩
    cases es with
    | nil => simp
    | cons e rest =>
      -- The first key can be compared with all others, which settles their kind.
      simp only [comparable, Bool.and_eq_true, List.all_eq_true,
        isSome_keyBefore?_iff] at hcomparable
      obtain ⟨hfirst, -⟩ := hcomparable
      rw [List.forall_mem_cons] at hnames
      rcases hnames.1 with ⟨s, hs⟩ | hnumber | hnull
      · refine Or.inl (List.forall_mem_cons.2 ⟨⟨s, hs⟩, fun e' he' => ?_⟩)
        rcases hfirst e' he' with ⟨-, t, -, ht⟩ | ⟨hnumber, -⟩
        · exact ⟨t, ht⟩
        · simp [hs, isNumber] at hnumber
      · refine Or.inr (Or.inl (List.forall_mem_cons.2 ⟨hnumber, fun e' he' => ?_⟩))
        rcases hfirst e' he' with ⟨s, -, hs, -⟩ | ⟨-, hother⟩
        · simp [hs, isNumber] at hnumber
        · exact hother
      · refine Or.inr (Or.inr ?_)
        cases rest with
        | nil => simp [hnull]
        | cons e' others =>
          have hpair := hfirst e' List.mem_cons_self
          simp [hnull, isNumber] at hpair
  · rintro (htexts | hnumbers | hnull)
    · exact ⟨comparable_of_alike (Or.inl htexts), fun e he => Or.inl (htexts e he)⟩
    · exact ⟨comparable_of_alike (Or.inr hnumbers),
        fun e he => Or.inr (Or.inl (hnumbers e he))⟩
    · obtain ⟨e, rfl, hkey⟩ := List.map_eq_singleton_iff.1 hnull
      simp [comparable, hkey]

/-! ### Values -/

theorem keys_entryLiterals? {entries : Fields} {texts : List (Value × List Char)}
    (h : entryLiterals? entries = some texts) :
    texts.map (·.1) = entries.map (·.1) := by
  induction entries generalizing texts with
  | nil =>
    simp only [entryLiterals?, Option.some.injEq] at h
    simp [← h]
  | cons e rest ih =>
    obtain ⟨k, v⟩ := e
    simp only [entryLiterals?, Option.bind_eq_bind, Option.bind_eq_some_iff,
      Option.pure_def, Option.some.injEq] at h
    obtain ⟨t, -, ts, hts, rfl⟩ := h
    simp [ih hts]

/-- A mapping has a literal if its values have one and its keys can be
ordered. -/
theorem isSome_literal?_map_iff (entries : Fields) :
    (literal? (.map entries)).isSome = true ↔
      (entryLiterals? entries).isSome = true ∧
        OrderedKeys (entries.map (·.1)) := by
  cases htexts : entryLiterals? entries with
  | none => simp [literal?, htexts]
  | some texts =>
    rw [← keys_entryLiterals? htexts, ← orderedKeys_iff]
    by_cases hcomparable : comparable texts = true
    · cases hmembers : memberTexts? texts <;>
        simp [literal?, htexts, hcomparable, hmembers]
    · simp [literal?, htexts, hcomparable]

mutual

/-- **Literals.** The writer has a literal for exactly the values that have
one. -/
theorem isSome_literal?_iff :
    (v : Value) → ((literal? v).isSome = true ↔ HasLiteral v)
  | .null => iff_of_true rfl .null
  | .bool b => iff_of_true rfl (.bool b)
  | .int n => iff_of_true rfl (.int n)
  | .float x => iff_of_true rfl (.float x)
  | .str s => iff_of_true rfl (.str s)
  | .bytes _ => iff_of_false nofun nofun
  | .date _ => iff_of_false nofun nofun
  | .timestamp _ => iff_of_false nofun nofun
  | .set _ => iff_of_false nofun nofun
  | .list items => by
    have hitems := isSome_literals?_iff items
    have hlist : (literal? (.list items)).isSome = (literals? items).isSome := by
      cases h : literals? items <;> simp [literal?, h]
    rw [hlist, hitems]
    exact ⟨.list, fun | .list h => h⟩
  | .pair k v => by
    have hkey := isSome_literal?_iff k
    have hvalue := isSome_literal?_iff v
    have hpair : (literal? (.pair k v)).isSome =
        ((literal? k).isSome && (literal? v).isSome) := by
      cases hk : literal? k <;> cases hv : literal? v <;> simp [literal?, hk, hv]
    rw [hpair, Bool.and_eq_true, hkey, hvalue]
    exact ⟨fun h => .pair h.1 h.2, fun | .pair hk hv => ⟨hk, hv⟩⟩
  | .map entries => by
    have hentries := isSome_entryLiterals?_iff entries
    rw [isSome_literal?_map_iff, hentries]
    exact ⟨fun h => .map h.1 h.2, fun | .map hvalues hkeys => ⟨hvalues, hkeys⟩⟩

theorem isSome_literals?_iff :
    (vs : List Value) →
      ((literals? vs).isSome = true ↔ ∀ v ∈ vs, HasLiteral v)
  | [] => by simp [literals?]
  | v :: rest => by
    have hfirst := isSome_literal?_iff v
    have hrest := isSome_literals?_iff rest
    rw [List.forall_mem_cons, ← hfirst, ← hrest]
    cases hv : literal? v <;> cases hvs : literals? rest <;>
      simp [literals?, hv, hvs]

theorem isSome_entryLiterals?_iff :
    (es : List (Value × Value)) →
      ((entryLiterals? es).isSome = true ↔ ∀ e ∈ es, HasLiteral e.2)
  | [] => by simp [entryLiterals?]
  | (k, v) :: rest => by
    have hfirst := isSome_literal?_iff v
    have hrest := isSome_entryLiterals?_iff rest
    rw [List.forall_mem_cons, ← hfirst, ← hrest]
    cases hv : literal? v <;> cases hvs : entryLiterals? rest <;>
      simp [entryLiterals?, hv, hvs]

end

end ClientGen.Json
