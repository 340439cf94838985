import ClientGen.Value.Text

/-!
# Values and the fields of mappings

Small facts that are used wherever a document is looked into: texts are equal
as names if they are the same text, and a mapping whose values are changed one
by one, or in one field only (`update`), has the changed values in its fields.
-/

namespace ClientGen

namespace Value

/-- A value is a text or none. -/
theorem text_or_none (v : Value) : (∃ s, v = .str s) ∨ v.text? = none := by
  cases v with
  | str s => exact Or.inl ⟨s, rfl⟩
  | _ => exact Or.inr rfl

theorem isText_iff {v : Value} {s : String} : v.isText s = true ↔ v = .str s := by
  cases v <;> simp [isText]

@[simp] theorem text_str (s : String) : (Value.str s).text = s := by
  simp [text]

@[simp] theorem equals_str (a b : String) :
    (Value.str a).equals (.str b) = (a == b) := by
  simp [equals, same, isNaN]

/-- Nothing but a text equals it. -/
theorem equals_str_iff {v : Value} {s : String} :
    v.equals (.str s) = true ↔ v = .str s := by
  cases v with
  | str t => simp [equals, same, isNaN]
  | _ => simp [equals, same, number?, isNaN]

theorem str_equals_iff {v : Value} {s : String} :
    (Value.str s).equals v = true ↔ v = .str s := by
  cases v with
  | str t => rw [equals_str, beq_iff_eq, str.injEq, eq_comm]
  | _ => simp [equals, same, number?, isNaN]

/-- A value with its entries changed, if it is a mapping. -/
def mapFields (f : Fields → Fields) : Value → Value
  | .map entries => .map (f entries)
  | v => v

theorem fields?_mapFields (f : Fields → Fields) (v : Value) :
    (v.mapFields f).fields? = v.fields?.map f := by
  cases v <;> rfl

/-- What holds no entries stays without entries. -/
theorem getD_fields?_mapFields {f : Fields → Fields} (hf : f [] = [])
    (v : Value) : (v.mapFields f).fields?.getD [] = f (v.fields?.getD []) := by
  cases v with
  | map entries => rfl
  | _ => exact hf.symm

/-- A value with its items changed, if it is a list. -/
def mapItems (f : Value → Value) : Value → Value
  | .list items => .list (items.map f)
  | v => v

theorem getD_items?_mapItems (f : Value → Value) (v : Value) :
    (v.mapItems f).items?.getD [] = (v.items?.getD []).map f := by
  cases v <;> rfl

end Value

namespace Fields

/-- The mapping that a field holds, empty if it holds none. -/
def inner (fields : Fields) (name : String) : Fields :=
  (fields.get name).fields?.getD []

/-- A field that holds a text is present. -/
theorem get?_of_get_eq_str {fields : Fields} {name s : String}
    (h : fields.get name = .str s) : fields.get? name = some (.str s) := by
  unfold get at h
  cases hfield : fields.get? name with
  | none => rw [hfield] at h; cases h
  | some v => rw [hfield] at h; exact congrArg some h

/-- The entries with each value changed, in a way that may depend on the
key. -/
def mapValues (f : Value → Value → Value) (fields : Fields) : Fields :=
  fields.map fun e => (e.1, f e.1 e.2)

theorem get?_mapValues (f : Value → Value → Value) (fields : Fields)
    (name : String) :
    (mapValues f fields).get? name = (fields.get? name).map (f (.str name)) := by
  induction fields with
  | nil => rfl
  | cons e rest ih =>
    obtain ⟨key, v⟩ := e
    unfold mapValues at ih ⊢
    rw [List.map_cons]
    rcases key.text_or_none with ⟨s, rfl⟩ | hkey
    · rw [get?_cons_str, get?_cons_str]
      by_cases hs : s = name
      · rw [if_pos hs, if_pos hs, hs]
        rfl
      · rw [if_neg hs, if_neg hs, ih]
    · rw [get?_cons_of_text?_eq_none hkey, get?_cons_of_text?_eq_none hkey, ih]

/-- A field whose values stay is found as before. -/
theorem get?_mapValues_of_id {f : Value → Value → Value} {name : String}
    (h : ∀ v, f (.str name) v = v) (fields : Fields) :
    (mapValues f fields).get? name = fields.get? name := by
  rw [get?_mapValues, funext h]
  exact Option.map_id'

/-- The entries with the value of one field changed. -/
def update (name : String) (f : Value → Value) (fields : Fields) : Fields :=
  fields.mapValues fun key v => if key.isText name then f v else v

theorem get?_update_self (name : String) (f : Value → Value)
    (fields : Fields) :
    (fields.update name f).get? name = (fields.get? name).map f := by
  rw [update, get?_mapValues]
  simp [Value.isText]

/-- All other fields stay as they were. -/
theorem get?_update_of_ne {name other : String} (h : other ≠ name)
    (f : Value → Value) (fields : Fields) :
    (fields.update name f).get? other = fields.get? other := by
  refine get?_mapValues_of_id (fun v => ?_) fields
  simp [Value.isText, h]

/-- A change that leaves null alone also leaves an absent field alone. -/
theorem get_update_self {f : Value → Value} (hf : f .null = .null)
    (name : String) (fields : Fields) :
    (fields.update name f).get name = f (fields.get name) := by
  rw [get, get, get?_update_self]
  cases fields.get? name with
  | none => exact hf.symm
  | some v => rfl

theorem get_update_of_ne {name other : String} (h : other ≠ name)
    (f : Value → Value) (fields : Fields) :
    (fields.update name f).get other = fields.get other := by
  rw [get, get, get?_update_of_ne h]

end Fields

end ClientGen
