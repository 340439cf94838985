import ClientGen.Fault
import ClientGen.Value.Basic

/-!
# Enumerations

An enumeration has a name and values in order. A table of enumerations has at
most one of each name: the first one that is registered stays, and a later one
of the same name changes nothing. A local enumeration shadows the one of its
name in the table, which removes it.
-/

namespace ClientGen

/-- A named list of values. -/
structure Enumeration where
  name : Value
  values : List Value
  deriving Inhabited, Repr

namespace Enumeration

/-- The enumeration of a name and the elements of a value. -/
def build (name values : Value) : Except Fault Enumeration :=
  match values.elements? with
  | some vs => .ok ⟨name, vs⟩
  | none => .error .notIterable

/-- The values, each with a mark on the last one. -/
def members (e : Enumeration) : List (Value × Bool) :=
  e.values.zipIdx.map fun (v, i) => (v, i + 1 == e.values.length)

end Enumeration

/-- Enumerations in the order in which they were registered. -/
structure EnumTable where
  entries : List Enumeration
  deriving Inhabited, Repr

namespace EnumTable

/-- The table without entries. -/
def empty : EnumTable := ⟨[]⟩

/-- Whether an enumeration of that name is in the table. -/
def has (t : EnumTable) (name : Value) : Bool :=
  t.entries.any fun e => e.name.equals name

/-- How many enumerations there are. -/
def size (t : EnumTable) : Nat := t.entries.length

/-- Adds an enumeration at the end, unless one of its name is there. -/
def register (t : EnumTable) (e : Enumeration) : EnumTable :=
  if t.has e.name then t else ⟨t.entries ++ [e]⟩

/-- Adds enumerations in order. -/
def registerAll (t : EnumTable) (es : List Enumeration) : EnumTable :=
  es.foldl register t

/-- The enumeration of a name. -/
def find? (t : EnumTable) (name : Value) : Option Enumeration :=
  t.entries.find? fun e => e.name.equals name

/-- Removes the enumeration of a name. -/
def shadow (t : EnumTable) (name : Value) : EnumTable :=
  ⟨t.entries.eraseP fun e => e.name.equals name⟩

/-! ### What the operations do to the entries -/

@[simp] theorem entries_empty : empty.entries = [] := rfl

@[simp] theorem has_empty (name : Value) : empty.has name = false := rfl

/-- An enumeration comes last, unless its name is taken. -/
theorem entries_register (t : EnumTable) (e : Enumeration) :
    (t.register e).entries =
      if t.has e.name then t.entries else t.entries ++ [e] := by
  unfold register
  split <;> rfl

theorem register_of_has {t : EnumTable} {e : Enumeration}
    (h : t.has e.name = true) : t.register e = t := by
  simp [register, h]

theorem entries_register_of_not_has {t : EnumTable} {e : Enumeration}
    (h : t.has e.name = false) :
    (t.register e).entries = t.entries ++ [e] := by
  simp [entries_register, h]

/-- Registering keeps what is there, in its place. -/
theorem entries_prefix_register (t : EnumTable) (e : Enumeration) :
    t.entries <+: (t.register e).entries := by
  rw [entries_register]
  split
  · exact List.prefix_refl _
  · exact List.prefix_append _ _

@[simp] theorem registerAll_nil (t : EnumTable) : t.registerAll [] = t := rfl

@[simp] theorem registerAll_cons (t : EnumTable) (e : Enumeration)
    (es : List Enumeration) :
    t.registerAll (e :: es) = (t.register e).registerAll es := rfl

theorem registerAll_append (t : EnumTable) (as bs : List Enumeration) :
    t.registerAll (as ++ bs) = (t.registerAll as).registerAll bs := by
  simp [registerAll]

/-- Shadowing removes entries and moves none. -/
theorem entries_shadow_sublist (t : EnumTable) (name : Value) :
    (t.shadow name).entries.Sublist t.entries := List.eraseP_sublist

@[simp] theorem isSome_find? (t : EnumTable) (name : Value) :
    (t.find? name).isSome = t.has name := by
  rw [Bool.eq_iff_iff, find?, List.find?_isSome, has, List.any_eq_true]

end EnumTable

end ClientGen
