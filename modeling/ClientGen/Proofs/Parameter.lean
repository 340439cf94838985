import ClientGen.Proofs.Trace
import ClientGen.Parameter

/-!
# Parameters that promote an enumeration

A parameter promotes its enumeration if its declared type is a text, also when
the schema of a body says so, and it is restricted to two values or more. The
events of a list of parameters register exactly these enumerations, in the
order of the list (`applyAll_events`), and the records of the list are those of
its kept mappings, up to the mark on the last one (`forall₂_readAll`).
-/

namespace ClientGen.Parameter

/-- Whether a parameter promotes its enumeration. -/
def promotes (fields : Fields) : Bool :=
  (declaredType fields).1.isText "string" &&
    decide (2 ≤ (allowedValues fields).length)

/-- The enumeration of a parameter: its name and the allowed values. -/
def enumeration (fields : Fields) : Enumeration :=
  ⟨.str (nameOf fields).enumName, allowedValues fields⟩

/-- The enumerations that a list of mappings promotes. -/
def promotions (params : List Fields) : List Enumeration :=
  (params.filter promotes).map enumeration

theorem promoted?_eq (fields : Fields) :
    promoted? fields =
      if promotes fields then some (enumeration fields) else none := by
  unfold promoted? promotes
  match h : allowedValues fields with
  | [] => simp
  | [v] => simp
  | v :: w :: rest => simp [enumeration, h]

theorem promotions_eq_filterMap (params : List Fields) :
    promotions params = params.filterMap promoted? := by
  induction params with
  | nil => rfl
  | cons p ps ih =>
    rw [List.filterMap_cons, ← ih, promoted?_eq, promotions]
    cases hp : promotes p with
    | false => rw [List.filter_cons_of_neg (by simp [hp])]; rfl
    | true => rw [List.filter_cons_of_pos hp]; rfl

@[simp] theorem promotions_append (ps qs : List Fields) :
    promotions (ps ++ qs) = promotions ps ++ promotions qs := by
  simp [promotions]

/-- A promoted enumeration gives the argument its type. -/
theorem typescriptType_read_of_promotes {fields : Fields}
    (h : promotes fields = true) :
    (read fields).typescriptType = (nameOf fields).enumName := by
  simp [read, promoted?_eq, h]

/-- Any other parameter has the type that it declares. -/
theorem typescriptType_read_of_not_promotes {fields : Fields}
    (h : promotes fields = false) :
    (read fields).typescriptType = plainType fields := by
  simp [read, promoted?_eq, h]

/-! ### What a list of parameters leaves in a table -/

/-- One parameter registers its enumeration if it is kept and promotes it. -/
private theorem applyAll_event? (t : EnumTable) (onServer : Bool) (p : Value) :
    t.applyAll (event? onServer p).toList =
      t.registerAll (promotions (kept onServer [p])) := by
  cases hp : p.fields? with
  | none => simp [event?, kept, hp, promotions]
  | some fields =>
    have hevent : event? onServer p =
        if onServer || !isProxied fields then
          (promoted? fields).map Event.promoted
        else some (.headerSkipped (fields.get "name")) := by
      rw [event?, hp]
    have hkept : kept onServer [p] =
        if onServer || !isProxied fields then [fields] else [] := by
      simp [kept, hp, List.filter_cons]
    rw [hevent, hkept]
    cases onServer || !isProxied fields with
    | false => rfl -- only the log hears of a parameter that is left out
    | true =>
      rw [if_pos rfl, if_pos rfl, promotions_eq_filterMap, List.filterMap_cons]
      cases promoted? fields with
      | none => rfl
      | some e => rfl

/-- A list of parameters registers what its kept mappings promote, in
order. -/
theorem applyAll_events (t : EnumTable) (onServer : Bool)
    (params : List Value) :
    t.applyAll (events onServer params) =
      t.registerAll (promotions (kept onServer params)) := by
  induction params generalizing t with
  | nil => rfl
  | cons p ps ih =>
    have hevents : events onServer (p :: ps) =
        (event? onServer p).toList ++ events onServer ps := by
      rw [events, events, List.filterMap_cons]
      cases event? onServer p with
      | none => rfl
      | some e => rfl
    have hkept : kept onServer (p :: ps) =
        kept onServer [p] ++ kept onServer ps := kept_append onServer [p] ps
    rw [hevents, EnumTable.applyAll_append, applyAll_event?, ih, hkept,
      promotions_append, EnumTable.registerAll_append]

/-! ### The records of a list of parameters -/

/-- Marking the last record changes nothing but its mark. -/
theorem forall₂_markLast (ps : List Parameter) :
    List.Forall₂ (fun p q => ∃ last, q = { p with isLast := last }) ps
      (markLast ps) := by
  fun_induction markLast ps with
  | case1 => exact List.Forall₂.nil
  | case2 p => exact List.Forall₂.cons ⟨true, rfl⟩ List.Forall₂.nil
  | case3 p rest _ ih => exact List.Forall₂.cons ⟨p.isLast, rfl⟩ ih

/-- The records of a list are those of its kept mappings, in order. -/
theorem forall₂_readAll (onServer : Bool) (params : List Value) :
    List.Forall₂
      (fun fields q => fields ∈ kept onServer params ∧
        ∃ last, q = { read fields with isLast := last })
      (kept onServer params) (readAll onServer params) := by
  have h := forall₂_markLast ((kept onServer params).map read)
  rw [List.forall₂_map_left_iff] at h
  exact (List.forall₂_and_left _ _).2 ⟨fun _ hp => hp, h⟩

end ClientGen.Parameter
