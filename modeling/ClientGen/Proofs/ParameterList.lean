import ClientGen.Proofs.EnumTable
import ClientGen.Proofs.Parameter
import ClientGen.Session

/-!
# Lists of parameters one by one

`Parameter.readAll` and `Parameter.events` say what a list of parameters is and
what happens on the way as a whole. Here the list is read one entry at a time,
its own entries first and then the shared ones. An entry that is no mapping, or
that a proxy injects, is passed over; any other one adds a record and may
register an enumeration. The last record is marked at the end.

A reading holds of the entries that it has gone through what `Reading.Holds`
says. One entry more keeps that (`Reading.Holds.take`), so it is true of all of
them (`Reading.holds_ofLists`). So the list is what its entries are alone, each
read with an empty table, up to the mark on the last record and to the names
that are taken when an enumeration is registered (`Session.parameters_one_by_one`).
-/

namespace ClientGen

namespace Parameter

/-- An entry of a list becomes a parameter: it is a mapping, and no proxy
injects it unless the client runs on the server side. -/
def isKept (onServer : Bool) (v : Value) : Bool :=
  v.fields?.any fun p => onServer || !isProxied p

/-- The kept mappings are those of the kept entries. -/
theorem kept_eq_map (onServer : Bool) (vs : List Value) :
    kept onServer vs =
      (vs.filter (isKept onServer)).map fun v => v.fields?.getD [] := by
  induction vs with
  | nil => rfl
  | cons v vs ih =>
    have hcons : kept onServer (v :: vs) = kept onServer [v] ++ kept onServer vs :=
      kept_append onServer [v] vs
    rw [hcons, ih]
    cases hv : v.fields? with
    | none => simp [kept, isKept, hv]
    | some p =>
      cases hp : onServer || !isProxied p with
      | true => simp [kept, isKept, hv, hp]
      | false => simp [kept, isKept, hv, hp]

theorem exists_fields_of_isKept {onServer : Bool} {v : Value}
    (h : isKept onServer v = true) : ∃ fields : Fields, v = .map fields := by
  cases v with
  | map fields => exact ⟨fields, rfl⟩
  | _ => cases h

/-- A parameter registers the enumeration that it promotes. -/
theorem tableAfter_build (fields : Fields) (t : EnumTable) :
    (build (.map fields)).tableAfter t = t.registerAll (promotions [fields]) := by
  have hpromotions : (promoted? fields).toList = promotions [fields] := by
    rw [promotions_eq_filterMap, List.filterMap_cons]
    cases promoted? fields <;> rfl
  have hevents : (build (.map fields)).events =
      (promoted? fields).toList.map Event.promoted :=
    Option.toList_map
  rw [Traced.tableAfter, hevents, hpromotions, EnumTable.applyAll_map_promoted]

/-! ### The mark on the last record -/

theorem markLast_concat (ps : List Parameter) (p : Parameter) :
    markLast (ps ++ [p]) = ps ++ [{ p with isLast := true }] := by
  induction ps with
  | nil => rfl
  | cons q ps ih =>
    have hne : ps ++ [p] ≠ [] := List.append_ne_nil_of_right_ne_nil ps (by simp)
    obtain ⟨r, rest, hrest⟩ := List.exists_cons_of_ne_nil hne
    rw [List.cons_append, List.cons_append, ← ih, hrest]
    rfl

/-- Of records without a mark the last one gets it, and no other one. -/
theorem isLast_markLast_iff {ps : List Parameter}
    (h : ∀ p ∈ ps, p.isLast = false) {before after : List Parameter}
    {p : Parameter} (hsplit : markLast ps = before ++ p :: after) :
    p.isLast = true ↔ after = [] := by
  rcases List.eq_nil_or_concat ps with rfl | ⟨front, last, rfl⟩
  · simp [markLast] at hsplit
  · rw [List.concat_eq_append, markLast_concat] at hsplit
    rcases List.eq_nil_or_concat after with rfl | ⟨middle, last', rfl⟩
    · obtain ⟨-, hlast⟩ := List.append_inj' hsplit rfl
      obtain rfl := (List.cons.inj hlast).1
      exact iff_of_true rfl rfl
    · have hfront : front = before ++ p :: middle := by
        rw [List.concat_eq_append, ← List.cons_append, ← List.append_assoc]
          at hsplit
        exact (List.append_inj' hsplit rfl).1
      have hp : p.isLast = false := h p (by simp [hfront])
      simp [hp]

/-! ### One entry at a time -/

/-- The records of the entries that have been read, and the table at that
point. -/
@[ext] structure Reading where
  records : List Parameter
  table : EnumTable
  deriving Inhabited, Repr

namespace Reading

/-- Nothing has been read yet. -/
def start (t : EnumTable) : Reading := ⟨[], t⟩

/-- Reads one entry. -/
def take (onServer : Bool) (s : Reading) (entry : Value) : Reading :=
  match entry with
  | .map fields =>
    if isProxied fields && !onServer then s
    else ⟨s.records ++ [read fields], (build entry).tableAfter s.table⟩
  | _ => s

/-- Reads the entries of an operation if they are a list, and then the shared
ones. -/
def ofLists (onServer : Bool) (t : EnumTable) (own : Value)
    (shared : List Value) : Reading :=
  let entries := match own with
    | .list entries => entries
    | _ => []
  (entries ++ shared).foldl (take onServer) (start t)

/-- The records, the last one with its mark. -/
def finish (s : Reading) : List Parameter :=
  match s.records.getLast? with
  | some p => s.records.dropLast ++ [{ p with isLast := true }]
  | none => []

theorem finish_eq (s : Reading) : s.finish = markLast s.records := by
  unfold finish
  rcases List.eq_nil_or_concat s.records with hnil | ⟨front, last, hconcat⟩
  · rw [hnil]
    rfl
  · rw [hconcat, List.concat_eq_append, markLast_concat, List.getLast?_concat,
      List.dropLast_concat]

/-- What a reading holds that has gone through entries, from a table on. -/
structure Holds (s : Reading) (onServer : Bool) (entries : List Value)
    (t : EnumTable) : Prop where
  records : s.records = (kept onServer entries).map read
  table : s.table = t.registerAll (promotions (kept onServer entries))

variable {onServer : Bool} {s : Reading} {entries : List Value} {t : EnumTable}

theorem holds_start (onServer : Bool) (t : EnumTable) :
    (start t).Holds onServer [] t := ⟨rfl, rfl⟩

theorem take_of_isKept {fields : Fields}
    (h : isKept onServer (.map fields) = true) :
    s.take onServer (.map fields) =
      ⟨s.records ++ [read fields], s.table.registerAll (promotions [fields])⟩ := by
  have hpass : ¬ (isProxied fields && !onServer) = true := by
    cases onServer <;> simp_all [isKept, Value.fields?]
  rw [take, if_neg hpass, tableAfter_build]

theorem take_of_not_isKept {entry : Value} (h : isKept onServer entry = false) :
    s.take onServer entry = s := by
  cases entry with
  | map fields =>
    have hskip : (isProxied fields && !onServer) = true := by
      cases onServer <;> simp_all [isKept, Value.fields?]
    rw [take, if_pos hskip]
  | _ => rfl

/-- One entry more. -/
theorem Holds.take (h : s.Holds onServer entries t) (entry : Value) :
    (s.take onServer entry).Holds onServer (entries ++ [entry]) t := by
  cases hkept : isKept onServer entry with
  | false =>
    have hnone : kept onServer [entry] = [] := by simp [kept_eq_map, hkept]
    rw [take_of_not_isKept hkept]
    exact {
      records := by simp [hnone, h.records]
      table := by simp [hnone, h.table] }
  | true =>
    obtain ⟨fields, rfl⟩ := exists_fields_of_isKept hkept
    have hone : kept onServer [.map fields] = [fields] := by
      simp [kept_eq_map, hkept, Value.fields?]
    rw [take_of_isKept hkept]
    exact {
      records := by simp [hone, h.records]
      table := by simp [hone, h.table, EnumTable.registerAll_append] }

/-- Entries in order. -/
theorem Holds.foldl (h : s.Holds onServer entries t) (rest : List Value) :
    (rest.foldl (Reading.take onServer) s).Holds onServer (entries ++ rest) t := by
  induction rest generalizing s entries with
  | nil => simpa using h
  | cons entry rest ih => simpa using ih (h.take entry)

/-- What a reading holds that has gone through both lists. -/
theorem holds_ofLists (onServer : Bool) (t : EnumTable) (operation : Fields)
    (shared : List Value) :
    (ofLists onServer t (operation.get "parameters") shared).Holds onServer
      (listed operation shared) t := by
  have hlisted : listed operation shared =
      (match operation.get "parameters" with
        | .list entries => entries
        | _ => []) ++ shared := by
    unfold listed
    cases operation.get "parameters" <;> rfl
  rw [hlisted]
  exact (holds_start onServer t).foldl _

end Reading

end Parameter

/-! ### A list and its entries -/

namespace Session

open Parameter

/-- A list of parameters consists of entries: each gives the record that it
gives alone, but for the mark, which is on the last one, and the enumerations
that entries promote alone are registered in order. -/
structure Consists (entries : List Value) (t : EnumTable) (ps : List Parameter)
    (t' : EnumTable) : Prop where
  records : List.Forall₂ (fun v p => ((Step.parameter v).run .empty).1 =
    .ok (.parameter { p with isLast := false })) entries ps
  isLast : ∀ before p after, ps = before ++ p :: after →
    (p.isLast = true ↔ after = [])
  table : t'.entries = t.entries ++
    ((entries.flatMap fun v => ((Step.parameter v).run .empty).2.entries).filter
      fun e => !t.has e.name).eraseDupsBy Enumeration.sameName

/-- One parameter, from an empty table on. -/
theorem run_parameter_empty (fields : Fields) :
    (Step.parameter (.map fields)).run .empty =
      (.ok (.parameter (read fields)), ⟨promotions [fields]⟩) := by
  have htable : EnumTable.empty.registerAll (promotions [fields]) =
      ⟨promotions [fields]⟩ := by
    rw [promotions_eq_filterMap, List.filterMap_cons]
    cases promoted? fields <;> rfl
  rw [← htable, ← tableAfter_build]
  rfl

theorem consists_of_readAll (onServer : Bool) (vs : List Value) (t : EnumTable) :
    Consists (vs.filter (isKept onServer)) t (readAll onServer vs)
      (t.registerAll (promotions (kept onServer vs))) := by
  have hfields : ∀ v ∈ vs.filter (isKept onServer), ∃ fields : Fields,
      v = .map fields := fun v hv => exists_fields_of_isKept (List.mem_filter.1 hv).2
  refine ⟨?_, ?_, ?_⟩
  · have hrecords := forall₂_markLast ((kept onServer vs).map read)
    rw [kept_eq_map, List.map_map, List.forall₂_map_left_iff] at hrecords
    rw [readAll, kept_eq_map, List.map_map]
    refine ((List.forall₂_and_left _ _).2 ⟨fun _ hv => hv, hrecords⟩).imp ?_
    rintro v p ⟨hv, last, rfl⟩
    obtain ⟨fields, rfl⟩ := hfields v hv
    rw [run_parameter_empty]
    rfl
  · intro before p after hsplit
    refine isLast_markLast_iff ?_ hsplit
    intro q hq
    obtain ⟨fields, -, rfl⟩ := List.mem_map.1 hq
    rfl
  · have hpromotions : promotions (kept onServer vs) =
        (vs.filter (isKept onServer)).flatMap fun v =>
          ((Step.parameter v).run .empty).2.entries := by
      rw [promotions_eq_filterMap, kept_eq_map, List.filterMap_map,
        List.filterMap_eq_flatMap_toList]
      refine List.flatMap_congr fun v hv => ?_
      obtain ⟨fields, rfl⟩ := hfields v hv
      rw [run_parameter_empty, promotions_eq_filterMap,
        List.filterMap_eq_flatMap_toList, List.flatMap_singleton]
      rfl
    rw [EnumTable.entries_registerAll, hpromotions]

end Session

end ClientGen
