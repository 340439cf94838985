import ClientGen.Fault
import ClientGen.Identifier

/-!
# URL templates

A path of a document marks its parameters by slots in braces. A slot runs from
an opening brace to the nearest closing one on the same line; an opening brace
without such a partner is ordinary text. The generated code needs a path in
two forms, both with a dollar sign in front of each slot: one keeps the names
as they are, the other has the identifiers of the method's arguments.
-/

namespace ClientGen

namespace UrlTemplate

/-- A character outside of all slots, or a slot with its name. -/
inductive Piece where
  | char (c : Char)
  | slot (name : List Char)
  deriving DecidableEq, Repr

/-- The name of a slot whose opening brace has just been passed, and the text
after its closing brace. -/
def slot? : List Char → Option (List Char × List Char)
  | [] => none
  | c :: rest =>
    if c = '\x7d' then some ([], rest)
    else if c = '\n' then none
    else (slot? rest).map fun (name, after) => (c :: name, after)

theorem length_of_slot? {s name after : List Char}
    (h : slot? s = some (name, after)) : after.length < s.length := by
  induction s generalizing name after with
  | nil => simp [slot?] at h
  | cons c rest ih =>
    rw [slot?] at h
    split at h
    · simp only [Option.some.injEq, Prod.mk.injEq] at h
      simp [h.2]
    · split at h
      · simp at h
      · obtain ⟨⟨n, a⟩, hs, he⟩ := Option.map_eq_some_iff.1 h
        simp only [Prod.mk.injEq] at he
        have := ih hs
        simp only [List.length_cons, ← he.2]
        omega

/-- A slot ends at its nearest closing brace. -/
theorem slot?_append {name : List Char} (h : ∀ c ∈ name, c ≠ '\x7d' ∧ c ≠ '\n')
    (after : List Char) :
    slot? (name ++ '\x7d' :: after) = some (name, after) := by
  induction name with
  | nil => rfl
  | cons c rest ih =>
    have hc := h c List.mem_cons_self
    have hr := ih fun d hd => h d (List.mem_cons_of_mem c hd)
    simp [slot?, hc.1, hc.2, hr]

/-- A path cut into characters and slots. -/
def pieces (s : List Char) : List Piece :=
  match s with
  | [] => []
  | c :: rest =>
    if c = '\x7b' then
      match _h : slot? rest with
      | some (name, after) => .slot name :: pieces after
      | none => .char c :: pieces rest
    else .char c :: pieces rest
termination_by s.length
decreasing_by
  · have := length_of_slot? _h
    simp only [List.length_cons]
    omega
  · simp
  · simp

/-- The text of pieces, with a dollar sign in front of each slot and its name
changed by `f`. -/
def render (f : List Char → List Char) : List Piece → List Char
  | [] => []
  | .char c :: rest => c :: render f rest
  | .slot name :: rest => '$' :: '\x7b' :: (f name ++ '\x7d' :: render f rest)

/-! ### Pieces -/

@[simp] theorem pieces_nil : pieces [] = [] := by
  unfold pieces
  rfl

theorem pieces_cons_of_ne {c : Char} (h : c ≠ '\x7b') (rest : List Char) :
    pieces (c :: rest) = .char c :: pieces rest := by
  rw [pieces]
  simp [h]

/-- An opening brace with a partner opens a slot. -/
theorem pieces_slot {rest name after : List Char}
    (h : slot? rest = some (name, after)) :
    pieces ('\x7b' :: rest) = .slot name :: pieces after := by
  rw [pieces]
  split
  · split <;> simp_all
  · contradiction

/-- An opening brace without a partner is ordinary text. -/
theorem pieces_open {rest : List Char} (h : slot? rest = none) :
    pieces ('\x7b' :: rest) = .char '\x7b' :: pieces rest := by
  rw [pieces]
  split
  · split <;> simp_all
  · contradiction

@[simp] theorem render_append (f : List Char → List Char) (as bs : List Piece) :
    render f (as ++ bs) = render f as ++ render f bs := by
  induction as with
  | nil => rfl
  | cons a as ih => cases a <;> simp [render, ih]

/-- A path with its slots marked and their names kept. -/
def marked (path : String) : String :=
  String.ofList (render id (pieces path.toList))

/-- A path with its slots marked and named like the method's arguments. -/
def interpolated (path : String) : String :=
  String.ofList (render Text.identifierChars (pieces path.toList))

/-- A path with its slots marked and named like the method's arguments, for a
value that must be a text. -/
def interpolate (path : Value) : Except Fault String :=
  match path with
  | .str s => .ok (interpolated s)
  | _ => .error .notSearchable

end UrlTemplate

end ClientGen
