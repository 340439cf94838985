import ClientGen.Enumeration
import ClientGen.Log
import ClientGen.Value.Text

/-!
# What happens while a document is read

Reading a document yields records, and on the way things happen that concern
more than the record at hand: an enumeration is promoted to the table of the
whole client, a local one shadows it, something is skipped. They are kept as
events in order. A record is read without the table; the table is the outcome
of the events, and so is the log. To read a document with the table in hand
comes to the same (`Service.build_eq_buildInHand`).

Events up to a fault are kept.
-/

namespace ClientGen

/-- Something that happens while a document is read. -/
inductive Event where
  /-- A parameter that a proxy injects is left out. -/
  | headerSkipped (name : Value)
  /-- A parameter's enumeration is registered in the table. -/
  | promoted (e : Enumeration)
  /-- A key of a path is no verb that becomes a method. -/
  | verbSkipped (verb path : Value)
  /-- A definition declares an enumeration of this name once more. -/
  | declaredAgain (name : Value) (owner : Option String)
  /-- A definition declares an enumeration of this name. -/
  | declared (name : Value)
  /-- All methods are read. -/
  | methodsBuilt (count : Nat)
  /-- All definitions are read. -/
  | definitionsBuilt (count : Nat)
  deriving Inhabited, Repr

namespace EnumTable

/-- The table after an event. -/
def apply (t : EnumTable) : Event → EnumTable
  | .promoted e => t.register e
  | .declared name => t.shadow name
  | _ => t

/-- The table after events in order. -/
def applyAll (t : EnumTable) (events : List Event) : EnumTable :=
  events.foldl apply t

@[simp] theorem applyAll_nil (t : EnumTable) : t.applyAll [] = t := rfl

@[simp] theorem applyAll_cons (t : EnumTable) (e : Event) (es : List Event) :
    t.applyAll (e :: es) = (t.apply e).applyAll es := rfl

@[simp] theorem applyAll_append (t : EnumTable) (as bs : List Event) :
    t.applyAll (as ++ bs) = (t.applyAll as).applyAll bs := by
  simp [applyAll]

/-- Promotions register their enumerations one after another. -/
theorem applyAll_map_promoted (t : EnumTable) (es : List Enumeration) :
    t.applyAll (es.map Event.promoted) = t.registerAll es := by
  induction es generalizing t with
  | nil => rfl
  | cons e es ih => exact ih (t.register e)

end EnumTable

/-- The text of a name that may be absent. -/
def nameText (name : Option String) : String := name.getD "None"

namespace Event

/-- What an event reports, given the table that it meets. -/
def report (t : EnumTable) : Event → List LogRecord
  | .headerSkipped name =>
    [.debug .schemas ("Skipping proxy header " ++ name.text)]
  | .promoted e =>
    if t.has e.name then
      [.debug .schemas
        ("Enum " ++ e.name.text ++ " already registered, keeping the first")]
    else []
  | .verbSkipped verb path =>
    [.debug .builder
      ("Skipping unsupported verb " ++ verb.text ++ " " ++ path.text)]
  | .declaredAgain name owner =>
    [.debug .builder
      ("Enum " ++ name.text ++ " already declared on " ++ nameText owner ++
        ", keeping the first")]
  | .declared name =>
    if t.has name then
      [.debug .schemas
        ("Local enum " ++ name.text ++ " shadows the global one")]
    else []
  | .methodsBuilt count =>
    [.debug .builder
      ("Built " ++ toString count ++ " methods, " ++ toString t.size ++
        " global enums")]
  | .definitionsBuilt count =>
    [.debug .builder
      ("Built " ++ toString count ++ " definitions, " ++ toString t.size ++
        " global enums remain")]

/-- What events report in order, from a table on. -/
def reports (t : EnumTable) : List Event → List LogRecord
  | [] => []
  | e :: rest => report t e ++ reports (t.apply e) rest

end Event

/-- A result or a fault, with the events up to it. -/
structure Traced (α : Type) where
  events : List Event
  outcome : Except Fault α

namespace Traced

variable {α β : Type}

/-- A result without events. -/
def pure (a : α) : Traced α := ⟨[], .ok a⟩

/-- One step after another; a fault ends the steps and keeps the events. -/
def bind (x : Traced α) (f : α → Traced β) : Traced β :=
  match x.outcome with
  | .ok a => ⟨x.events ++ (f a).events, (f a).outcome⟩
  | .error e => ⟨x.events, .error e⟩

instance : Monad Traced where
  pure := Traced.pure
  bind := Traced.bind

/-- Events without a result. -/
def emit (events : List Event) : Traced Unit := ⟨events, .ok ()⟩

/-- A step without events. -/
def ofExcept (r : Except Fault α) : Traced α := ⟨[], r⟩

/-- All results of steps, one after another. -/
def collect : List (Traced α) → Traced (List α)
  | [] => Traced.pure []
  | x :: rest => x.bind fun a => (collect rest).bind fun as => Traced.pure (a :: as)

/-- The table after the events of a step. -/
def tableAfter (x : Traced α) (t : EnumTable) : EnumTable := t.applyAll x.events

/-! ### Events and outcomes of composed steps -/

@[simp] theorem pure_eq (a : α) : (Pure.pure a : Traced α) = ⟨[], .ok a⟩ := rfl

@[simp] theorem bind_ok (events : List Event) (a : α) (f : α → Traced β) :
    (⟨events, .ok a⟩ >>= f : Traced β) =
      ⟨events ++ (f a).events, (f a).outcome⟩ := rfl

@[simp] theorem bind_error (events : List Event) (e : Fault) (f : α → Traced β) :
    (⟨events, .error e⟩ >>= f : Traced β) = ⟨events, .error e⟩ := rfl

@[simp] theorem collect_nil : collect ([] : List (Traced α)) = ⟨[], .ok []⟩ := rfl

@[simp] theorem collect_cons (x : Traced α) (rest : List (Traced α)) :
    collect (x :: rest) =
      x >>= fun a => collect rest >>= fun as => Pure.pure (a :: as) := rfl

instance : LawfulMonad Traced :=
  LawfulMonad.mk' Traced
    (by
      rintro α ⟨events, _ | a⟩
      · rfl
      · exact congrArg (Traced.mk · _) (List.append_nil _))
    (fun _ _ => rfl)
    (by
      rintro α β γ ⟨events, _ | a⟩ f g
      · rfl
      · rw [bind_ok]
        cases h : f a with
        | mk es outcome =>
          cases outcome with
          | error e => simp [h]
          | ok b => simp [h, List.append_assoc])

end Traced

end ClientGen
