import ClientGen.Calendar
import ClientGen.Decimal.Binary64

/-!
# Document values

What a loaded document is made of. A mapping keeps the order of its entries,
which decides the order of everything that is generated from it, and its keys
may be any scalar: an unquoted `200` is an integer key.

Two relations compare values. `same` is the one that keys obey: numbers are
compared by value whatever their kind (`1`, `1.0` and `true` are one key), and
a number that is not a number is the same as itself. `equals` differs only in
that two such numbers are not equal.
-/

namespace ClientGen

open ClientGen.Decimal

/-- A value of a document. -/
inductive Value where
  | null
  | bool (b : Bool)
  | int (n : Int)
  | float (x : Binary64)
  | str (s : String)
  | bytes (data : List UInt8)
  | date (d : Date)
  | timestamp (t : Timestamp)
  | list (items : List Value)
  | pair (key value : Value)
  | map (entries : List (Value × Value))
  | set (members : List Value)
  deriving Inhabited, Repr

/-- The entries of a mapping, in document order. -/
abbrev Fields := List (Value × Value)

namespace Value

/-- Whether a value counts as true: all do but null, false, the zeros and what
is empty. -/
def truthy : Value → Bool
  | .null => false
  | .bool b => b
  | .int n => n != 0
  | .float x => !x.isZero
  | .str s => s != ""
  | .bytes data => !data.isEmpty
  | .date _ | .timestamp _ | .pair _ _ => true
  | .list items => !items.isEmpty
  | .map entries => !entries.isEmpty
  | .set members => !members.isEmpty

/-- The value if it counts as true, and another one otherwise. -/
def orElse (v fallback : Value) : Value := if v.truthy then v else fallback

/-- The text of a value that is one. -/
def text? : Value → Option String
  | .str s => some s
  | _ => none

/-- The entries of a value that is a mapping. -/
def fields? : Value → Option Fields
  | .map entries => some entries
  | _ => none

/-- The items of a value that is a list. -/
def items? : Value → Option (List Value)
  | .list items => some items
  | _ => none

/-- Whether a value is the given text. -/
def isText (v : Value) (s : String) : Bool :=
  match v with
  | .str t => t == s
  | _ => false

/-- The exact number that a boolean, an integer or a finite number is. -/
def number? : Value → Option Dyadic
  | .bool b => some (Dyadic.ofIntWithPrec (if b then 1 else 0) 0)
  | .int n => some (Dyadic.ofIntWithPrec n 0)
  | .float x => x.toDyadic?
  | _ => none

mutual

/-- Whether two values are the same key. -/
def same : Value → Value → Bool
  | .null, .null => true
  | .str s, .str t => s == t
  | .bytes a, .bytes b => a == b
  | .date a, .date b => a == b
  | .timestamp a, .timestamp b => a.same b
  | .list xs, .list ys => sameList xs ys
  | .pair k v, .pair l w => same k l && same v w
  | .map es, .map fs => es.length == fs.length && entriesWithin es fs
  | .set xs, .set ys => xs.length == ys.length && membersWithin xs ys
  | .float x, .float y => x.same y
  | v, w =>
    match v.number?, w.number? with
    | some a, some b => a == b
    | _, _ => false

/-- Whether two lists are the same item by item. -/
def sameList : List Value → List Value → Bool
  | [], [] => true
  | x :: xs, y :: ys => same x y && sameList xs ys
  | _, _ => false

/-- Whether every entry has its like among the other entries. -/
def entriesWithin : List (Value × Value) → List (Value × Value) → Bool
  | [], _ => true
  | (k, v) :: rest, other =>
    other.any (fun e => same k e.1 && same v e.2) && entriesWithin rest other

/-- Whether every member has its like among the other members. -/
def membersWithin : List Value → List Value → Bool
  | [], _ => true
  | x :: rest, other => other.any (same x ·) && membersWithin rest other

end

/-- Whether a value is the number that is not a number. -/
def isNaN : Value → Bool
  | .float x => x.isNaN
  | _ => false

/-- Whether two values are equal. -/
def equals (v w : Value) : Bool := same v w && !(v.isNaN && w.isNaN)

/-- The values that iterating over a value yields: items, characters, keys,
members or byte values. Scalars other than texts and binary data have none. -/
def elements? : Value → Option (List Value)
  | .str s => some (s.toList.map fun c => .str (String.singleton c))
  | .bytes data => some (data.map fun b => .int b.toNat)
  | .list items => some items
  | .pair k v => some [k, v]
  | .map entries => some (entries.map (·.1))
  | .set members => some members
  | _ => none

end Value

namespace Fields

/-- The value of a key. -/
def find? (fields : Fields) (key : Value) : Option Value :=
  match fields with
  | [] => none
  | (k, v) :: rest => if k.same key then some v else find? rest key

/-- The value of a field that is named by a text. -/
def get? (fields : Fields) (name : String) : Option Value :=
  match fields with
  | [] => none
  | (k, v) :: rest => if k.isText name then some v else get? rest name

/-- The value of a field, null if it is absent. -/
def get (fields : Fields) (name : String) : Value :=
  (get? fields name).getD .null

/-- Whether there is a field of that name. -/
def has (fields : Fields) (name : String) : Bool := (get? fields name).isSome

/-- The entries with a key set to a value: a key that is present keeps its
place and its spelling, a new one comes last. -/
def insert (fields : Fields) (key value : Value) : Fields :=
  match fields with
  | [] => [(key, value)]
  | (k, v) :: rest =>
    if k.same key then (k, value) :: rest else (k, v) :: insert rest key value

/-! ### Fields named by texts -/

@[simp] theorem get?_nil (name : String) : get? [] name = none := rfl

theorem get?_cons_str (s : String) (v : Value) (rest : Fields) (name : String) :
    get? ((.str s, v) :: rest) name =
      if s = name then some v else get? rest name := by
  simp [get?, Value.isText]

/-- A key that is no text names no field. -/
theorem get?_cons_of_text?_eq_none {k : Value} (h : k.text? = none) (v : Value)
    (rest : Fields) (name : String) :
    get? ((k, v) :: rest) name = get? rest name := by
  cases k <;> simp_all [get?, Value.isText, Value.text?]

/-- The mapping that a sequence of entries builds: of equal keys the first
gives the place and the spelling, the last the value. -/
def ofPairs (pairs : List (Value × Value)) : Fields :=
  pairs.foldl (fun fields e => insert fields e.1 e.2) []

end Fields

end ClientGen
