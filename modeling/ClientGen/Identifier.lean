import ClientGen.Text.Case
import ClientGen.Value.Text

/-!
# Identifiers

Names of a document become identifiers of the generated code by dropping
dashes and dots and putting the letter after each in upper case:

```
user-profile   ⟶   userProfile
a.b-c          ⟶   aBC
plain          ⟶   plain
```

Dashes are dropped before dots. Empty pieces, as between two dashes, add
nothing. A name that is no text is written as text first.
-/

namespace ClientGen

namespace Text

/-- Pieces put together, each but the first with its first character in upper
case. -/
def joinCapitalized : List (List Char) → List Char
  | [] => []
  | first :: rest => first ++ rest.flatMap upperFirst

/-- The text without a delimiter, the piece after each one capitalized. -/
def collapse (delimiter : Char) (s : List Char) : List Char :=
  joinCapitalized (s.splitOn delimiter)

/-- The identifier of a name, as characters. -/
def identifierChars (s : List Char) : List Char :=
  collapse '.' (collapse '-' s)

/-- The identifier of a name. -/
def identifier (s : String) : String := String.ofList (identifierChars s.toList)

/-- The text with its first character in upper case. -/
def capitalize (s : String) : String := String.ofList (upperFirst s.toList)

@[simp] theorem toList_identifier (s : String) :
    (identifier s).toList = identifierChars s.toList :=
  String.toList_ofList

@[simp] theorem toList_capitalize (s : String) :
    (capitalize s).toList = upperFirst s.toList :=
  String.toList_ofList

/-- A text without the delimiter stays as it is. -/
theorem collapse_of_not_mem {delimiter : Char} {s : List Char}
    (h : delimiter ∉ s) : collapse delimiter s = s := by
  simp [collapse, List.splitOn_eq_singleton h, joinCapitalized]

/-- A name without dashes and dots is its own identifier. -/
theorem identifierChars_of_not_mem {s : List Char} (hdash : '-' ∉ s)
    (hdot : '.' ∉ s) : identifierChars s = s := by
  rw [identifierChars, collapse_of_not_mem hdash, collapse_of_not_mem hdot]

end Text

namespace Value

/-- The identifier of a name that may be any value; null has none. -/
def identifier? : Value → Option String
  | .null => none
  | v => some (Text.identifier v.text)

@[simp] theorem identifier?_str (s : String) :
    (Value.str s).identifier? = some (Text.identifier s) := rfl

/-- Every value but null has an identifier, which is that of its text. -/
theorem identifier?_eq_some_iff {v : Value} {name : String} :
    v.identifier? = some name ↔
      v ≠ .null ∧ Text.identifier v.text = name := by
  cases v with
  | null => exact iff_of_false nofun fun h => h.1 rfl
  | _ => exact Option.some_inj.trans (and_iff_right nofun).symm

/-- What counts as true has an identifier. -/
theorem identifier?_of_truthy {v : Value} (h : v.truthy = true) :
    v.identifier? = some (Text.identifier v.text) := by
  have hnull : v ≠ .null := by
    rintro rfl
    cases h
  exact identifier?_eq_some_iff.2 ⟨hnull, rfl⟩

/-- The name of the enumeration that belongs to a parameter or property. -/
def enumName (owner : Value) : String := Text.capitalize owner.text

end Value

end ClientGen
