import ClientGen.Decimal.Shortest
import ClientGen.Value.Basic

/-!
# Values as text

The text of a value where the generated code, a name or a message needs one. A
text stands for itself at the top, and is quoted inside a list, a mapping, a
pair or a set; null and the booleans are capitalised words. The members of a set
come in the order in which the set has them, which is up to who made it.
-/

namespace ClientGen

open ClientGen.Decimal

/-- Numbers from `0.0001` up to below `10^16` are written positionally, all
others with an exponent of at least two digits. -/
def numberLayout : Layout := ⟨-3, 16, 2, "inf", "nan"⟩

namespace Value

mutual

/-- The text of a value inside another one. -/
def innerText : Value → String
  | .null => "None"
  | .bool b => if b then "True" else "False"
  | .int n => toString n
  | .float x => numberLayout.text x
  | .str s => Text.quoted s
  | .bytes data => Text.quotedBytes data
  | .date d => d.constructorText
  | .timestamp t => t.constructorText
  | .list items => "[" ++ ", ".intercalate (innerTexts items) ++ "]"
  | .pair k v => "(" ++ innerText k ++ ", " ++ innerText v ++ ")"
  | .map entries => "\x7b" ++ ", ".intercalate (entryTexts entries) ++ "\x7d"
  | .set [] => "set()"
  | .set members =>
    "\x7b" ++ ", ".intercalate (innerTexts members) ++ "\x7d"

/-- The texts of the items of a list. -/
def innerTexts : List Value → List String
  | [] => []
  | v :: rest => innerText v :: innerTexts rest

/-- The texts of the entries of a mapping. -/
def entryTexts : List (Value × Value) → List String
  | [] => []
  | (k, v) :: rest =>
    (innerText k ++ ": " ++ innerText v) :: entryTexts rest

end

/-- The text of a value. -/
def text : Value → String
  | .str s => s
  | .date d => d.text
  | .timestamp t => t.text
  | v => v.innerText

end Value

end ClientGen
