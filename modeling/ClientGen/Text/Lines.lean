/-!
# Line breaks

A text file may end its lines with a line feed, a carriage return or both in
this order. Reading one turns every line end into a line feed, so that all
later rules know one line break.
-/

namespace ClientGen.Text

/-- Every line end as a line feed. -/
def unifyBreaks : List Char → List Char
  | [] => []
  | '\r' :: '\n' :: rest => '\n' :: unifyBreaks rest
  | '\r' :: rest => '\n' :: unifyBreaks rest
  | c :: rest => c :: unifyBreaks rest

/-- The text of a file that holds UTF-8, its line ends as line feeds. -/
def readBytes? (bytes : ByteArray) : Option String :=
  (String.fromUTF8? bytes).map fun s => String.ofList (unifyBreaks s.toList)

end ClientGen.Text
