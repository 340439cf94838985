import ClientGen.Text.CaseTable

/-!
# Upper and lower case

The full case mappings of a text. A character may map to several (`ß` to
`SS`), and the lower case of a capital sigma depends on its neighbours: at the
end of a word it is `ς`. ASCII is settled by arithmetic, all else by the
tables.
-/

namespace ClientGen.Text

namespace CaseRun

/-- Whether a code point is one of the run. -/
def contains (r : CaseRun) (n : Nat) : Bool :=
  r.first ≤ n && n ≤ r.last && (n - r.first) % r.step == 0

/-- The code point that the run maps `n` to. -/
def target (r : CaseRun) (n : Nat) : Nat := ((n : Int) + r.delta).toNat

end CaseRun

/-- The mapping of one character by a table of runs and a table of
expansions; a character in neither maps to itself. -/
def mapChar (runs : List CaseRun) (expansions : List (Nat × List Nat))
    (c : Char) : List Char :=
  match runs.find? (·.contains c.toNat) with
  | some r => [Char.ofNat (r.target c.toNat)]
  | none =>
    match expansions.lookup c.toNat with
    | some ns => ns.map Char.ofNat
    | none => [c]

/-- The upper case of a character. -/
def upperChar (c : Char) : List Char :=
  if c.toNat < 128 then [c.toUpper] else mapChar upperRuns upperExpansions c

/-- The lower case of a character that stands alone. -/
def lowerChar (c : Char) : List Char :=
  if c.toNat < 128 then [c.toLower] else mapChar lowerRuns lowerExpansions c

/-- Whether a code point lies in one of the closed ranges. -/
def inRanges (ranges : List (Nat × Nat)) (c : Char) : Bool :=
  ranges.any fun r => r.1 ≤ c.toNat && c.toNat ≤ r.2

/-- Whether the rule for a final sigma looks through a character. -/
def caseIgnorable (c : Char) : Bool := inRanges caseIgnorableRanges c

/-- Whether a character that is not looked through has a case. -/
def cased (c : Char) : Bool := inRanges casedRanges c

/-- Whether the first character that is not looked through has a case. -/
def startsCased (s : List Char) : Bool :=
  match s.dropWhile caseIgnorable with
  | [] => false
  | c :: _ => cased c

/-- The capital sigma, whose lower case depends on its neighbours. -/
def capitalSigma : Char := Char.ofNat 0x3A3

/-- The lower case of a text that follows a cased character (`after`) or not:
a capital sigma is final after a cased character and before none. -/
def lowerAfter (after : Bool) : List Char → List Char
  | [] => []
  | c :: rest =>
    let lowered :=
      if c = capitalSigma then
        [if after && !startsCased rest then Char.ofNat 0x3C2
         else Char.ofNat 0x3C3]
      else lowerChar c
    lowered ++ lowerAfter (if caseIgnorable c then after else cased c) rest

/-- The upper case of a text, as characters. -/
def upperChars (s : List Char) : List Char := s.flatMap upperChar

@[simp] theorem upperChars_append (s t : List Char) :
    upperChars (s ++ t) = upperChars s ++ upperChars t := by
  simp [upperChars]

/-- The lower case of a text, as characters. -/
def lowerChars (s : List Char) : List Char := lowerAfter false s

/-- The text with its first character in upper case. -/
def upperFirst : List Char → List Char
  | [] => []
  | c :: rest => upperChar c ++ rest

/-- The text with its first character in lower case. -/
def lowerFirst : List Char → List Char
  | [] => []
  | c :: rest => lowerChars [c] ++ rest

/-- The upper case of a text. -/
def upper (s : String) : String := String.ofList (upperChars s.toList)

/-- The lower case of a text. -/
def lower (s : String) : String := String.ofList (lowerChars s.toList)

@[simp] theorem toList_upper (s : String) :
    (upper s).toList = upperChars s.toList :=
  String.toList_ofList

@[simp] theorem toList_lower (s : String) :
    (lower s).toList = lowerChars s.toList :=
  String.toList_ofList

end ClientGen.Text
