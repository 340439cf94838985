/-!
# Characters of YAML

The character classes that the token rules are stated in. The end of the text
counts as blank wherever a token has to be followed by a blank, so the tests
on a following character take an option.
-/

namespace ClientGen.Yaml

/-- The next-line control, a line break of its own. -/
def nextLine : Char := Char.ofNat 0x85

/-- The line separator, a line break that is kept when lines are joined. -/
def lineSeparator : Char := Char.ofNat 0x2028

/-- The paragraph separator, kept like the line separator. -/
def paragraphSeparator : Char := Char.ofNat 0x2029

/-- The byte order mark, which takes no column. -/
def byteOrderMark : Char := Char.ofNat 0xFEFF

/-- Whether a character ends a line. -/
def isBreak (c : Char) : Bool :=
  c = '\n' || c = '\r' || c = nextLine || c = lineSeparator ||
    c = paragraphSeparator

/-- Whether a character is a blank, a tab or a line break. -/
def isGap (c : Char) : Bool := c = ' ' || c = '\t' || isBreak c

/-- Whether what follows is a gap or the end of the text. -/
def gapFollows (next : Option Char) : Bool := next.all isGap

/-- Whether what follows is a blank, a line break or the end of the text. -/
def blankFollows (next : Option Char) : Bool :=
  next.all fun c => c = ' ' || isBreak c

/-- Whether what follows is a line break or the end of the text. -/
def breakFollows (next : Option Char) : Bool := next.all isBreak

/-- Whether a character may stand in a document at all. -/
def isAllowed (c : Char) : Bool :=
  let n := c.toNat
  n == 0x09 || n == 0x0A || n == 0x0D || (0x20 ≤ n && n ≤ 0x7E) ||
    n == 0x85 || (0xA0 ≤ n && n ≤ 0xD7FF) || (0xE000 ≤ n && n ≤ 0xFFFD) ||
    0x10000 ≤ n

/-- Whether a character may stand in the name of an anchor or a directive. -/
def isNameChar (c : Char) : Bool :=
  c.isAlphanum || c = '-' || c = '_'

/-- Whether a character may stand in a tag. -/
def isTagChar (c : Char) : Bool :=
  c.isAlphanum || "-;/?:@&=+$,_.!~*'()[]%".toList.contains c

end ClientGen.Yaml
