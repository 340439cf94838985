/-!
# Similar words

Which of some words a mistyped word may have meant. Two words are as similar as
the share of their characters that lie in common blocks: the longest common
block is taken out, and the parts before and after it are compared in turn. At
most three words that share at least three fifths are proposed.
-/

namespace ClientGen.CommandLine

/-- How many characters two texts have in common at their starts. -/
def commonLength : List Char → List Char → Nat
  | a :: as, b :: bs => if a = b then commonLength as bs + 1 else 0
  | _, _ => 0

/-- A common block: where it starts in each text, and its length. -/
structure Block where
  left : Nat
  right : Nat
  length : Nat
  deriving DecidableEq, Repr

/-- The suffixes of a text, the text itself first, each with its start. -/
def suffixes (s : List Char) : List (List Char × Nat) :=
  (List.range s.length).map fun i => (s.drop i, i)

/-- The longest common block, of equally long ones the first in the first text
and then in the second. -/
def longestBlock (a b : List Char) : Block :=
  (suffixes a).foldl (fun best (s, i) =>
    (suffixes b).foldl (fun best (t, j) =>
      let n := commonLength s t
      if best.length < n then ⟨i, j, n⟩ else best) best) ⟨0, 0, 0⟩

/-- How many characters lie in common blocks. The fuel is the length of the
first text. -/
def sharedLength : Nat → List Char → List Char → Nat
  | 0, _, _ => 0
  | fuel + 1, a, b =>
    let m := longestBlock a b
    if m.length = 0 then 0
    else
      m.length + sharedLength fuel (a.take m.left) (b.take m.right) +
        sharedLength fuel (a.drop (m.left + m.length))
          (b.drop (m.right + m.length))

/-- The share of common characters, as a fraction. -/
def similarity (a b : String) : Nat × Nat :=
  (2 * sharedLength a.length a.toList b.toList, a.length + b.length)

/-- Whether a word is a better proposal than another: more similar, or equally
similar and later in order. -/
def better (x y : String × Nat × Nat) : Bool :=
  let l := x.2.1 * y.2.2
  let r := y.2.1 * x.2.2
  r < l || (r = l && y.1 < x.1)

/-- The words that a mistyped word may have meant, in order. -/
def proposals (word : String) (words : List String) : List String :=
  let scored := words.map fun w => (w, similarity w word)
  let close := scored.filter fun x => 3 * x.2.2 ≤ 5 * x.2.1
  let best := (close.mergeSort fun x y => !better y x).take 3
  (best.map (·.1)).mergeSort fun x y => x ≤ y

end ClientGen.CommandLine
