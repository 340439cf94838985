import ClientGen.Decimal.Binary64

/-!
# The shortest decimal of a binary number

`Binary64.shortest` looks for the fewest decimal digits that read back as the
given number. On the grid of `k`-digit decimals the number lies between two
neighbours, and if any decimal of `k` digits reads back then one of these two
does; so `k = 1, 2, …, 17` are tried in turn, and of two that read back the
nearer is taken, the even one if they are equally near. `Layout.text` then
writes the digits: positionally for moderate exponents, in scientific notation
otherwise.
-/

namespace ClientGen.Decimal

/-- The decimal `0.d₁d₂…dₙ·10^point`, with `digits = d₁…dₙ`. -/
structure Expansion where
  digits : List Char
  point : Int
  deriving DecidableEq, Repr

/-- How many decimal digits a number has. -/
def digitCount (n : Nat) : Nat := (Nat.toDigits 10 n).length

namespace Binary64

/-- The least `p` with `m·2^e < 10^p`, for a positive number of this format.
No such number is below `10^-400`. -/
def decimalPoint (m : Nat) (e : Int) : Int :=
  let scaled :=
    if 0 ≤ e then m * Nat.pow 2 e.toNat * Nat.pow 10 400
    else m * Nat.pow 10 400 / Nat.pow 2 (-e).toNat
  (digitCount scaled : Int) - 400

/-- `m·2^e / 10^s` as a fraction. -/
def scaledBy (m : Nat) (e s : Int) : Nat × Nat :=
  let num := if 0 ≤ e then m * Nat.pow 2 e.toNat else m
  let den := if 0 ≤ e then 1 else Nat.pow 2 (-e).toNat
  if 0 ≤ s then (num, den * Nat.pow 10 s.toNat) else (num * Nat.pow 10 (-s).toNat, den)

/-- A decimal of `k` digits that reads back as `m·2^e`, as `c·10^s`. -/
def atDigits? (m : Nat) (e : Int) (k : Nat) : Option (Nat × Int) :=
  let s := decimalPoint m e - k
  let (num, den) := scaledBy m e s
  let low := num / den
  let x := Binary64.finite false m e
  let lowReads := ofDecimal false low s == x
  let highReads := ofDecimal false (low + 1) s == x
  if lowReads && highReads then some (nearest num den, s)
  else if lowReads then some (low, s)
  else if highReads then some (low + 1, s)
  else none

/-- The first of the digit counts `k, k+1, …` (at most `fuel` of them) at which
a decimal reads back. -/
def shortestFrom (m : Nat) (e : Int) : Nat → Nat → Nat × Int
  | 0, k => (atDigits? m e k).getD (m, e)
  | fuel + 1, k => (atDigits? m e k).getD (shortestFrom m e fuel (k + 1))

/-- The digits of `c` without its trailing zeros. -/
def significantDigits (c : Nat) : List Char :=
  ((Nat.toDigits 10 c).reverse.dropWhile (· == '0')).reverse

/-- The shortest decimal that reads back as the positive number `m·2^e`. -/
def shortest (m : Nat) (e : Int) : Expansion :=
  let (c, s) := shortestFrom m e 16 1
  ⟨significantDigits c, (digitCount c : Int) + s⟩

end Binary64

/-- Where positional notation ends and how the rest is written. -/
structure Layout where
  /-- The least `point` written positionally. -/
  least : Int
  /-- The greatest `point` written positionally. -/
  greatest : Int
  /-- The least number of exponent digits. -/
  exponentDigits : Nat
  infinity : String
  nan : String

namespace Layout

/-- A decimal without an exponent; a whole number keeps one zero after the
point. -/
def positional (d : Expansion) : List Char :=
  if d.point ≤ 0 then
    '0' :: '.' :: (List.replicate (-d.point).toNat '0' ++ d.digits)
  else
    let whole := d.point.toNat
    if d.digits.length ≤ whole then
      d.digits ++ List.replicate (whole - d.digits.length) '0' ++ ['.', '0']
    else d.digits.take whole ++ '.' :: d.digits.drop whole

/-- A decimal with one digit before the point and an exponent. -/
def scientific (width : Nat) (d : Expansion) : List Char :=
  let e := d.point - 1
  let power := Nat.toDigits 10 e.natAbs
  let fraction := match d.digits.drop 1 with
    | [] => []
    | rest => '.' :: rest
  d.digits.take 1 ++ fraction ++ 'e' :: (if e < 0 then '-' else '+') ::
    (List.replicate (width - power.length) '0' ++ power)

/-- The written form of a number. -/
def text (l : Layout) : Binary64 → String
  | .nan => l.nan
  | .infinity negative => (if negative then "-" else "") ++ l.infinity
  | .finite negative m e =>
    let d : Expansion := if m = 0 then ⟨['0'], 1⟩ else Binary64.shortest m e
    let body :=
      if l.least ≤ d.point ∧ d.point ≤ l.greatest then positional d
      else scientific l.exponentDigits d
    String.ofList (if negative then '-' :: body else body)

end Layout

end ClientGen.Decimal
