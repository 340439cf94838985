/-!
# Binary floating-point numbers, exactly

A document may hold numbers with a fraction. They are 64-bit binary numbers,
and everything the library does with one (compare it with an integer, round a
decimal to it, print it with the fewest digits) is defined here by exact
integer arithmetic, so that no rule depends on a machine operation.

A finite number is a sign, a mantissa below `2^53` and an exponent; `round`
builds it in its one canonical form (the mantissa has 53 bits, or the exponent
is the least one), so two finite numbers of one sign are equal exactly when
their fields are.
-/

namespace ClientGen.Decimal

/-- A 64-bit binary number. `finite s m e` is `±m·2^e`. -/
inductive Binary64 where
  | nan
  | infinity (negative : Bool)
  | finite (negative : Bool) (mantissa : Nat) (exponent : Int)
  deriving DecidableEq, Repr, Inhabited

namespace Binary64

/-- The exponent of the smallest positive number. -/
def minExponent : Int := -1074

/-- The exponent of the greatest finite number. -/
def maxExponent : Int := 971

/-- Zero, of either sign. -/
def zero (negative : Bool) : Binary64 := .finite negative 0 minExponent

/-- The greatest `k` with `2^k ≤ num / den`, both positive. -/
def floorLog2 (num den : Nat) : Int :=
  let guess : Int := (num.log2 : Int) - (den.log2 : Int)
  let reached :=
    if 0 ≤ guess then den * Nat.pow 2 guess.toNat ≤ num
    else den ≤ num * Nat.pow 2 (-guess).toNat
  if reached then guess else guess - 1

/-- The integer nearest to `num / den`; a half goes to the even neighbour. -/
def nearest (num den : Nat) : Nat :=
  let q := num / den
  let r := num % den
  if den < 2 * r then q + 1
  else if 2 * r < den then q
  else if q % 2 = 0 then q else q + 1

/-- The number nearest to `±num / den`; a tie goes to the even mantissa. -/
def round (negative : Bool) (num den : Nat) : Binary64 :=
  if num = 0 then zero negative else
  let e := max (floorLog2 num den - 52) minExponent
  let m :=
    if 0 ≤ e then nearest num (den * Nat.pow 2 e.toNat)
    else nearest (num * Nat.pow 2 (-e).toNat) den
  if m = Nat.pow 2 53 then
    if maxExponent < e + 1 then .infinity negative
    else .finite negative (Nat.pow 2 52) (e + 1)
  else if maxExponent < e then .infinity negative
  else .finite negative m e

/-- The number nearest to `±digits·10^exponent`. Exponents beyond the range
of the format are settled without forming the power. -/
def ofDecimal (negative : Bool) (digits : Nat) (exponent : Int) : Binary64 :=
  if digits = 0 then zero negative
  else if 400 < exponent then .infinity negative
  else if exponent < -(400 + (digits.log2 : Int)) then zero negative
  else if 0 ≤ exponent then round negative (digits * Nat.pow 10 exponent.toNat) 1
  else round negative digits (Nat.pow 10 (-exponent).toNat)

/-- The number nearest to `±m·2^e`. -/
def ofDyadic (negative : Bool) (m : Nat) (e : Int) : Binary64 :=
  if 0 ≤ e then round negative (m * Nat.pow 2 e.toNat) 1
  else round negative m (Nat.pow 2 (-e).toNat)

/-- The number nearest to an integer. -/
def ofInt (n : Int) : Binary64 := round (n < 0) n.natAbs 1

/-- The exact value of a finite number. -/
def toDyadic? : Binary64 → Option Dyadic
  | .finite negative m e =>
    some (Dyadic.ofIntWithPrec (if negative then -(m : Int) else m) (-e))
  | _ => none

/-- Whether the number is not a number. -/
def isNaN : Binary64 → Bool
  | .nan => true
  | _ => false

/-- Whether the number is one of the two zeros. -/
def isZero : Binary64 → Bool
  | .finite _ m _ => m == 0
  | _ => false

/-- Equal in value: the two zeros are, and `nan` is the same as `nan`. -/
def same (x y : Binary64) : Bool := (x.isZero && y.isZero) || x == y

/-- The number with its sign turned over. -/
def neg : Binary64 → Binary64
  | .nan => .nan
  | .infinity s => .infinity (!s)
  | .finite s m e => .finite (!s) m e

/-- The rounded sum. -/
def add : Binary64 → Binary64 → Binary64
  | .nan, _ | _, .nan => .nan
  | .infinity s, .infinity t => if s = t then .infinity s else .nan
  | .infinity s, _ | _, .infinity s => .infinity s
  | .finite s m e, .finite t n f =>
    let low := min e f
    let a : Int := m * (Nat.pow 2 (e - low).toNat : Nat)
    let b : Int := n * (Nat.pow 2 (f - low).toNat : Nat)
    let sum := (if s then -a else a) + (if t then -b else b)
    if sum = 0 then zero (s && t) else ofDyadic (sum < 0) sum.natAbs low

/-- The rounded product. -/
def mul : Binary64 → Binary64 → Binary64
  | .nan, _ | _, .nan => .nan
  | .infinity s, .infinity t => .infinity (s != t)
  | .infinity s, .finite t n _ => if n = 0 then .nan else .infinity (s != t)
  | .finite s m _, .infinity t => if m = 0 then .nan else .infinity (s != t)
  | .finite s m e, .finite t n f => ofDyadic (s != t) (m * n) (e + f)

end Binary64

end ClientGen.Decimal
