import DocumentStream.Text

/-!
Floating-point numbers of the 64-bit binary format, kept exactly as a sign, a mantissa and a power
of two. Decimal numerals are rounded to the nearest such number, a tie going to the even mantissa.
-/

namespace DocumentStream

/-- A 64-bit binary floating-point number. A finite one is `mantissa * 2 ^ exponent` up to sign,
with the mantissa below `2 ^ 53` and the exponent at least `-1074`; the mantissa is at least
`2 ^ 52` unless the exponent is the least one. -/
inductive Binary64 where
  | finite (negative : Bool) (mantissa : Nat) (exponent : Int)
  | infinite (negative : Bool)
  | notANumber
  deriving DecidableEq, Repr, Inhabited

namespace Binary64

def twoTo (n : Nat) : Nat := Nat.pow 2 n

def tenTo (n : Nat) : Nat := Nat.pow 10 n

def zero (negative : Bool) : Binary64 := .finite negative 0 (-1074)

/-- The quotient rounded to the nearest integer, a tie to the even one. -/
def divNearest (n d : Nat) : Nat :=
  let q := n / d
  let r := n % d
  if 2 * r < d then q else if d < 2 * r then q + 1 else q + q % 2

/-- The exponent that puts a positive quotient into the range of mantissas, as far as the least
exponent permits. -/
def exponentOf (n d : Nat) : Int :=
  let a := n.log2
  let b := d.log2
  let top : Int := if d * twoTo a ≤ n * twoTo b then a - b else a - b - 1
  max (top - 52) (-1074)

/-- The number nearest to a quotient of natural numbers. -/
def ofRatio (negative : Bool) (n d : Nat) : Binary64 :=
  if n = 0 then
    zero negative
  else
    let e := exponentOf n d
    let q := divNearest (n * twoTo (-e).toNat) (d * twoTo e.toNat)
    let (m, e) := if q = twoTo 53 then (twoTo 52, e + 1) else (q, e)
    if 971 < e then .infinite negative else .finite negative m e

/-- The number nearest to `digits * 10 ^ exponent`. Beyond the range of the format the answer
depends on the order of magnitude alone, which spares the powers of ten. -/
def ofDecimal (negative : Bool) (digits : Nat) (exponent : Int) : Binary64 :=
  let length : Int := (Text.ofNat digits).length
  if digits = 0 ∨ length + exponent ≤ -324 then zero negative
  else if 310 < length + exponent then .infinite negative
  else ofRatio negative (digits * tenTo exponent.toNat) (tenTo (-exponent).toNat)

def isZero : Binary64 → Bool
  | .finite _ m _ => m == 0
  | _ => false

/-- How the number compares with an integer; nothing for the one that is not a number. -/
def compareInt? : Binary64 → Int → Option Ordering
  | .finite negative m e, n =>
    let signed : Int := if negative then -m else m
    some (compare (signed * twoTo e.toNat) (n * twoTo (-e).toNat))
  | .infinite negative, _ => some (if negative then .lt else .gt)
  | .notANumber, _ => none

end Binary64

end DocumentStream
