import DocumentStream.Binary64

/-!
The decimal text of a floating-point number: the fewest digits that still read back as the number,
and of those the digits nearest to it. All comparisons are exact, on natural numbers.
-/

namespace DocumentStream

/-- The number `digits * 10 ^ exponent`. -/
structure Decimal where
  digits : Nat
  exponent : Int
  deriving DecidableEq, Repr

/-- How floating-point numbers are laid out: in positional notation when the exponent of the first
digit is at least `leastPositional` and below `positionalEnd`, and with an exponent of at least
two digits otherwise. -/
structure FloatLayout where
  leastPositional : Int
  positionalEnd : Int
  infinity : Text
  notANumber : Text

namespace Binary64

/-- The exponent of the first decimal digit of a positive quotient. -/
def leadingExponent (n d : Nat) : Int :=
  let difference : Int := (Text.ofNat n).length - (Text.ofNat d).length
  if d * tenTo difference.toNat ≤ n * tenTo (-difference).toNat then difference else difference - 1

/-- The points next to the value `m * 2 ^ e` on the grid of multiples of `10 ^ k` that read back
as the value, the nearer one first, the even one first if they are equally near. A real number
reads back as the value when it lies within half a step to each neighbouring mantissa; the ends
count if the mantissa is even. -/
def readBackAt? (m : Nat) (e k : Int) : Option Nat :=
  let step := twoTo (e - 2).toNat * tenTo (-k).toNat
  let grid := tenTo k.toNat * twoTo (2 - e).toNat
  let below := if m = twoTo 52 ∧ -1074 < e then 1 else 2
  let low := (4 * m - below) * step
  let value := 4 * m * step
  let high := (4 * m + 2) * step
  let readsBack (point : Nat) : Bool :=
    if m % 2 = 0 then decide (low ≤ point * grid ∧ point * grid ≤ high)
    else decide (low < point * grid ∧ point * grid < high)
  let q := value / grid
  let toLower := value - q * grid
  let toUpper := (q + 1) * grid - value
  match readsBack q, readsBack (q + 1) with
  | false, false => none
  | true, false => some q
  | false, true => some (q + 1)
  | true, true =>
    some (if toLower < toUpper then q else if toUpper < toLower then q + 1 else q + q % 2)

/-- A decimal without zeros at the end of its digits. -/
def dropZeros : (fuel : Nat) → Decimal → Decimal
  | 0, x => x
  | fuel + 1, x =>
    if x.digits ≠ 0 ∧ x.digits % 10 = 0 then dropZeros fuel ⟨x.digits / 10, x.exponent + 1⟩ else x

/-- The shortest decimal that reads back as the positive value `m * 2 ^ e`. Seventeen digits
always suffice. -/
def shortest (m : Nat) (e : Int) : Decimal :=
  let leading := leadingExponent (m * twoTo e.toNat) (twoTo (-e).toNat)
  let found := (List.range 17).findSome? fun (n : Nat) =>
    let k : Int := leading - n
    (readBackAt? m e k).map fun digits => Decimal.mk digits k
  dropZeros 20 (found.getD ⟨0, 0⟩)

/-- The digits of a positive decimal, laid out. -/
def layOut (layout : FloatLayout) (x : Decimal) : Text :=
  let digits := Text.ofNat x.digits
  let leading := digits.length + x.exponent - 1
  if layout.leastPositional ≤ leading ∧ leading < layout.positionalEnd then
    if leading < 0 then
      ['0', '.'] ++ Text.times (-leading - 1) ['0'] ++ digits
    else if digits.length ≤ leading.toNat + 1 then
      digits ++ Text.times x.exponent ['0'] ++ ['.', '0']
    else
      digits.take (leading.toNat + 1) ++ '.' :: digits.drop (leading.toNat + 1)
  else
    let fraction := if digits.length ≤ 1 then [] else '.' :: digits.drop 1
    let sign := if leading < 0 then '-' else '+'
    let exponent := Text.ofNat leading.natAbs
    let padding := if exponent.length < 2 then ['0'] else []
    digits.take 1 ++ fraction ++ 'e' :: sign :: padding ++ exponent

/-- The text of a number in the given layout. -/
def text (layout : FloatLayout) : Binary64 → Text
  | .finite negative m e =>
    (if negative then ['-'] else []) ++
      if m = 0 then ['0', '.', '0'] else layOut layout (shortest m e)
  | .infinite negative => (if negative then ['-'] else []) ++ layout.infinity
  | .notANumber => layout.notANumber

end Binary64

end DocumentStream
