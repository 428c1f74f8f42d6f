import Tabular.Number.Literal

/-! # Numbers of 64 bits

A number of 64 bits is a whole multiple of `2 ^ (-1074)`, so it is held as a sign and the number of
these units; infinity is held as the next number after the largest one, `2 ^ 1024`.  Comparison is
then comparison of integers, and rounding is exact arithmetic on natural numbers: a half goes to
the even neighbour.

`shortest` gives the fewest digits that read back as the same number and, among those, the nearest.
`plainText` writes them without an exponent, whatever the size; `compactText` writes them with a point
and goes over to an exponent when more than 16 places before the point or 5 after it would be
needed. -/

namespace Tabular.Number

/-- A number of 64 bits, in units of `2 ^ (-1074)`. -/
structure Binary64 where
  negative : Bool
  units : Nat
  deriving DecidableEq, Repr

namespace Binary64

/-- The units that stand for infinity: `2 ^ 1024` of them make the first number out of range. -/
def infiniteUnits : Nat :=
  Nat.pow 2 2098

/-- The number as an integer count of units; zero of either sign is zero. -/
def toInt (x : Binary64) : Int :=
  if x.negative then -x.units else x.units

/-- Zero. -/
def zero : Binary64 :=
  ⟨false, 0⟩

/-- The quotient rounded to the nearest whole number, a half to the even one. -/
def roundDiv (num den : Nat) : Nat :=
  let quotient := num / den
  let twice := 2 * (num % den)
  if twice < den then quotient
  else if den < twice then quotient + 1
  else quotient + quotient % 2

/-- The units of the number nearest to `num / den`: 53 leading bits are kept. -/
def nearestUnits (num den : Nat) : Nat :=
  let scaled := num * Nat.pow 2 1074
  let surplus := Nat.pow 2 ((scaled / den).log2 + 1 - 53)
  min (roundDiv scaled (den * surplus) * surplus) infiniteUnits

/-- The units of the number nearest to `digits * 10 ^ exponent`.  An exponent that takes the
number out of range whatever its digits are is not multiplied out. -/
def unitsOfDecimal (digits : Nat) (exponent : Int) : Nat :=
  if digits = 0 then 0
  else if 400 < exponent then infiniteUnits
  else if exponent < -400 - digits.log2 then 0
  else if 0 ≤ exponent then nearestUnits (digits * Nat.pow 10 exponent.toNat) 1
  else nearestUnits digits (Nat.pow 10 (-exponent).toNat)

/-- The number nearest to a decimal. -/
def ofDecimal (negative : Bool) (digits : Nat) (exponent : Int) : Binary64 :=
  ⟨negative, unitsOfDecimal digits exponent⟩

/-- Whether a number is out of range. -/
def isInfinite (x : Binary64) : Bool :=
  x.units == infiniteUnits

end Binary64

/-! ### The value of a literal -/

/-- The number that digits write. -/
def natOfDigits (digits : Text) : Nat :=
  digits.foldl (fun n c => 10 * n + (c.toNat - '0'.toNat)) 0

/-- The number that an exponent writes. -/
def Exponent.value (e : Exponent) : Int :=
  if e.sign = some '-' then -natOfDigits e.digits else natOfDigits e.digits

/-- The number of 64 bits that a literal stands for. -/
def Literal.value : Literal → Binary64
  | infinity sign => ⟨sign = some '-', Binary64.infiniteUnits⟩
  | decimal sign whole fraction exponent =>
    let places := fraction.getD []
    Binary64.ofDecimal (sign = some '-') (natOfDigits (whole ++ places))
      (exponent.elim 0 Exponent.value - places.length)

/-- The value of the literal at the front of a text, white space before it passed over. -/
def valueOfFront? (t : Text) : Option Binary64 :=
  (Literal.scan? (Text.trimStart t)).map fun (l, _) => l.value

/-! ### The shortest decimal of a number -/

/-- A decimal `digits * 10 ^ exponent`. -/
structure Decimal where
  digits : Nat
  exponent : Int
  deriving DecidableEq, Repr

namespace Decimal

/-- The whole part of `units * 2 ^ (-1074) / 10 ^ exponent`. -/
def wholePart (units : Nat) (exponent : Int) : Nat :=
  if 0 ≤ exponent then units / (Nat.pow 2 1074 * Nat.pow 10 exponent.toNat)
  else units * Nat.pow 10 (-exponent).toNat / Nat.pow 2 1074

/-- The exponent of the first decimal digit of a number, from the exponent of its first binary
digit and one step of correction. -/
def leadingExponent (units : Nat) : Int :=
  let guess : Int := ((units.log2 : Int) - 1074) * 30103 / 100000
  if wholePart units guess = 0 then guess - 1
  else if 10 ≤ wholePart units guess then guess + 1
  else guess

/-- Whether the first decimal is at most as far from the number as the second, one step above. -/
def lowerIsNearer (units low : Nat) (exponent : Int) : Bool :=
  if 0 ≤ exponent then 2 * units ≤ (2 * low + 1) * (Nat.pow 2 1074 * Nat.pow 10 exponent.toNat)
  else 2 * units * Nat.pow 10 (-exponent).toNat ≤ (2 * low + 1) * Nat.pow 2 1074

/-- The decimal on the grid of step `10 ^ exponent` that is nearest to the number among those that
read back as it. -/
def onGrid? (units : Nat) (exponent : Int) : Option Decimal :=
  let low := wholePart units exponent
  let lowFits := Binary64.unitsOfDecimal low exponent == units
  let highFits := Binary64.unitsOfDecimal (low + 1) exponent == units
  if lowFits && (!highFits || lowerIsNearer units low exponent) then some ⟨low, exponent⟩
  else if highFits then some ⟨low + 1, exponent⟩
  else none

/-- Moves the zeros at the end of the digits into the exponent; there are fewer than `steps`. -/
def dropZeros : (steps : Nat) → Decimal → Decimal
  | 0, d => d
  | steps + 1, d =>
    if d.digits ≠ 0 && d.digits % 10 = 0 then dropZeros steps ⟨d.digits / 10, d.exponent + 1⟩
    else d

end Decimal

/-- The shortest decimal that reads back as the number of these units; 17 digits always do. -/
def shortest (units : Nat) : Decimal :=
  let leading := Decimal.leadingExponent units
  let found := (List.range 17).findSome? fun (n : Nat) => Decimal.onGrid? units (leading - n)
  Decimal.dropZeros 20 (found.getD ⟨Decimal.wholePart units (leading - 16), leading - 16⟩)

/-- Decimal digits of a natural number. -/
def natText (n : Nat) : Text :=
  Nat.toDigits 10 n

/-- Decimal digits of an integer with its sign. -/
def intText (n : Int) : Text :=
  if n < 0 then '-' :: natText n.natAbs else natText n.natAbs

/-- A decimal written without an exponent. -/
def Decimal.plainText (d : Decimal) : Text :=
  let s := natText d.digits
  if 0 ≤ d.exponent then s ++ List.replicate d.exponent.toNat '0'
  else
    let places := (-d.exponent).toNat
    if places < s.length then s.take (s.length - places) ++ '.' :: s.drop (s.length - places)
    else '0' :: '.' :: (List.replicate (places - s.length) '0' ++ s)

/-- A decimal written with a point, or with an exponent if it is very large or very small. -/
def Decimal.compactText (d : Decimal) : Text :=
  let s := natText d.digits
  let point : Int := s.length + d.exponent
  if 0 ≤ d.exponent && point ≤ 16 then
    s ++ List.replicate d.exponent.toNat '0' ++ ['.', '0']
  else if 0 < point && point ≤ 16 then s.take point.toNat ++ '.' :: s.drop point.toNat
  else if -5 < point && point ≤ 0 then
    '0' :: '.' :: (List.replicate (-point).toNat '0' ++ s)
  else if s.length = 1 then s ++ 'e' :: intText (point - 1)
  else s.take 1 ++ '.' :: s.drop 1 ++ 'e' :: intText (point - 1)

namespace Binary64

/-- The sign of a number as it is written. -/
def signText (x : Binary64) : Text :=
  if x.negative then ['-'] else []

/-- A number without an exponent: `1000`, `0.5`, `-0`, `inf`. -/
def plainText (x : Binary64) : Text :=
  x.signText ++
    (if x.isInfinite then "inf".toList
      else if x.units = 0 then ['0']
      else (shortest x.units).plainText)

/-- A number with a point or an exponent: `1000.0`, `0.5`, `1e20`, `.inf`. -/
def compactText (x : Binary64) : Text :=
  x.signText ++
    (if x.isInfinite then ".inf".toList
      else if x.units = 0 then ['0', '.', '0']
      else (shortest x.units).compactText)

end Binary64

end Tabular.Number
