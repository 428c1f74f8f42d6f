import Tabular.Text

/-! # Number literals

A literal is an optional sign followed by `Infinity`, or by digits with an optional point among or
around them and an optional exponent.  `Literal.scan?` takes the longest literal from the front of
a text and keeps its pieces, so that `Literal.text` gives back what was taken.

Digits to a base are those of the base 16, whose letters may be of either case; a smaller base takes
only the first of them. -/

namespace Tabular.Number

/-! ### Literals -/

/-- The exponent of a literal: its letter, its sign and its digits. -/
structure Exponent where
  letter : Char
  sign : Option Char
  digits : Text
  deriving DecidableEq, Repr

/-- A number as it is written. -/
inductive Literal where
  /-- `Infinity` with an optional sign. -/
  | infinity (sign : Option Char)
  /-- Digits before the point; if there is a point, the digits after it; and the exponent. -/
  | decimal (sign : Option Char) (whole : Text) (fraction : Option Text)
      (exponent : Option Exponent)
  deriving DecidableEq, Repr

/-- The word for an unbounded number. -/
def infinityWord : Text :=
  "Infinity".toList

/-! ### Written form -/

namespace Exponent

/-- The exponent as it is written. -/
def text (e : Exponent) : Text :=
  e.letter :: (e.sign.toList ++ e.digits)

end Exponent

namespace Literal

/-- The literal as it is written. -/
def text : Literal → Text
  | infinity sign => sign.toList ++ infinityWord
  | decimal sign whole fraction exponent =>
    sign.toList ++ whole ++ (fraction.elim [] ('.' :: ·)) ++ (exponent.elim [] Exponent.text)

end Literal

/-! ### Scanning -/

/-- An optional sign and what follows it. -/
def scanSign : Text → Option Char × Text
  | c :: t => if c = '+' || c = '-' then (some c, t) else (none, c :: t)
  | [] => (none, [])

/-- The digits at the front of a text and what follows them. -/
def scanDigits (t : Text) : Text × Text :=
  (t.takeWhile Char.isDigit, t.dropWhile Char.isDigit)

/-- An optional point with the digits after it, and what follows. -/
def scanFraction : Text → Option Text × Text
  | '.' :: t => (some (scanDigits t).1, (scanDigits t).2)
  | t => (none, t)

/-- Digits with an optional point among or around them, at least one digit in all. -/
def scanMantissa? (t : Text) : Option ((Text × Option Text) × Text) :=
  let (whole, rest) := scanDigits t
  let (fraction, rest) := scanFraction rest
  if whole.isEmpty && fraction.getD [] == [] then none else some ((whole, fraction), rest)

/-- An exponent with at least one digit, if there is one, and what follows. -/
def scanExponent : Text → Option Exponent × Text
  | c :: t =>
    if c = 'e' || c = 'E' then
      let (sign, rest) := scanSign t
      let (digits, rest) := scanDigits rest
      if digits.isEmpty then (none, c :: t) else (some ⟨c, sign, digits⟩, rest)
    else (none, c :: t)
  | [] => (none, [])

/-- The literal at the front of a text and what follows it. -/
def Literal.scan? (t : Text) : Option (Literal × Text) :=
  let (sign, body) := scanSign t
  match Text.after? infinityWord body with
  | some rest => some (.infinity sign, rest)
  | none =>
    match scanMantissa? body with
    | none => none
    | some ((whole, fraction), rest) =>
      let (exponent, rest) := scanExponent rest
      some (.decimal sign whole fraction exponent, rest)

/-- Whether a text without the white space around it is one literal. -/
def isLiteral (t : Text) : Bool :=
  match Literal.scan? (Text.trim t) with
  | some (_, rest) => rest.isEmpty
  | none => false

/-! ### Proper literals -/

/-- Whether digits are there and no zeros stand in front of them. -/
def isProperWhole : Text → Bool
  | [] => false
  | ['0'] => true
  | c :: _ => c != '0'

/-- Whether a literal has digits in front of its point and behind it, and no zeros in front. -/
def Literal.isProper : Literal → Bool
  | infinity _ => false
  | decimal _ whole fraction _ => isProperWhole whole && fraction != some []

/-! ### Digits to a base -/

/-- The value of a digit to the base 16. -/
def digitValue? (c : Char) : Option Nat :=
  if c.isDigit then some (c.toNat - '0'.toNat)
  else if 'a' ≤ c && c ≤ 'f' then some (c.toNat - 'a'.toNat + 10)
  else if 'A' ≤ c && c ≤ 'F' then some (c.toNat - 'A'.toNat + 10)
  else none

/-- Whether a character is a digit to a base. -/
def isDigitOf (base : Nat) (c : Char) : Bool :=
  (digitValue? c).any (· < base)

/-- The number that digits to a base write, of which there is at least one. -/
def digitsValue? (base : Nat) (t : Text) : Option Nat :=
  if t.isEmpty || !t.all (isDigitOf base) then none
  else some (t.foldl (fun n c => base * n + (digitValue? c).getD 0) 0)

/-- The number that `count` digits to the base 16 write after the number `n`, and what follows. -/
def hexNumber? : (count n : Nat) → Text → Option (Nat × Text)
  | 0, n, t => some (n, t)
  | count + 1, n, c :: t => (digitValue? c).bind fun d => hexNumber? count (16 * n + d) t
  | _ + 1, _, [] => none

/-- The character with a number. -/
def charOf? (n : Nat) : Option Char :=
  if (0xD800 ≤ n && n ≤ 0xDFFF) || 0x10FFFF < n then none else some (Char.ofNat n)

end Tabular.Number
