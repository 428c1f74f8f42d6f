import Tabular.Number.Binary64
import Tabular.Number.Literal

/-! # Dates and times

A moment is a date, a time of day, or both with a letter `T` or a space between them; only a moment
with both may go on with its distance from universal time.  Seconds may be left out.  A moment is
written back with `T`, with `Z` for universal time, and with nine digits of a second at most. -/

namespace Tabular.Settings.Toml

/-- A number of `count` digits at the front of a text, and what follows. -/
def fixedNumber? (count : Nat) (t : Text) : Option (Nat × Text) :=
  let digits := t.take count
  if digits.length = count && digits.all Char.isDigit then
    (Number.digitsValue? 10 digits).map (·, t.drop count)
  else none

/-- A number written with two digits at least. -/
def twoDigits (n : Nat) : Text :=
  if n < 10 then '0' :: Number.natText n else Number.natText n

/-! ### Dates -/

/-- Whether a year has a day more. -/
def isLeapYear (year : Nat) : Bool :=
  year % 4 == 0 && (year % 100 != 0 || year % 400 == 0)

/-- The number of days of a month. -/
def daysOfMonth (year month : Nat) : Nat :=
  if month = 2 then (if isLeapYear year then 29 else 28)
  else if month = 4 || month = 6 || month = 9 || month = 11 then 30
  else 31

/-- A date at the front of a text, and what follows. -/
def date? (t : Text) : Option (Text × Text) := do
  let (year, t₁) ← fixedNumber? 4 t
  let (month, t₂) ← fixedNumber? 2 (← Text.after? ['-'] t₁)
  let (day, rest) ← fixedNumber? 2 (← Text.after? ['-'] t₂)
  if 1 ≤ month && month ≤ 12 && 1 ≤ day && day ≤ daysOfMonth year month then
    some (t.take 10, rest)
  else none

/-! ### Times of day -/

/-- A part of a second as it is written back. -/
def fractionText (digits : Text) : Text :=
  match ((digits.take 9).reverse.dropWhile (· = '0')).reverse with
  | [] => ['.', '0']
  | kept => '.' :: kept

/-- A part of a second after the seconds, and what follows. -/
def fraction? : Text → Option (Text × Text)
  | '.' :: t =>
    let digits := t.takeWhile Char.isDigit
    if digits.isEmpty then none else some (fractionText digits, t.dropWhile Char.isDigit)
  | t => some ([], t)

/-- Seconds after hour and minute, and what follows. -/
def seconds? : Text → Option (Text × Text)
  | ':' :: t => do
    let (second, rest) ← fixedNumber? 2 t
    let (fraction, rest) ← fraction? rest
    if second ≤ 60 then some (':' :: (twoDigits second ++ fraction), rest) else none
  | t => some ([], t)

/-- Hour and minute at the front of a text, and what follows. -/
def hourMinute? (t : Text) : Option ((Nat × Nat) × Text) := do
  let (hour, t) ← fixedNumber? 2 t
  let (minute, rest) ← fixedNumber? 2 (← Text.after? [':'] t)
  if hour ≤ 23 && minute ≤ 59 then some ((hour, minute), rest) else none

/-- Hour and minute as they are written. -/
def hourMinuteText (hour minute : Nat) : Text :=
  twoDigits hour ++ ':' :: twoDigits minute

/-- A time of day at the front of a text, and what follows. -/
def time? (t : Text) : Option (Text × Text) := do
  let ((hour, minute), rest) ← hourMinute? t
  let (seconds, rest) ← seconds? rest
  return (hourMinuteText hour minute ++ seconds, rest)

/-- The distance from universal time that a text is; no text is no distance. -/
def offset? : Text → Option Text
  | [] => some []
  | c :: t =>
    if c = 'Z' || c = 'z' then (if t.isEmpty then some ['Z'] else none)
    else if c = '+' || c = '-' then
      match hourMinute? t with
      | some ((hour, minute), []) =>
        some ((if hour = 0 && minute = 0 then '+' else c) :: hourMinuteText hour minute)
      | _ => none
    else none

/-! ### Moments -/

/-- A text that is a moment, as it is written back. -/
def moment? (t : Text) : Option Text :=
  match date? t with
  | none =>
    match time? t with
    | some (time, []) => some time
    | _ => none
  | some (date, []) => some date
  | some (date, c :: t) =>
    if c = 'T' || c = 't' || c = ' ' then
      match time? t with
      | some (time, rest) => (offset? rest).map fun offset => date ++ 'T' :: (time ++ offset)
      | none => none
    else none

end Tabular.Settings.Toml
