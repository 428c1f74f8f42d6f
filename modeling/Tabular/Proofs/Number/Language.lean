import Mathlib.Data.List.TakeWhile
import Mathlib.Tactic.IntervalCases
import Tabular.Number.Literal
import Tabular.Proofs.Text.Scanner

/-! # The language of number literals

`Words.literal` is the language of number literals, put together from the languages of its pieces.
`InOrder.literal` scans such a literal piece by piece and in order: an option is taken whenever it
is there, and a choice that has succeeded is not taken back.  Every piece ends before the next one,
so this scanner takes the longest literal that stands at the front of a text
(`takesLongest_literal`).  `Literal.scan?` does the same and keeps the pieces (`literal_eq`).

A literal is made of digits, signs, the point, the letter of an exponent and the letters of
`Infinity` (`isLiteralChar_of_isLiteral`), so it has neither white space nor quotation marks nor
other letters in it.  A letter stands at its front only if it is that word
(`opening_of_isLiteral`). -/

namespace Tabular.Number

open scoped Computability

/-- Whether a character is a sign. -/
def isSign (c : Char) : Bool :=
  c = '+' || c = '-'

/-- Whether a character is the point in front of the places. -/
def isPoint (c : Char) : Bool :=
  c = '.'

/-- Whether a character opens an exponent. -/
def isExponentLetter (c : Char) : Bool :=
  c = 'e' || c = 'E'

/-! ### Words -/

namespace Words

/-- A sign or nothing. -/
def sign : Language Char :=
  ofKind isSign + 1

/-- Digits, at least one. -/
def digits : Language Char :=
  ofKind Char.isDigit * (ofKind Char.isDigit)∗

/-- A point and digits, or nothing. -/
def places : Language Char :=
  ofKind isPoint * (ofKind Char.isDigit)∗ + 1

/-- Digits with or without places, or a point and digits. -/
def mantissa : Language Char :=
  digits * places + ofKind isPoint * digits

/-- The letter of an exponent, a sign or nothing, and digits; or nothing. -/
def exponent : Language Char :=
  ofKind isExponentLetter * (sign * digits) + 1

/-- A number in digits. -/
def decimal : Language Char :=
  sign * (mantissa * exponent)

/-- A number without bound. -/
def infinity : Language Char :=
  sign * {infinityWord}

/-- A number literal. -/
def literal : Language Char :=
  infinity + decimal

end Words

/-! ### Scanning in order

The same pieces, each looked for once and in the order in which they stand. -/

namespace InOrder

open Scanner (one many word)

def sign : Scanner :=
  (one isSign).optional

def digits : Scanner :=
  (one Char.isDigit).andThen (many Char.isDigit)

def places : Scanner :=
  ((one isPoint).andThen (many Char.isDigit)).optional

def mantissa : Scanner :=
  (digits.andThen places).orElse ((one isPoint).andThen digits)

def exponent : Scanner :=
  ((one isExponentLetter).andThen (sign.andThen digits)).optional

def decimal : Scanner :=
  sign.andThen (mantissa.andThen exponent)

def infinity : Scanner :=
  sign.andThen (word infinityWord)

def literal : Scanner :=
  infinity.orElse decimal

end InOrder

/-! ### The pieces -/

section pieces

variable {kind : Char → Bool} {w : Text}

theorem isOver_sign (h : ∀ c, isSign c = true → kind c = true) : IsOver kind Words.sign :=
  (IsOver.ofKind h).add .nothing

theorem isOver_digits (h : ∀ c : Char, c.isDigit = true → kind c = true) :
    IsOver kind Words.digits :=
  (IsOver.ofKind h).mul (.kstar h)

theorem isOver_mantissa (digit : ∀ c : Char, c.isDigit = true → kind c = true)
    (point : kind '.' = true) : IsOver kind Words.mantissa := by
  have point : ∀ c, isPoint c = true → kind c = true := by simpa [isPoint] using point
  have places : IsOver kind Words.places := ((IsOver.ofKind point).mul (.kstar digit)).add .nothing
  exact ((isOver_digits digit).mul places).add ((IsOver.ofKind point).mul (isOver_digits digit))

theorem exists_of_mem_digits (h : w ∈ Words.digits) : ∃ c u, c.isDigit = true ∧ w = c :: u := by
  obtain ⟨c, u, digit, -, e⟩ := mem_ofKind_mul.mp h
  exact ⟨c, u, digit, e⟩

theorem exists_of_mem_mantissa (h : w ∈ Words.mantissa) :
    ∃ c u, (c.isDigit || isPoint c) = true ∧ w = c :: u := by
  rcases h with ⟨_, mem, v, -, rfl⟩ | mem
  · obtain ⟨c, u, digit, rfl⟩ := exists_of_mem_digits mem
    exact ⟨c, u ++ v, by rw [digit, Bool.true_or], rfl⟩
  · obtain ⟨c, u, point, -, e⟩ := mem_ofKind_mul.mp mem
    exact ⟨c, u, by rw [point, Bool.or_true], e⟩

theorem eq_of_isSign {c : Char} (h : isSign c = true) : c = '+' ∨ c = '-' := by
  simpa [isSign] using h

theorem eq_of_isExponentLetter {c : Char} (h : isExponentLetter c = true) : c = 'e' ∨ c = 'E' := by
  simpa [isExponentLetter] using h

theorem not_isDigit_of_isPoint {c : Char} (h : isPoint c = true) : c.isDigit = false := by
  rw [of_decide_eq_true h]
  decide

theorem not_isSign_of_isDigit {c : Char} (h : c.isDigit = true) : isSign c = false := by
  rw [Bool.eq_false_iff]
  intro sign
  rcases eq_of_isSign sign with rfl | rfl <;> cases h

theorem not_isSign_of_opens {c : Char} (h : (c.isDigit || isPoint c) = true) :
    isSign c = false := by
  rcases Bool.or_eq_true_iff.mp h with digit | point
  · exact not_isSign_of_isDigit digit
  · rw [of_decide_eq_true point]
    decide

theorem not_opens_of_isExponentLetter {c : Char} (h : isExponentLetter c = true) :
    (c.isDigit || isPoint c) = false := by
  rcases eq_of_isExponentLetter h with rfl | rfl <;> decide

theorem takesLongest_sign : TakesLongest InOrder.sign Words.sign :=
  (TakesLongest.one isSign).optional

theorem takesLongest_digits : TakesLongest InOrder.digits Words.digits :=
  (TakesLongest.one Char.isDigit).andThen (.many Char.isDigit) (endsBefore_of_ofKind _)

theorem takesLongest_places : TakesLongest InOrder.places Words.places :=
  ((TakesLongest.one isPoint).andThen (.many Char.isDigit) (endsBefore_of_ofKind _)).optional

theorem takesLongest_mantissa : TakesLongest InOrder.mantissa Words.mantissa := by
  refine (takesLongest_digits.andThen takesLongest_places ?_).orElse
    ((TakesLongest.one isPoint).andThen takesLongest_digits (endsBefore_of_ofKind _)) ?_
  · refine (isOver_digits fun _ h => h).endsBefore ?_
    rintro v (mem | rfl) c first
    · obtain ⟨d, u, point, -, rfl⟩ := mem_ofKind_mul.mp mem
      cases first
      exact not_isDigit_of_isPoint point
    · cases first
  · -- One begins with a digit and the other one with the point.
    rintro _ ⟨_, mem, v, -, rfl⟩ _ mem' front
    obtain ⟨c, u, digit, rfl⟩ := exists_of_mem_digits mem
    obtain ⟨d, u', point, -, rfl⟩ := mem_ofKind_mul.mp mem'
    rw [(List.cons_prefix_cons.mp front).1, not_isDigit_of_isPoint point] at digit
    cases digit

theorem takesLongest_exponent : TakesLongest InOrder.exponent Words.exponent := by
  refine ((TakesLongest.one isExponentLetter).andThen
    (takesLongest_sign.andThen takesLongest_digits ?_) (endsBefore_of_ofKind _)).optional
  refine (isOver_sign fun _ h => h).endsBefore fun v mem c first => ?_
  obtain ⟨d, u, digit, rfl⟩ := exists_of_mem_digits mem
  cases first
  exact not_isSign_of_isDigit digit

theorem takesLongest_decimal : TakesLongest InOrder.decimal Words.decimal := by
  refine takesLongest_sign.andThen (takesLongest_mantissa.andThen takesLongest_exponent ?_) ?_
  · have made : IsOver (fun c => c.isDigit || isPoint c) Words.mantissa :=
      isOver_mantissa (fun c digit => by rw [digit, Bool.true_or]) (by decide)
    refine made.endsBefore ?_
    rintro v (mem | rfl) c first
    · obtain ⟨d, u, letter, -, rfl⟩ := mem_ofKind_mul.mp mem
      cases first
      exact not_opens_of_isExponentLetter letter
    · cases first
  · refine (isOver_sign fun _ h => h).endsBefore ?_
    rintro _ ⟨w, mem, v, -, rfl⟩ c first
    obtain ⟨d, u, opens, rfl⟩ := exists_of_mem_mantissa mem
    cases first
    exact not_isSign_of_opens opens

theorem takesLongest_infinity : TakesLongest InOrder.infinity Words.infinity := by
  refine takesLongest_sign.andThen (.word infinityWord) ?_
  refine (isOver_sign fun _ h => h).endsBefore ?_
  rintro _ rfl c first
  cases first
  decide

end pieces

/-! ### Literals -/

/-- A character that a literal in digits may have. -/
def isDecimalChar (c : Char) : Bool :=
  c.isDigit || "+-.eE".toList.contains c

theorem isDecimalChar_of_isSign {c : Char} (h : isSign c = true) : isDecimalChar c = true := by
  rcases eq_of_isSign h with rfl | rfl <;> decide

theorem isOver_decimal : IsOver isDecimalChar Words.decimal := by
  have digit : ∀ c : Char, c.isDigit = true → isDecimalChar c = true :=
    fun c h => by rw [isDecimalChar, h, Bool.true_or]
  have letter : ∀ c, isExponentLetter c = true → isDecimalChar c = true := by
    intro c h
    rcases eq_of_isExponentLetter h with rfl | rfl <;> decide
  have sign : IsOver isDecimalChar Words.sign := isOver_sign fun _ => isDecimalChar_of_isSign
  exact sign.mul ((isOver_mantissa digit (by decide)).mul
    (((IsOver.ofKind letter).mul (sign.mul (isOver_digits digit))).add .nothing))

theorem takesLongest_literal : TakesLongest InOrder.literal Words.literal := by
  refine takesLongest_infinity.orElse takesLongest_decimal ?_
  -- The letters of the word are in no number in digits.
  rintro _ ⟨w, -, _, rfl, rfl⟩ v mem front
  have letter := isOver_decimal v mem 'I' (front.subset (List.mem_append_right w (by decide)))
  cases letter

/-! ### The pieces kept -/

section kept

open Scanner

variable (t : Text)

theorem scanSign_cons (c : Char) :
    scanSign (c :: t) = if isSign c then (some c, t) else (none, c :: t) :=
  rfl

theorem sign_eq : InOrder.sign t = some ((scanSign t).1.toList, (scanSign t).2) := by
  cases t with
  | nil => rfl
  | cons c t =>
      rw [scanSign_cons]
      cases h : isSign c with
      | true => exact optional_of_some (one_of_true h t)
      | false => exact optional_of_none (one_of_false h t)

theorem digits_eq :
    InOrder.digits t = if (scanDigits t).1.isEmpty then none else some (scanDigits t) := by
  cases t with
  | nil => rfl
  | cons c t =>
      rw [scanDigits, List.takeWhile_cons, List.dropWhile_cons]
      cases h : c.isDigit with
      | true => exact andThen_of_some (one_of_true h t)
      | false => exact andThen_of_none (one_of_false h t)

theorem scanFraction_cons (c : Char) : scanFraction (c :: t) =
    if isPoint c then (some (scanDigits t).1, (scanDigits t).2) else (none, c :: t) := by
  cases h : isPoint c with
  | true =>
      obtain rfl : c = '.' := of_decide_eq_true h
      rfl
  | false =>
      unfold scanFraction
      split
      · rename_i e
        cases e
        cases h
      · rfl

theorem places_eq :
    InOrder.places t = some ((scanFraction t).1.elim [] ('.' :: ·), (scanFraction t).2) := by
  cases t with
  | nil => rfl
  | cons c t =>
      rw [scanFraction_cons]
      cases h : isPoint c with
      | true =>
          obtain rfl : c = '.' := of_decide_eq_true h
          exact optional_of_some (andThen_of_some (one_of_true h t))
      | false => exact optional_of_none (andThen_of_none (one_of_false h t))

theorem mantissa_eq :
    InOrder.mantissa t = (scanMantissa? t).map fun ((whole, fraction), rest) =>
      (whole ++ fraction.elim [] ('.' :: ·), rest) := by
  have digits := digits_eq t
  have whole : (scanDigits t).1 ++ (scanDigits t).2 = t := List.takeWhile_append_dropWhile
  rw [scanMantissa?]
  generalize scanDigits t = found at digits whole
  obtain ⟨ds, rest⟩ := found
  cases ds with
  | cons d ds =>
      have both := andThen_of_some (r := InOrder.places) digits
      rw [places_eq, Option.map_some] at both
      exact orElse_of_some both
  | nil =>
      obtain rfl : rest = t := whole
      refine (orElse_of_none (andThen_of_none digits)).trans ?_
      cases rest with
      | nil => rfl
      | cons c t =>
          dsimp only
          rw [scanFraction_cons]
          cases h : isPoint c with
          | true =>
              obtain rfl : c = '.' := of_decide_eq_true h
              have both := andThen_of_some (r := InOrder.digits) (one_of_true h t)
              rw [both, digits_eq]
              obtain ⟨places, rest⟩ := scanDigits t
              cases places <;> rfl
          | false => exact andThen_of_none (one_of_false h t)

theorem scanExponent_cons (c : Char) : scanExponent (c :: t) =
    if isExponentLetter c then
      if (scanDigits (scanSign t).2).1.isEmpty then (none, c :: t)
      else (some ⟨c, (scanSign t).1, (scanDigits (scanSign t).2).1⟩, (scanDigits (scanSign t).2).2)
    else (none, c :: t) :=
  rfl

theorem exponent_eq :
    InOrder.exponent t = some ((scanExponent t).1.elim [] Exponent.text, (scanExponent t).2) := by
  cases t with
  | nil => rfl
  | cons c t =>
      rw [scanExponent_cons]
      cases h : isExponentLetter c with
      | false => exact optional_of_none (andThen_of_none (one_of_false h t))
      | true =>
          have behind := andThen_of_some (r := InOrder.digits) (sign_eq t)
          have all := andThen_of_some (r := InOrder.sign.andThen InOrder.digits) (one_of_true h t)
          rw [behind, digits_eq] at all
          cases empty : (scanDigits (scanSign t).2).1.isEmpty with
          | true =>
              rw [empty] at all
              exact optional_of_none all
          | false =>
              rw [empty] at all
              exact optional_of_some all

/-- The scanner in order finds what `Literal.scan?` does. -/
theorem literal_eq :
    InOrder.literal t = (Literal.scan? t).map fun (l, rest) => (l.text, rest) := by
  have infinity := andThen_of_some (r := word infinityWord) (sign_eq t)
  have decimal := andThen_of_some (r := InOrder.mantissa.andThen InOrder.exponent) (sign_eq t)
  rw [Literal.scan?]
  dsimp only
  cases found : Text.after? infinityWord (scanSign t).2 with
  | some rest =>
      rw [word, found, Option.map_some, Option.map_some] at infinity
      exact orElse_of_some infinity
  | none =>
      rw [word, found, Option.map_none, Option.map_none] at infinity
      refine (orElse_of_none infinity).trans (decimal.trans ?_)
      have mantissa := mantissa_eq (scanSign t).2
      cases digits : scanMantissa? (scanSign t).2 with
      | none =>
          rw [digits] at mantissa
          rw [andThen_of_none mantissa]
          rfl
      | some m =>
          obtain ⟨⟨whole, fraction⟩, rest⟩ := m
          rw [digits] at mantissa
          rw [andThen_of_some mantissa, exponent_eq]
          simp [Literal.text]

end kept

/-! ### The longest literal -/

section longest

variable {t : Text}

theorem scan?_eq_none_iff : Literal.scan? t = none ↔ ∀ w ∈ Words.literal, ¬ w <+: t := by
  rw [← takesLongest_literal.eq_none_iff, literal_eq, Option.map_eq_none_iff]

theorem exists_scan?_iff {w rest : Text} :
    (∃ l, Literal.scan? t = some (l, rest) ∧ l.text = w) ↔
      t = w ++ rest ∧ IsLongest Words.literal t w := by
  rw [← takesLongest_literal.eq_some_iff, literal_eq, Option.map_eq_some_iff]
  constructor
  · rintro ⟨l, found, rfl⟩
    exact ⟨(l, rest), found, rfl⟩
  · rintro ⟨⟨l, _⟩, found, e⟩
    cases e
    exact ⟨l, found, rfl⟩

theorem isLiteral_iff : isLiteral t = true ↔ Text.trim t ∈ Words.literal := by
  rw [isLiteral]
  constructor
  · intro whole
    cases found : Literal.scan? (Text.trim t) with
    | none =>
        rw [found] at whole
        cases whole
    | some piece =>
        obtain ⟨l, rest⟩ := piece
        rw [found] at whole
        obtain rfl := List.isEmpty_iff.mp whole
        obtain ⟨e, longest⟩ := exists_scan?_iff.mp ⟨l, found, rfl⟩
        rw [List.append_nil] at e
        rw [e]
        exact longest.mem
  · intro mem
    obtain ⟨l, found, -⟩ := exists_scan?_iff.mpr
      ⟨(List.append_nil _).symm, mem, List.prefix_rfl, fun v _ front => front.length_le⟩
    rw [found]
    rfl

end longest

/-! ### The characters of a literal -/

/-- A character that a literal may have. -/
def isLiteralChar (c : Char) : Bool :=
  c.isDigit || "+-.eEInfity".toList.contains c

theorem mem_of_isLiteralChar {c : Char} (h : isLiteralChar c = true) :
    c ∈ "0123456789+-.eEInfity".toList := by
  rw [isLiteralChar, Bool.or_eq_true] at h
  rcases h with h | h
  · have bounds : 48 ≤ c.toNat ∧ c.toNat ≤ 57 := by
      simpa [Char.isDigit, UInt32.le_iff_toNat_le] using h
    obtain ⟨lower, upper⟩ := bounds
    rw [← Char.ofNat_toNat c]
    interval_cases c.toNat <;> decide
  · have part : "+-.eEInfity".toList ⊆ "0123456789+-.eEInfity".toList := by decide
    exact part (by simpa using h)

theorem isOver_literal : IsOver isLiteralChar Words.literal := by
  have decimal : ∀ c, isDecimalChar c = true → isLiteralChar c = true := by
    intro c h
    have part : "+-.eE".toList ⊆ "+-.eEInfity".toList := by decide
    rw [isDecimalChar, Bool.or_eq_true, List.contains_iff_mem] at h
    rw [isLiteralChar, Bool.or_eq_true, List.contains_iff_mem]
    exact h.imp_right fun mem => part mem
  rintro w (⟨s, mem, _, rfl, rfl⟩ | mem) c mem_c
  · rcases List.mem_append.mp mem_c with mem_c | mem_c
    · exact decimal c (isOver_sign (fun _ => isDecimalChar_of_isSign) s mem c mem_c)
    · have word : infinityWord.all isLiteralChar = true := by decide
      exact List.all_eq_true.mp word c mem_c
  · exact decimal c (isOver_decimal w mem c mem_c)

/-- A literal without white space around it has none but the characters of literals. -/
theorem isLiteralChar_of_isLiteral {t : Text} (h : isLiteral t = true) (ht : Text.trim t = t) :
    ∀ c ∈ t, isLiteralChar c = true :=
  isOver_literal t (ht ▸ isLiteral_iff.mp h)

/-- Whether a character may begin a literal that is made of digits. -/
def opensDecimal (c : Char) : Bool :=
  c.isDigit || c == '+' || c == '-' || c == '.'

theorem opening_of_isLiteral {t : Text} (h : isLiteral t = true) (ht : Text.trim t = t) :
    t = infinityWord ∨ ∃ c u, t = c :: u ∧ opensDecimal c = true := by
  have signed : ∀ c, isSign c = true → opensDecimal c = true := by
    intro c sign
    rcases eq_of_isSign sign with rfl | rfl <;> rfl
  have mem := isLiteral_iff.mp h
  rw [ht] at mem
  rcases mem with ⟨_, ⟨c, sign, rfl⟩ | rfl, v, mem, rfl⟩ | ⟨_, ⟨c, sign, rfl⟩ | rfl, v, mem, rfl⟩
  · exact .inr ⟨c, v, rfl, signed c sign⟩
  · exact .inl mem
  · exact .inr ⟨c, v, rfl, signed c sign⟩
  · obtain ⟨m, mem, u, -, rfl⟩ := mem
    obtain ⟨c, u', opens, rfl⟩ := exists_of_mem_mantissa mem
    refine .inr ⟨c, u' ++ u, rfl, ?_⟩
    rcases Bool.or_eq_true_iff.mp opens with digit | point
    · simp [opensDecimal, digit]
    · rw [of_decide_eq_true point]
      rfl

end Tabular.Number
