import Tabular.Number.Binary64
import Tabular.Proofs.Number.Language

/-! # The number at the front of a text

A literal is well-formed if its pieces are what they are named for.  `Literal.scan?` finds
well-formed literals alone (`isWellFormed_of_scan?`), and reads each of them back from its text
(`Literal.scan?_text`), so every word of the language is the text of exactly one of them
(`existsUnique_literal`) and the value of a word is the value of that one.

`takes_longest_literal` says it for all texts: what is taken from the front of a text is the longest
literal there, nothing is taken only where none stands, and the number at the front of a text is the
value of the longest literal behind the white space. -/

namespace Tabular.Number

open scoped Computability

/-- An exponent with a letter, a sign if it has one, and digits. -/
structure Exponent.IsWellFormed (e : Exponent) : Prop where
  letter : isExponentLetter e.letter = true
  sign : ∀ c ∈ e.sign, isSign c = true
  ne_nil : e.digits ≠ []
  digits : ∀ c ∈ e.digits, c.isDigit = true

/-- Whole digits and places, at least one digit in all. -/
structure IsMantissa (whole : Text) (fraction : Option Text) : Prop where
  digits : ∀ c ∈ whole, c.isDigit = true
  places : ∀ c ∈ fraction.getD [], c.isDigit = true
  some_digit : whole ≠ [] ∨ fraction.getD [] ≠ []

/-- A literal with a sign if it has one, and with digits where digits belong. -/
inductive Literal.IsWellFormed : Literal → Prop where
  | infinity {sign : Option Char} : (∀ c ∈ sign, isSign c = true) → IsWellFormed (.infinity sign)
  | decimal {sign : Option Char} {whole : Text} {fraction : Option Text}
      {exponent : Option Exponent} : (∀ c ∈ sign, isSign c = true) → IsMantissa whole fraction →
      (∀ e ∈ exponent, e.IsWellFormed) → IsWellFormed (.decimal sign whole fraction exponent)

/-! ### What is found -/

section found

variable {t : Text}

theorem isSign_of_scanSign : ∀ c ∈ (scanSign t).1, isSign c = true := by
  cases t with
  | nil => exact nofun
  | cons d t =>
      rw [scanSign_cons]
      intro c mem
      split at mem
      · cases mem
        assumption
      · cases mem

theorem isDigit_of_scanDigits : ∀ c ∈ (scanDigits t).1, c.isDigit = true :=
  fun _ mem => List.mem_takeWhile_imp mem

theorem isDigit_of_scanFraction : ∀ c ∈ (scanFraction t).1.getD [], c.isDigit = true := by
  cases t with
  | nil => exact nofun
  | cons d t =>
      rw [scanFraction_cons]
      split
      · exact isDigit_of_scanDigits
      · exact nofun

theorem isMantissa_of_scanMantissa? {whole rest : Text} {fraction : Option Text}
    (h : scanMantissa? t = some ((whole, fraction), rest)) : IsMantissa whole fraction := by
  rw [scanMantissa?] at h
  dsimp only at h
  rw [Option.ite_none_left_eq_some] at h
  obtain ⟨some_digit, e⟩ := h
  cases e
  refine ⟨isDigit_of_scanDigits, isDigit_of_scanFraction, ?_⟩
  rwa [Bool.and_eq_true, List.isEmpty_iff, beq_iff_eq, not_and_or] at some_digit

theorem isWellFormed_of_scanExponent : ∀ e ∈ (scanExponent t).1, e.IsWellFormed := by
  cases t with
  | nil => exact nofun
  | cons c t =>
      rw [scanExponent_cons]
      intro e mem
      split at mem
      · rename_i letter
        split at mem
        · cases mem
        · rename_i some_digit
          cases mem
          exact ⟨letter, isSign_of_scanSign, mt List.isEmpty_iff.mpr some_digit,
            isDigit_of_scanDigits⟩
      · cases mem

theorem isWellFormed_of_scan? {l : Literal} {rest : Text}
    (h : Literal.scan? t = some (l, rest)) : l.IsWellFormed := by
  rw [Literal.scan?] at h
  dsimp only at h
  split at h
  · cases h
    exact .infinity isSign_of_scanSign
  · split at h
    · cases h
    · rename_i mantissa
      cases h
      exact .decimal isSign_of_scanSign (isMantissa_of_scanMantissa? mantissa)
        isWellFormed_of_scanExponent

end found

/-! ### What is read back -/

section readBack

variable {sign : Option Char} {whole u : Text} {fraction : Option Text}

theorem scanSign_append_of (h : ∀ c ∈ sign, isSign c = true)
    (other : ∀ c ∈ u.head?, isSign c = false) : scanSign (sign.toList ++ u) = (sign, u) := by
  cases sign with
  | some c =>
      rw [Option.toList_some, List.singleton_append, scanSign_cons, if_pos (h c rfl)]
  | none =>
      cases u with
      | nil => rfl
      | cons c u =>
          rw [Option.toList_none, List.nil_append, scanSign_cons, other c rfl,
            if_neg Bool.false_ne_true]

theorem scanDigits_append_of (h : ∀ c ∈ whole, c.isDigit = true)
    (other : ∀ c ∈ u.head?, c.isDigit = false) : scanDigits (whole ++ u) = (whole, u) := by
  rw [scanDigits, List.takeWhile_append_of_pos h, List.dropWhile_append_of_pos h]
  cases u with
  | nil => rw [List.takeWhile_nil, List.dropWhile_nil, List.append_nil]
  | cons c u =>
      have first := other c rfl
      rw [List.takeWhile_cons_of_neg (by simp [first]),
        List.dropWhile_cons_of_neg (by simp [first]), List.append_nil]

theorem scanFraction_append_of (h : ∀ c ∈ fraction.getD [], c.isDigit = true)
    (other : ∀ c ∈ u.head?, (c.isDigit || isPoint c) = false) :
    scanFraction (fraction.elim [] ('.' :: ·) ++ u) = (fraction, u) := by
  cases fraction with
  | some places =>
      have digits := scanDigits_append_of h fun c first =>
        (Bool.or_eq_false_iff.mp (other c first)).1
      rw [Option.getD_some] at digits
      rw [Option.elim_some, List.cons_append, scanFraction_cons, if_pos (by decide), digits]
  | none =>
      cases u with
      | nil => rfl
      | cons c u =>
          rw [Option.elim_none, List.nil_append, scanFraction_cons,
            (Bool.or_eq_false_iff.mp (other c rfl)).2, if_neg Bool.false_ne_true]

theorem IsMantissa.exists_cons (h : IsMantissa whole fraction) (u : Text) :
    ∃ c v, whole ++ (fraction.elim [] ('.' :: ·) ++ u) = c :: v ∧
      (c.isDigit || isPoint c) = true := by
  cases whole with
  | cons c whole =>
      exact ⟨c, _, rfl, by rw [h.digits c List.mem_cons_self, Bool.true_or]⟩
  | nil =>
      cases fraction with
      | some places => exact ⟨'.', _, rfl, rfl⟩
      | none => exact absurd h.some_digit (by simp)

theorem scanMantissa?_append_of (h : IsMantissa whole fraction)
    (other : ∀ c ∈ u.head?, (c.isDigit || isPoint c) = false) :
    scanMantissa? (whole ++ (fraction.elim [] ('.' :: ·) ++ u)) =
      some ((whole, fraction), u) := by
  have point : ∀ c ∈ (fraction.elim [] ('.' :: ·) ++ u).head?, c.isDigit = false := by
    cases fraction with
    | some places =>
        intro c first
        cases first
        decide
    | none => exact fun c first => (Bool.or_eq_false_iff.mp (other c first)).1
  have some_digit : ¬ (whole.isEmpty && fraction.getD [] == []) = true := by
    rw [Bool.and_eq_true, List.isEmpty_iff, beq_iff_eq, not_and_or]
    exact h.some_digit
  rw [scanMantissa?, scanDigits_append_of h.digits point]
  dsimp only
  rw [scanFraction_append_of h.places other, if_neg some_digit]

theorem scanExponent_text {exponent : Option Exponent} (h : ∀ e ∈ exponent, e.IsWellFormed) :
    scanExponent (exponent.elim [] Exponent.text) = (exponent, []) := by
  cases exponent with
  | none => rfl
  | some e =>
      obtain ⟨letter, sign, ne, digits⟩ := h e rfl
      have first : ∀ c ∈ e.digits.head?, isSign c = false := fun c first =>
        not_isSign_of_isDigit (digits c (List.mem_of_mem_head? first))
      have all := scanDigits_append_of (u := []) digits nofun
      rw [List.append_nil] at all
      rw [Option.elim_some, Exponent.text, scanExponent_cons, if_pos letter,
        scanSign_append_of sign first]
      dsimp only
      rw [all, if_neg (mt List.isEmpty_iff.mp ne)]

theorem Literal.scan?_text {l : Literal} (h : l.IsWellFormed) : scan? l.text = some (l, []) := by
  cases h with
  | infinity sign =>
      have other : ∀ c ∈ infinityWord.head?, isSign c = false := by
        rintro c ⟨⟩
        decide
      have word : Text.after? infinityWord infinityWord = some [] := rfl
      rw [text, scan?, scanSign_append_of sign other]
      dsimp only
      rw [word]
  | @decimal sign whole fraction exponent signed mantissa formed =>
      obtain ⟨c, v, e, opens⟩ := mantissa.exists_cons (exponent.elim [] Exponent.text)
      have other : ∀ c ∈ (whole ++ (fraction.elim [] ('.' :: ·) ++
          exponent.elim [] Exponent.text)).head?, isSign c = false := by
        rw [e]
        rintro _ ⟨⟩
        exact not_isSign_of_opens opens
      have word : Text.after? infinityWord (whole ++ (fraction.elim [] ('.' :: ·) ++
          exponent.elim [] Exponent.text)) = none := by
        rw [e, Option.eq_none_iff_forall_ne_some]
        intro rest found
        have front := Text.append_of_after? found
        rw [← (List.cons.inj front).1] at opens
        cases opens
      have letter : ∀ c ∈ (exponent.elim [] Exponent.text).head?,
          (c.isDigit || isPoint c) = false := by
        cases exponent with
        | none =>
            intro c first
            cases first
        | some exponent =>
            rintro _ ⟨⟩
            exact not_opens_of_isExponentLetter (formed exponent rfl).letter
      rw [text, List.append_assoc, List.append_assoc, scan?, scanSign_append_of signed other]
      dsimp only
      rw [word, scanMantissa?_append_of mantissa letter]
      dsimp only
      rw [scanExponent_text formed]

end readBack

/-- Every word of the language is the text of exactly one well-formed literal. -/
theorem existsUnique_literal {w : Text} (h : w ∈ Words.literal) :
    ∃! l : Literal, l.IsWellFormed ∧ l.text = w := by
  obtain ⟨l, found, e⟩ := exists_scan?_iff.mpr
    ⟨(List.append_nil w).symm, h, List.prefix_rfl, fun v _ front => front.length_le⟩
  refine ⟨l, ⟨isWellFormed_of_scan? found, e⟩, ?_⟩
  rintro l' ⟨formed, rfl⟩
  rw [Literal.scan?_text formed] at found
  cases found
  rfl

/-- The value of the longest literal behind the white space is the number at the front of a text. -/
theorem valueOfFront?_eq_some_iff {t : Text} {x : Binary64} :
    valueOfFront? t = some x ↔ ∃ l : Literal, l.IsWellFormed ∧
      IsLongest Words.literal (Text.trimStart t) l.text ∧ l.value = x := by
  rw [valueOfFront?, Option.map_eq_some_iff]
  constructor
  · rintro ⟨⟨l, rest⟩, found, value⟩
    exact ⟨l, isWellFormed_of_scan? found, (exists_scan?_iff.mp ⟨l, found, rfl⟩).2, value⟩
  · rintro ⟨l, formed, longest, value⟩
    obtain ⟨rest, e⟩ := longest.front
    obtain ⟨l', found, same⟩ := exists_scan?_iff.mpr ⟨e.symm, longest⟩
    have only := (existsUnique_literal longest.mem).unique
      ⟨isWellFormed_of_scan? found, same⟩ ⟨formed, rfl⟩
    exact ⟨(l', rest), found, only ▸ value⟩

theorem valueOfFront?_eq_none_iff {t : Text} :
    valueOfFront? t = none ↔ ∀ w ∈ Words.literal, ¬ w <+: Text.trimStart t := by
  rw [valueOfFront?, Option.map_eq_none_iff, scan?_eq_none_iff]

/-- **The longest literal.**  From the front of a text the longest literal is taken, whatever follows
it, and nothing is taken only if no literal stands there; the scanner that goes through the pieces in
order does the same.  A text is a literal if it is one without the white space around it.  Every
literal is written by one well-formed `Literal` alone, and the number at the front of a text is the
value of the longest literal behind the white space, if there is a literal at all. -/
theorem takes_longest_literal (t : Text) :
    (∀ w rest, (∃ l, Literal.scan? t = some (l, rest) ∧ l.text = w) ↔
      t = w ++ rest ∧ IsLongest Words.literal t w) ∧
    (Literal.scan? t = none ↔ ∀ w ∈ Words.literal, ¬ w <+: t) ∧
    InOrder.literal t = (Literal.scan? t).map (fun (l, rest) => (l.text, rest)) ∧
    (isLiteral t = true ↔ Text.trim t ∈ Words.literal) ∧
    (∀ w ∈ Words.literal, ∃! l : Literal, l.IsWellFormed ∧ l.text = w) ∧
    (∀ x, valueOfFront? t = some x ↔ ∃ l : Literal, l.IsWellFormed ∧
      IsLongest Words.literal (Text.trimStart t) l.text ∧ l.value = x) ∧
    (valueOfFront? t = none ↔ ∀ w ∈ Words.literal, ¬ w <+: Text.trimStart t) :=
  ⟨fun _ _ => exists_scan?_iff, scan?_eq_none_iff, literal_eq t, isLiteral_iff,
    fun _ => existsUnique_literal, fun _ => valueOfFront?_eq_some_iff, valueOfFront?_eq_none_iff⟩

/-- An exponent without digits is not part of the literal. -/
theorem takes_longest_literal_open_exponent :
    let t := "\t-7.e+ km".toList
    "-7.".toList ∈ Words.literal ∧ IsLongest Words.literal (Text.trimStart t) "-7.".toList ∧
      valueOfFront? t = some (.ofDecimal true 7 0) ∧ isLiteral t = false ∧
      ∃! l : Literal, l.IsWellFormed ∧ l.text = "-7.".toList := by
  intro t
  obtain ⟨front, -⟩ := takes_longest_literal (Text.trimStart t)
  obtain ⟨-, -, -, -, one, -⟩ := takes_longest_literal t
  obtain ⟨-, longest⟩ := (front "-7.".toList "e+ km".toList).mp
    ⟨.decimal (some '-') ['7'] (some []) none, by decide, by decide⟩
  exact ⟨longest.mem, longest, by decide +kernel, by decide, one _ longest.mem⟩

end Tabular.Number
