import Tabular.Draft
import Tabular.Proofs.Clause.Composition
import Tabular.Proofs.Number.Language

/-! # Fragments

The fragment of a draft that is not refused is a `Piece`: it may stand between separators, since it
is solid at both edges, neither keyword cuts it and neither keyword with white space before it ends
it (`Draft.piece_fragment`).  It reads back as the condition of the draft
(`Draft.parse?_fragment`). -/

namespace Tabular

open Unicode

namespace Clause

/-- A text that can stand between separators without a keyword of its own. -/
structure Piece (t : Text) : Prop where
  front : Text.frontSolid t = true
  back : Text.backSolid t = true
  uncut : ∀ l : Logic, cutAtKeyword l.token t = [t]
  unended : ∀ l : Logic, Text.closesWith l.token t = false

theorem parse_of_uncut {t : Text} (h : ∀ l : Logic, cutAtKeyword l.token t = [t]) :
    parse t = [.all (Condition.parse? t)] := by
  rw [parse, h .and, List.map_singleton, parseGroup_eq, h .or]
  rfl

theorem uncut_of_parse {t : Text} {c : Condition} (h : parse t = [.all (some c)]) :
    (∀ l : Logic, cutAtKeyword l.token t = [t]) ∧ Condition.parse? t = some c := by
  obtain ⟨p, hp, hg⟩ := List.map_eq_singleton_iff.mp h
  obtain rfl := eq_of_cutAtKeyword hp
  have hm : (cutAtKeyword Logic.or.token p).map Condition.parse? = [some c] := by
    rw [← Group.members_ofMembers (List.map _ _), ← parseGroup_eq, hg]
    rfl
  obtain ⟨q, hq, hc⟩ := List.map_eq_singleton_iff.mp hm
  obtain rfl := eq_of_cutAtKeyword hq
  refine ⟨fun l => ?_, hc⟩
  cases l
  · exact hp
  · exact hq

/-! ### The edges of a fragment -/

/-- Whether a character is neither white space nor the last letter of a keyword. -/
def endsPiece (c : Char) : Bool :=
  !isWhiteSpace c &&
    [Logic.and, .or].all fun l => l.token.getLast?.all fun d => !Text.sameLetter d c

theorem closesWith_concat {l : Logic} {c : Char}
    (h : (l.token.getLast?.all fun d => !Text.sameLetter d c) = true) (t : Text) :
    Text.closesWith l.token (t ++ [c]) = false := by
  cases l <;>
    simp_all [Text.closesWith, Text.opensWith, Text.afterOpening?, Text.afterLetters?, Logic.token]

theorem closesWith_of_endsPiece {c : Char} (h : endsPiece c = true) (l : Logic) (t : Text) :
    Text.closesWith l.token (t ++ [c]) = false := by
  rw [endsPiece, Bool.and_eq_true, List.all_eq_true] at h
  exact closesWith_concat (h.2 l (by cases l <;> decide)) t

theorem endsPiece_of_isLiteralChar {c : Char} (h : Number.isLiteralChar c = true) :
    endsPiece c = true := by
  rw [Number.isLiteralChar, Bool.or_eq_true] at h
  rcases h with h | h
  · have bounds : 48 ≤ c.toNat ∧ c.toNat ≤ 57 := by
      simpa [Char.isDigit, UInt32.le_iff_toNat_le] using h
    obtain ⟨h1, h2⟩ := bounds
    rw [← Char.ofNat_toNat c]
    interval_cases c.toNat <;> decide
  · have all : "+-.eEInfity".toList.all endsPiece = true := by decide
    exact List.all_eq_true.mp all c (by simpa using h)

end Clause

theorem Condition.exists_of_parse? {t : Text} {c : Condition} (h : parse? t = some c) :
    ∃ front rest, c.column = Text.trim front ∧ c.operand = unquote (Text.trim rest) := by
  unfold parse? at h
  obtain ⟨op, -, e⟩ := List.exists_of_findSome?_eq_some h
  obtain ⟨⟨front, rest⟩, -, e⟩ := Option.bind_eq_some_iff.mp e
  cases front with
  | nil => simp [ofCut?] at e
  | cons a front =>
      rw [ofCut?, Option.some.injEq] at e
      · exact ⟨a :: front, rest, by rw [← e], by rw [← e]⟩
      · simp

/-- The three ways in which an operand is written. -/
theorem Operator.operandText?_cases (op : Operator) (value : Text) :
    (op.takesOperand = false ∧ op.operandText? value = none) ∨
    (Number.isLiteral value = true ∧ Text.trim value = value ∧
      op.operandText? value = some value) ∨
    op.operandText? value = some ('\'' :: value ++ ['\'']) := by
  unfold operandText?
  by_cases takes : op.takesOperand = true
  · by_cases plain : (op.isNumeric && decide (Text.trim value = value) &&
        Number.isLiteral value) = true
    · have parts := plain
      rw [Bool.and_eq_true, Bool.and_eq_true, decide_eq_true_eq] at parts
      exact .inr (.inl ⟨parts.2, parts.1.2, by rw [if_neg (by simp [takes]), if_pos plain]⟩)
    · exact .inr (.inr (by rw [if_neg (by simp [takes]), if_neg plain]))
  · rw [Bool.not_eq_true] at takes
    exact .inl ⟨takes, by rw [if_pos (by simp [takes])]⟩

namespace Draft

variable {d : Draft}

theorem parse_fragment (h : d.refusal? = none) :
    Clause.parse d.fragment = [.all (some d.condition)] := by
  simpa [readsBack] using (d.refusal?_eq_none_iff.mp h).2

theorem parse?_fragment (h : d.refusal? = none) :
    Condition.parse? d.fragment = some d.condition :=
  (Clause.uncut_of_parse (parse_fragment h)).2

theorem frontSolid_column (h : d.refusal? = none) : Text.frontSolid d.column = true := by
  obtain ⟨front, rest, e, -⟩ := Condition.exists_of_parse? (parse?_fragment h)
  have blank := (d.refusal?_eq_none_iff.mp h).1
  change d.column = _ at e
  rw [e]
  refine Text.frontSolid_trim ?_
  intro nil
  rw [e, nil] at blank
  exact absurd blank (by decide)

/-- A fragment ends with the last letter of `NULL`, a quotation mark or the end of a number. -/
theorem exists_fragment_eq (d : Draft) :
    ∃ t c, d.fragment = t ++ [c] ∧ Clause.endsPiece c = true := by
  unfold fragment
  rcases d.operator.operandText?_cases d.value with ⟨takes, e⟩ | ⟨literal, trimmed, e⟩ | e
  · obtain ⟨u, e'⟩ : ∃ u, d.operator.token = u ++ ['L'] := by
      cases h : d.operator <;> simp_all [Operator.takesOperand]
      · exact ⟨"IS NUL".toList, rfl⟩
      · exact ⟨"IS NOT NUL".toList, rfl⟩
    exact ⟨d.column ++ ' ' :: u, 'L', by simp [e, e'], by decide⟩
  · obtain ⟨v, c, e'⟩ := (List.eq_nil_or_concat' d.value).resolve_left
      (by intro nil; rw [nil] at literal; exact absurd literal (by decide))
    have hc := Number.isLiteralChar_of_isLiteral literal trimmed c (by simp [e'])
    exact ⟨d.column ++ ' ' :: d.operator.token ++ ' ' :: v, c, by rw [e, e']; simp,
      Clause.endsPiece_of_isLiteralChar hc⟩
  · exact ⟨d.column ++ ' ' :: d.operator.token ++ ' ' :: '\'' :: d.value, '\'', by simp [e],
      by decide⟩

theorem backSolid_fragment (d : Draft) : Text.backSolid d.fragment = true := by
  obtain ⟨t, c, e, hc⟩ := exists_fragment_eq d
  rw [Clause.endsPiece, Bool.and_eq_true] at hc
  rw [e, Text.backSolid_concat]
  exact hc.1

theorem piece_fragment (h : d.refusal? = none) : Clause.Piece d.fragment := by
  obtain ⟨t, c, e, hc⟩ := exists_fragment_eq d
  refine ⟨?_, d.backSolid_fragment, (Clause.uncut_of_parse (parse_fragment h)).1, fun l => ?_⟩
  · rw [fragment, List.append_assoc]
    exact Text.frontSolid_append (frontSolid_column h) _
  · rw [e]
    exact Clause.closesWith_of_endsPiece hc l t

end Draft

end Tabular
