import Mathlib.Order.Bounds.Basic
import Tabular.Proofs.Condition.Reading
import Tabular.Proofs.Offset.Condition

/-! # Where a fragment is read

A fragment is read at a position, the number of characters before it.  `Operator.CountsAt` says when
the token of an operator counts at a position, without a word about how it is looked for: places
that overlap count like any others.  The place at which an operator cuts a text is the least of
these positions (`Operator.isLeast_countsAt_iff`), so an operator is passed over if its least
position is the front of the text or if there is none, and a fragment is read by the first operator
that is not passed over, at its least position (`Condition.parse?_at_position`). -/

namespace Tabular

open Unicode
open Utf8 (size)

namespace Operator

/-- The token of an operator counts at a position of a text: it stands there, in any letter case,
and a keyword has white space before it and does not run on into a longer word. -/
structure CountsAt (p : Operator) (t : Text) (i : Nat) : Prop where
  token : Text.sameLetters p.token ((t.drop i).take p.token.length) = true
  before : p.isKeyword = true → (t.take i).getLast?.any isWhiteSpace = true
  behind : p.isKeyword = true → (t.drop (i + p.token.length)).head?.any isWordChar = false

variable {p : Operator} {t : Text} {i : Nat}

/-! ### Positions and places -/

theorem countsAt_iff_afterToken? :
    p.CountsAt t i ↔
      p.afterToken? (t.take i).getLast? (t.drop i) = some (t.drop (i + p.token.length)) := by
  rw [afterToken?_eq_some_iff]
  constructor
  · intro h
    refine ⟨⟨_, h.token, ?_⟩, fun keyword => ⟨h.before keyword, h.behind keyword⟩⟩
    rw [← List.drop_drop, List.take_append_drop]
  · rintro ⟨⟨word, same, whole⟩, around⟩
    refine ⟨?_, fun keyword => (around keyword).1, fun keyword => (around keyword).2⟩
    rw [whole, List.take_left' (Text.length_of_sameLetters same).symm]
    exact same

theorem countsAt_of_afterToken? {front u rest : Text}
    (counts : p.afterToken? front.getLast? u = some rest) :
    p.CountsAt (front ++ u) front.length ∧
      rest = (front ++ u).drop (front.length + p.token.length) := by
  obtain ⟨⟨word, same, rfl⟩, -⟩ := afterToken?_eq_some_iff.mp counts
  have behind : (front ++ (word ++ rest)).drop (front.length + p.token.length) = rest := by
    rw [← List.drop_drop, List.drop_left, List.drop_left' (Text.length_of_sameLetters same).symm]
  refine ⟨countsAt_iff_afterToken?.mpr ?_, behind.symm⟩
  rw [behind, List.take_left, List.drop_left]
  exact counts

theorem CountsAt.lt_length (h : p.CountsAt t i) : i < t.length := by
  have long := Text.length_of_sameLetters h.token
  have pos := List.length_pos_iff.mpr p.token_ne_nil
  rw [List.length_take, List.length_drop] at long
  omega

/-- A text is cut at the least position. -/
theorem isLeast_of_cut? {front rest : Text} (cut : p.cut? t = some (front, rest)) :
    IsLeast {i | p.CountsAt t i} front.length ∧ front = t.take front.length ∧
      rest = t.drop (front.length + p.token.length) := by
  obtain ⟨u, rfl, counts⟩ := exists_of_cutFrom? cut
  rw [Option.or_none] at counts
  obtain ⟨here, behind⟩ := countsAt_of_afterToken? counts
  refine ⟨⟨here, fun j there => ?_⟩, (List.take_left).symm, behind⟩
  -- Where the token counts the text is cut, or before.
  have counts' := countsAt_iff_afterToken?.mp there
  rw [← Option.or_none (o := List.getLast? _)] at counts'
  obtain ⟨front', rest', cut', le⟩ := exists_cutFrom? counts'
  rw [List.take_append_drop] at cut'
  rw [cut?, cut', Option.some.injEq, Prod.mk.injEq] at cut
  rw [← cut.1]
  exact le.trans (List.length_take_le _ _)

theorem cut?_eq_none_iff : p.cut? t = none ↔ ∀ i, ¬ p.CountsAt t i := by
  constructor
  · intro nowhere i h
    have counts := countsAt_iff_afterToken?.mp h
    rw [← Option.or_none (o := List.getLast? _),
      cutFrom?_eq_none_iff.mp nowhere _ _ (List.take_append_drop i t).symm] at counts
    cases counts
  · intro nowhere
    rw [Option.eq_none_iff_forall_ne_some]
    rintro ⟨front, rest⟩ cut
    exact nowhere _ (isLeast_of_cut? cut).1.1

/-- **The place of an operator** is the least position at which its token counts. -/
theorem isLeast_countsAt_iff :
    IsLeast {i | p.CountsAt t i} i ↔
      i ≤ t.length ∧ p.cut? t = some (t.take i, t.drop (i + p.token.length)) := by
  constructor
  · intro least
    refine ⟨(CountsAt.lt_length least.1).le, ?_⟩
    cases cut : p.cut? t with
    | none => exact absurd least.1 (cut?_eq_none_iff.mp cut i)
    | some places =>
        obtain ⟨front, rest⟩ := places
        obtain ⟨least', front_eq, rest_eq⟩ := isLeast_of_cut? cut
        obtain rfl := least.unique least'
        rw [← front_eq, ← rest_eq]
  · rintro ⟨le, cut⟩
    have least := (isLeast_of_cut? cut).1
    rwa [List.length_take_of_le le] at least

/-- An operator is passed over if its least position is the front of the text, or if it has none. -/
theorem passes_iff_isLeast : p.Passes t ↔ ∀ i, IsLeast {i | p.CountsAt t i} i → i = 0 := by
  constructor
  · intro passes i least
    obtain ⟨le, cut⟩ := isLeast_countsAt_iff.mp least
    have long := List.length_take_of_le le
    rw [passes _ _ cut] at long
    exact long.symm
  · intro first front rest cut
    exact List.length_eq_zero_iff.mp (first _ (isLeast_of_cut? cut).1)

/-! ### Letter case -/

theorem CountsAt.of_sameLetters {p : Operator} {t u : Text} {i : Nat}
    (same : Text.sameLetters t u = true) (h : p.CountsAt t i) : p.CountsAt u i := by
  have upper : t.map Char.toUpper = u.map Char.toUpper := Text.sameLetters_iff.mp same
  refine ⟨?_, fun keyword => ?_, fun keyword => ?_⟩
  · have token := Text.sameLetters_iff.mp h.token
    rw [List.map_take, List.map_drop, upper, ← List.map_drop, ← List.map_take] at token
    exact Text.sameLetters_iff.mpr token
  · have before := h.before keyword
    rwa [← getLast?_any_map_toUpper, List.map_take, upper, ← List.map_take,
      getLast?_any_map_toUpper] at before
  · have behind := h.behind keyword
    rwa [← head?_any_map_toUpper, List.map_drop, upper, ← List.map_drop,
      head?_any_map_toUpper] at behind

theorem countsAt_congr {p : Operator} {t u : Text} (same : Text.sameLetters t u = true) :
    {i | p.CountsAt t i} = {i | p.CountsAt u i} := by
  have back : Text.sameLetters u t = true :=
    Text.sameLetters_iff.mpr (Text.sameLetters_iff.mp same).symm
  exact Set.ext fun i => ⟨CountsAt.of_sameLetters same, CountsAt.of_sameLetters back⟩

theorem mem_scanOrder (p : Operator) : p ∈ scanOrder := by
  cases p <;> decide

end Operator

namespace Condition

/-! ### Quotation marks -/

/-- A text is another one without the quotation mark at its front, if there is one, and then without
the one at its end, if there is one. -/
def Unquotes (t v : Text) : Prop :=
  ∃ q q', t = q ++ v ++ q' ∧
    (q = [] ∧ t.head?.any isQuote = false ∨ ∃ c, isQuote c = true ∧ q = [c]) ∧
    (q' = [] ∧ v.getLast?.any isQuote = false ∨ ∃ c, isQuote c = true ∧ q' = [c])

theorem unquoteFront_eq_iff {t u : Text} :
    unquoteFront t = u ↔ ∃ q, t = q ++ u ∧
      (q = [] ∧ t.head?.any isQuote = false ∨ ∃ c, isQuote c = true ∧ q = [c]) := by
  constructor
  · rintro rfl
    cases t with
    | nil => exact ⟨[], rfl, .inl ⟨rfl, rfl⟩⟩
    | cons c t =>
        rw [unquoteFront]
        by_cases quote : isQuote c = true
        · rw [if_pos quote]
          exact ⟨[c], rfl, .inr ⟨c, quote, rfl⟩⟩
        · rw [if_neg quote]
          exact ⟨[], rfl, .inl ⟨rfl, Bool.eq_false_iff.mpr quote⟩⟩
  · rintro ⟨q, rfl, ⟨rfl, plain⟩ | ⟨c, quote, rfl⟩⟩
    · cases u with
      | nil => rfl
      | cons c u =>
          have plain : isQuote c = false := plain
          rw [List.nil_append, unquoteFront, plain, if_neg Bool.false_ne_true]
    · rw [List.singleton_append, unquoteFront, if_pos quote]

theorem unquote_eq_iff {t v : Text} : unquote t = v ↔ Unquotes t v := by
  have back : unquote t = v ↔ unquoteFront (unquoteFront t).reverse = v.reverse := by
    rw [unquote, ← List.reverse_inj, List.reverse_reverse]
  rw [back, unquoteFront_eq_iff]
  constructor
  · rintro ⟨q', whole, ends⟩
    obtain ⟨q, front, opens⟩ := unquoteFront_eq_iff.mp (rfl : unquoteFront t = _)
    rw [List.reverse_eq_iff, List.reverse_append, List.reverse_reverse] at whole
    refine ⟨q, q'.reverse, by rw [List.append_assoc, ← whole]; exact front, opens, ?_⟩
    rcases ends with ⟨rfl, plain⟩ | ⟨c, quote, rfl⟩
    · rw [whole, List.reverse_nil, List.append_nil, List.head?_reverse] at plain
      exact .inl ⟨rfl, plain⟩
    · exact .inr ⟨c, quote, rfl⟩
  · rintro ⟨q, q', whole, opens, ends⟩
    have front : unquoteFront t = v ++ q' :=
      unquoteFront_eq_iff.mpr ⟨q, by rw [whole, List.append_assoc], opens⟩
    refine ⟨q'.reverse, by rw [front, List.reverse_append], ?_⟩
    rcases ends with ⟨rfl, plain⟩ | ⟨c, quote, rfl⟩
    · rw [front, List.append_nil, List.head?_reverse]
      exact .inl ⟨rfl, plain⟩
    · exact .inr ⟨c, quote, rfl⟩

/-! ### Reading -/

variable {t : Text} {c : Condition}

theorem parse?_eq_none_iff : parse? t = none ↔ ∀ p : Operator, p.Passes (Text.trim t) := by
  unfold parse?
  rw [List.findSome?_eq_none_iff]
  constructor
  · intro h p
    exact bind_ofCut?_eq_none_iff.mp (h p p.mem_scanOrder)
  · intro h p _
    exact bind_ofCut?_eq_none_iff.mpr (h p)

theorem trim_take_ne_nil {i : Nat} (pos : 0 < i) (ne : Text.trim t ≠ []) :
    Text.trim ((Text.trim t).take i) ≠ [] := by
  have solid := Text.frontSolid_trim ne
  refine Text.trim_ne_nil ?_
  refine Text.frontSolid_of_append (u := (Text.trim t).drop i) ?_ ?_
  · rw [Ne, List.take_eq_nil_iff]
    rintro (zero | nil)
    · omega
    · exact ne nil
  · rwa [List.take_append_drop]

theorem tokenOffset?_at_position (p : Operator) (t : Text) :
    let u := Text.trim t
    (Operator.tokenOffset? (u.map Char.toUpper) p = .ok none ∧ ∀ i, ¬ p.CountsAt u i) ∨
      ∃ i, IsLeast {i | p.CountsAt u i} i ∧
        Operator.tokenOffset? (u.map Char.toUpper) p = .ok (some (size (u.take i))) ∧
        u.pieceUpto (size (u.take i)) = .ok (u.take i) ∧
        (0 < i → (Text.trim (u.take i)).isEmpty = false) := by
  intro u
  rw [Operator.tokenOffset?_eq]
  cases cut : p.cut? u with
  | none => exact .inl ⟨rfl, Operator.cut?_eq_none_iff.mp cut⟩
  | some places =>
      obtain ⟨front, rest⟩ := places
      obtain ⟨least, front_eq, -⟩ := Operator.isLeast_of_cut? cut
      have ne : u ≠ [] := by
        intro nil
        have short := least.1.lt_length
        rw [nil] at short
        cases short
      refine .inr ⟨front.length, least, by rw [← front_eq]; rfl, ?_, fun pos => ?_⟩
      · have piece := Text.pieceUpto_append (u.take front.length) (u.drop front.length)
        rwa [List.take_append_drop] at piece
      · exact List.isEmpty_eq_false_iff.mpr (trim_take_ne_nil pos ne)

/-- **Reading at the least position.**  A fragment is read as nothing exactly if the least position
at which the token of an operator counts is its front for every operator that has one.  Otherwise it
is read by the first operator in the order of the scan with a later least position: the characters
there are its token up to letter case, what is before them is the column and what is behind them the
operand, both without the white space around them, the operand without a quotation mark at either
end, and the column is not empty.  The search by offsets in capital letters finds the same positions
and gives the same condition, and never gives up because of an empty column. -/
theorem parse?_at_position (fragment : Text) :
    let t := Text.trim fragment
    (parse? fragment = none ↔ ∀ p : Operator, ∀ i, IsLeast {i | p.CountsAt t i} i → i = 0) ∧
    (∀ c, parse? fragment = some c ↔
      (∀ p ∈ c.operator.before, ∀ i, IsLeast {i | p.CountsAt t i} i → i = 0) ∧
      ∃ i, IsLeast {i | c.operator.CountsAt t i} i ∧ 0 < i ∧
        Text.sameLetters c.operator.token ((t.drop i).take c.operator.token.length) = true ∧
        c.column = Text.trim (t.take i) ∧ c.column ≠ [] ∧
        Unquotes (Text.trim (t.drop (i + c.operator.token.length))) c.operand) ∧
    readAt fragment = .ok (parse? fragment) ∧
    ∀ p : Operator,
      (Operator.tokenOffset? (t.map Char.toUpper) p = .ok none ∧ ∀ i, ¬ p.CountsAt t i) ∨
      ∃ i, IsLeast {i | p.CountsAt t i} i ∧
        Operator.tokenOffset? (t.map Char.toUpper) p = .ok (some (size (t.take i))) ∧
        t.pieceUpto (size (t.take i)) = .ok (t.take i) ∧
        (0 < i → (Text.trim (t.take i)).isEmpty = false) := by
  intro t
  refine ⟨?_, fun c => ?_, readAt_eq fragment, fun p => tokenOffset?_at_position p fragment⟩
  · rw [parse?_eq_none_iff]
    exact forall_congr' fun p => Operator.passes_iff_isLeast
  constructor
  · intro read
    obtain ⟨⟨front, rest, cut, ne, column, operand⟩, passed⟩ := parse?_eq_some_iff.mp read
    obtain ⟨least, front_eq, rest_eq⟩ := Operator.isLeast_of_cut? cut
    refine ⟨fun p hp => Operator.passes_iff_isLeast.mp (passed p hp), front.length, least,
      List.length_pos_iff.mpr ne, least.1.token, ?_, (column_of_parse? read).1, ?_⟩
    · rw [column]
      exact congrArg Text.trim front_eq
    · rw [← unquote_eq_iff, operand]
      exact congrArg (fun u => unquote (Text.trim u)) rest_eq.symm
  · rintro ⟨passed, i, least, pos, -, column, -, operand⟩
    obtain ⟨le, cut⟩ := Operator.isLeast_countsAt_iff.mp least
    refine parse?_eq_some_iff.mpr ⟨⟨_, _, cut, ?_, column, (unquote_eq_iff.mpr operand).symm⟩,
      fun p hp => Operator.passes_iff_isLeast.mpr (passed p hp)⟩
    rw [← List.length_pos_iff, List.length_take_of_le le]
    exact pos

/-- A token at the front is passed over although it comes again, and a shorter one is found in it. -/
example : parse? ">= 5 or >= 6".toList = some ⟨">".toList, .eq, "5 or >= 6".toList⟩ := by
  decide

end Condition

end Tabular
