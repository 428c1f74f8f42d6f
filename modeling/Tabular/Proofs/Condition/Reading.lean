import Tabular.Proofs.Operator.Place

/-! # What a fragment is read as

`Condition.parse?` reads a fragment by the first operator in the order of the scan that is not
passed over (`parse?_eq_some_iff`).  An operator is passed over if its token counts nowhere or
counts first at the very front. -/

namespace Tabular

open Unicode

namespace Operator

/-- Whether the token of an operator counts nowhere in a text, or first at its front. -/
def Passes (p : Operator) (t : Text) : Prop :=
  ∀ front rest, p.cut? t = some (front, rest) → front = []

theorem passes_of_none {p : Operator} {t : Text} (h : p.cut? t = none) : p.Passes t := by
  intro front rest e
  rw [h] at e
  cases e

theorem passes_iff_of_some {p : Operator} {t front rest : Text}
    (h : p.cut? t = some (front, rest)) : p.Passes t ↔ front = [] := by
  constructor
  · intro passes
    exact passes front rest h
  · rintro rfl front' rest' e
    rw [h] at e
    cases e
    rfl

/-- A keyword is passed over only if it counts nowhere. -/
theorem cut?_eq_none_of_passes {p : Operator} {t : Text} (keyword : p.isKeyword = true)
    (h : p.Passes t) : p.cut? t = none := by
  rw [Option.eq_none_iff_forall_ne_some]
  rintro ⟨front, rest⟩ e
  exact front_ne_nil_of_isKeyword keyword e (h front rest e)

theorem scanOrder_eq (op : Operator) : ∃ after, scanOrder = op.before ++ op :: after := by
  cases op <;> exact ⟨_, rfl⟩

theorem eq_before_of_scanOrder {op : Operator} {front after : List Operator}
    (h : scanOrder = front ++ op :: after) : front = op.before := by
  have nodup : scanOrder.Nodup := by decide
  rw [h, List.nodup_append] at nodup
  have others : ∀ p ∈ front, (decide (p ≠ op)) = true := fun p hp => by
    simpa using nodup.2.2 p hp op List.mem_cons_self
  rw [before, h, List.takeWhile_append_of_pos others, List.takeWhile_cons_of_neg (by simp),
    List.append_nil]

end Operator

namespace Condition

theorem ofCut?_eq_none_iff {op : Operator} {cut : Text × Text} :
    ofCut? op cut = none ↔ cut.1 = [] := by
  obtain ⟨front, rest⟩ := cut
  cases front <;> simp [ofCut?]

theorem bind_ofCut?_eq_none_iff {op : Operator} {t : Text} :
    (op.cut? t).bind (ofCut? op) = none ↔ op.Passes t := by
  rw [Option.bind_eq_none_iff]
  constructor
  · intro h front rest e
    exact ofCut?_eq_none_iff.mp (h _ e)
  · rintro h ⟨front, rest⟩ e
    exact ofCut?_eq_none_iff.mpr (h front rest e)

theorem ofCut?_eq_some_iff {op : Operator} {front rest : Text} {c : Condition} :
    ofCut? op (front, rest) = some c ↔
      front ≠ [] ∧ c = ⟨Text.trim front, op, unquote (Text.trim rest)⟩ := by
  cases front with
  | nil => simp [ofCut?]
  | cons a front => simp [ofCut?, eq_comm]

/-- A fragment is read by the first operator that is not passed over. -/
theorem parse?_eq_some_iff {t : Text} {c : Condition} :
    parse? t = some c ↔
      (∃ front rest, c.operator.cut? (Text.trim t) = some (front, rest) ∧ front ≠ [] ∧
        c.column = Text.trim front ∧ c.operand = unquote (Text.trim rest)) ∧
      ∀ p ∈ c.operator.before, p.Passes (Text.trim t) := by
  unfold parse?
  rw [List.findSome?_eq_some_iff]
  constructor
  · rintro ⟨earlier, op, later, order, read, passed⟩
    obtain ⟨⟨front, rest⟩, cut, e⟩ := Option.bind_eq_some_iff.mp read
    obtain ⟨ne, rfl⟩ := ofCut?_eq_some_iff.mp e
    obtain rfl := Operator.eq_before_of_scanOrder order
    exact ⟨⟨front, rest, cut, ne, rfl, rfl⟩,
      fun p hp => bind_ofCut?_eq_none_iff.mp (passed p hp)⟩
  · rintro ⟨⟨front, rest, cut, ne, column, operand⟩, passed⟩
    obtain ⟨later, order⟩ := Operator.scanOrder_eq c.operator
    refine ⟨_, c.operator, later, order, ?_, fun p hp => bind_ofCut?_eq_none_iff.mpr (passed p hp)⟩
    rw [cut, Option.bind_some]
    refine ofCut?_eq_some_iff.mpr ⟨ne, ?_⟩
    rw [← column, ← operand]

/-! ### Quotation marks -/

theorem exists_unquoteFront (t : Text) :
    ∃ q, (∀ c ∈ q, isQuote c = true) ∧ t = q ++ unquoteFront t := by
  cases t with
  | nil => exact ⟨[], by simp, rfl⟩
  | cons c t =>
      by_cases h : isQuote c = true
      · exact ⟨[c], by simpa using h, by simp [unquoteFront, h]⟩
      · exact ⟨[], by simp, by simp [unquoteFront, h]⟩

theorem exists_unquote (t : Text) :
    ∃ q q', (∀ c ∈ q, isQuote c = true) ∧ (∀ c ∈ q', isQuote c = true) ∧
      t = q ++ unquote t ++ q' := by
  obtain ⟨q, hq, e⟩ := exists_unquoteFront t
  obtain ⟨q', hq', e'⟩ := exists_unquoteFront (unquoteFront t).reverse
  refine ⟨q, q'.reverse, hq, fun c hc => hq' c (List.mem_reverse.mp hc), ?_⟩
  have back := congrArg List.reverse e'
  rw [List.reverse_reverse, List.reverse_append] at back
  rw [unquote, List.append_assoc, ← back, ← e]

theorem unquote_quoted (v : Text) : unquote ('\'' :: v ++ ['\'']) = v := by
  have front : unquoteFront ('\'' :: v ++ ['\'']) = v ++ ['\''] := rfl
  rw [unquote, front, List.reverse_append]
  exact List.reverse_reverse v

theorem unquote_of_plain {v : Text} (h : ∀ c ∈ v, isQuote c = false) : unquote v = v := by
  have keep : ∀ {t : Text}, (∀ c ∈ t, isQuote c = false) → unquoteFront t = t := by
    intro t ht
    cases t with
    | nil => rfl
    | cons c t => rw [unquoteFront, ht c List.mem_cons_self, if_neg Bool.false_ne_true]
  have back : ∀ c ∈ v.reverse, isQuote c = false := fun c hc => h c (List.mem_reverse.mp hc)
  rw [unquote, keep h, keep back, List.reverse_reverse]

/-! ### The parts of a text that is read -/

/-- What follows the column in a text from which a condition is read is no part of a word. -/
theorem head_behind_column {op : Operator} {front u rest w : Text}
    (counts : op.afterToken? front.getLast? u = some rest) (front_eq : front = Text.trim front ++ w)
    (solid : Text.frontSolid front = true) (blank : Text.isBlank w = true) :
    (w ++ u).head?.any Operator.isWordChar = false := by
  cases w with
  | cons c w =>
      have white : isWhiteSpace c = true := List.all_eq_true.mp blank c List.mem_cons_self
      exact Operator.isWordChar_of_isWhiteSpace white
  | nil =>
      -- Without white space in between the operator is a symbol.
      rw [List.append_nil] at front_eq
      have back := Text.backSolid_trim (Text.trim_ne_nil solid)
      rw [← front_eq] at back
      have symbol : op.isKeyword = false := by
        by_contra keyword
        rw [Bool.not_eq_false] at keyword
        have white := ((Operator.afterToken?_eq_some_iff.mp counts).2 keyword).1
        obtain ⟨f, x, rfl⟩ := (List.eq_nil_or_concat' front).resolve_left (by
          rintro rfl
          cases solid)
        rw [List.getLast?_concat, Option.any_some] at white
        rw [Text.backSolid_concat, white] at back
        cases back
      obtain ⟨c, u, rfl, mem⟩ := Operator.exists_of_symbol symbol counts
      have all : (Operator.symbolChars.all fun c => !Operator.isWordChar c) = true := by decide
      simpa using List.all_eq_true.mp all c mem

/-- The column of a condition that is read stands at the front of the text, its operator does not
count in it, and what follows is no part of a word. -/
theorem column_of_parse? {t : Text} {c : Condition} (h : parse? t = some c) :
    c.column ≠ [] ∧ Text.trim c.column = c.column ∧ c.operator.cut? c.column = none ∧
      ∃ u, Text.trim t = c.column ++ u ∧ u.head?.any Operator.isWordChar = false := by
  obtain ⟨⟨front, rest, cut, ne, column, -⟩, -⟩ := parse?_eq_some_iff.mp h
  obtain ⟨u, whole, counts⟩ := Operator.exists_of_cutFrom? cut
  rw [Option.or_none] at counts
  have text_ne : Text.trim t ≠ [] := by
    rw [whole]
    exact List.append_ne_nil_of_left_ne_nil ne _
  have solid : Text.frontSolid front = true := by
    refine Text.frontSolid_of_append ne (u := u) ?_
    rw [← whole]
    exact Text.frontSolid_trim text_ne
  -- The column is the front without the white space behind it.
  obtain ⟨w, blank, front_eq⟩ := Text.exists_trim_append solid
  have behind := head_behind_column counts front_eq solid blank
  rw [← column] at front_eq
  have from_column : Text.trim t = c.column ++ (w ++ u) := by
    rw [whole, ← List.append_assoc, ← front_eq]
  refine ⟨?_, by rw [column, Text.trim_trim], ?_, w ++ u, from_column, behind⟩
  · rw [column]
    exact Text.trim_ne_nil solid
  · -- A place in the column would come before the one that is found.
    rw [Option.eq_none_iff_forall_ne_some]
    rintro ⟨f, r⟩ inside
    obtain ⟨f', r', e, le, lt⟩ := Operator.exists_cutFrom?_append inside behind
    rw [← from_column] at e
    change c.operator.cut? _ = _ at e
    rw [cut, Option.some.injEq, Prod.mk.injEq] at e
    rw [← e.1] at le
    have shorter : c.column.length ≤ front.length := by
      rw [front_eq, List.length_append]
      exact Nat.le_add_right _ _
    omega

theorem isWordChar_of_isQuote {c : Char} (h : isQuote c = true) : Operator.isWordChar c = false := by
  rw [isQuote, Bool.or_eq_true, beq_iff_eq, beq_iff_eq] at h
  rcases h with rfl | rfl <;> decide

/-- The operand of a condition that is read stands in the text, and what follows is no part of a
word. -/
theorem operand_of_parse? {t : Text} {c : Condition} (h : parse? t = some c) :
    ∃ a b, Text.trim t = a ++ c.operand ++ b ∧ b.head?.any Operator.isWordChar = false := by
  obtain ⟨⟨front, rest, cut, -, -, operand⟩, -⟩ := parse?_eq_some_iff.mp h
  obtain ⟨u, whole, counts⟩ := Operator.exists_of_cutFrom? cut
  obtain ⟨⟨word, -, rfl⟩, -⟩ := Operator.afterToken?_eq_some_iff.mp counts
  obtain ⟨w, w', -, blank, trimmed⟩ := Text.exists_trim rest
  obtain ⟨q, q', -, quote, unquoted⟩ := exists_unquote (Text.trim rest)
  rw [← operand] at unquoted
  refine ⟨front ++ word ++ w ++ q, q' ++ w', ?_, ?_⟩
  · rw [whole, trimmed, unquoted]
    simp
  · cases q' with
    | cons x q' => exact isWordChar_of_isQuote (quote x List.mem_cons_self)
    | nil =>
        cases w' with
        | nil => rfl
        | cons x w' =>
            exact Operator.isWordChar_of_isWhiteSpace
              (List.all_eq_true.mp blank x List.mem_cons_self)

end Condition

end Tabular
