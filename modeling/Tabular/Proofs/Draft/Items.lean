import Tabular.Proofs.Draft.Reading
import Tabular.Proofs.Text.Words

/-! # List operands and lists of drafts

To be among the items of a list operand is to be the same as one of them, and to be none of them is to
be another than each (`Condition.holds_isIn`, `Condition.holds_notIn`); a row without the column meets
neither side of both.  So one draft with a list operand keeps the rows that the drafts for its items
keep, `IN` those joined by `OR` and `NOT IN` those joined by `AND`, and this is so of what is read of
their clause texts (`filter_isIn_eq`).  The items have no comma in them and no white space around
them, since a list operand cannot write such items; they may be empty and have quotation marks. -/

namespace Tabular

open Unicode

/-! ### Items -/

theorem Text.items_ne_nil (operand : Text) : items operand ≠ [] := by
  intro nil
  exact cutAt_ne_nil ',' operand (List.map_eq_nil_iff.mp nil)

theorem Text.items_joinWith {xs : List Text} (ne : xs ≠ [])
    (plain : ∀ x ∈ xs, ',' ∉ x ∧ trim x = x) : items (joinWith [','] xs) = xs := by
  unfold items
  rw [cutAt_joinWith ne fun x hx => (plain x hx).1]
  conv_rhs => rw [← List.map_id xs]
  exact List.map_congr_left fun x hx => (plain x hx).2

theorem sameIgnoringCase_comm (s t : Text) : sameIgnoringCase s t = sameIgnoringCase t s :=
  Bool.beq_comm

namespace Condition

variable {column operand : Text} {row : Row}

/-- A cell is among the items of an operand exactly if it is equal to one of them. -/
theorem holds_isIn : (Condition.mk column .isIn operand).holds row =
    (Text.items operand).any fun x => (Condition.mk column .eq x).holds row := by
  cases found : row.get? column with
  | none =>
      simp only [holds_of_missing found]
      exact (List.any_eq_false.mpr fun _ _ => Bool.false_ne_true).symm
  | some cell =>
      simp only [holds_of_get? found]
      exact congrArg _ (funext fun x => sameIgnoringCase_comm x cell)

/-- A cell is not among the items of an operand exactly if it is unequal to each of them; of items
there is at least one, so a row without the column meets neither side. -/
theorem holds_notIn : (Condition.mk column .notIn operand).holds row =
    (Text.items operand).all fun x => (Condition.mk column .ne x).holds row := by
  cases found : row.get? column with
  | none =>
      simp only [holds_of_missing found]
      obtain ⟨x, xs, e⟩ := List.exists_cons_of_ne_nil (Text.items_ne_nil operand)
      rw [e]
      rfl
  | some cell =>
      simp only [holds_of_get? found]
      change (!(Text.items operand).any (sameIgnoringCase · cell)) =
        (Text.items operand).all fun x => !sameIgnoringCase cell x
      rw [List.not_any_eq_all_not]
      exact congrArg _ (funext fun x => congrArg _ (sameIgnoringCase_comm x cell))

end Condition

namespace Draft

variable {column : Text} {op : Operator} {logic : Logic} {xs : List Text} {d : Draft}
  {ds : List Draft}

/-! ### Drafts for the items -/

/-- Drafts that compare a column with each of some values, joined in one way. -/
structure Spread (column : Text) (op : Operator) (logic : Logic) (xs : List Text)
    (ds : List Draft) : Prop where
  contents : ds.map (fun d => (d.column, d.operator, d.value)) = xs.map fun x => (column, op, x)
  joined : ∀ d ∈ ds.tail, d.logic = logic

theorem filter_of_seamless (kept : ∀ d ∈ ds, d.refusal? = none)
    (seamless : ∀ d ∈ ds.tail, d.opensSeam = false) (rows : List Row) :
    Clause.filter rows (clauseText ds) = .ok (rows.filter fun row =>
      (blocks ds).all fun block => block.any fun d => d.condition.holds row) := by
  rw [filter_clauseText kept, (reading_eq_clauseOf_iff kept).mpr seamless]
  exact congrArg Except.ok (List.filter_congr fun row _ => holds_clauseOf ds row)

theorem filter_singleton (kept : d.refusal? = none) (rows : List Row) :
    Clause.filter rows (clauseText [d]) = .ok (rows.filter fun row => d.condition.holds row) := by
  rw [filter_of_seamless (by simpa using kept) (by simp)]
  refine congrArg Except.ok (List.filter_congr fun row _ => ?_)
  change ((d.condition.holds row || false) && true) = _
  rw [Bool.or_false, Bool.and_true]

namespace Spread

theorem conditions (h : Spread column op logic xs ds) (takes : op.takesOperand = true) :
    ds.map condition = xs.map (Condition.mk column op) := by
  have each : ∀ d : Draft, d.condition = Condition.mk d.column d.operator
      (if d.operator.takesOperand then d.value else []) := fun _ => rfl
  have same := congrArg (List.map fun c : Text × Operator × Text =>
    Condition.mk c.1 c.2.1 (if c.2.1.takesOperand then c.2.2 else [])) h.contents
  rw [List.map_map, List.map_map] at same
  refine same.trans (List.map_congr_left fun x _ => ?_)
  rw [Function.comp_apply, if_pos takes]

theorem column_eq (h : Spread column op logic xs ds) : ∀ d ∈ ds, d.column = column := by
  intro d hd
  have mem : (d.column, d.operator, d.value) ∈ xs.map fun x => (column, op, x) := by
    rw [← h.contents]
    exact List.mem_map_of_mem hd
  obtain ⟨x, -, e⟩ := List.mem_map.mp mem
  exact (congrArg Prod.fst e).symm

theorem ne_nil (h : Spread column op logic xs ds) (ne : xs ≠ []) : ds ≠ [] := by
  rintro rfl
  exact ne (List.map_eq_nil_iff.mp h.contents.symm)

/-- Drafts for some values that are joined by `OR` keep the rows on which one of the conditions
holds, if the column does not open a seam. -/
theorem filter_or (h : Spread column op .or xs ds) (ne : xs ≠ []) (takes : op.takesOperand = true)
    (kept : ∀ d ∈ ds, d.refusal? = none)
    (apart : Text.sameLetters Logic.and.token column = false)
    (unopened : Text.opensWith Logic.and.token column = false) (rows : List Row) :
    Clause.filter rows (clauseText ds) =
      .ok (rows.filter fun row => xs.any fun x => (Condition.mk column op x).holds row) := by
  have seamless : ∀ d ∈ ds.tail, d.opensSeam = false := by
    intro d hd
    rw [opensSeam, h.column_eq d (List.mem_of_mem_tail hd), apart, unopened]
    exact Bool.and_false _
  rw [filter_of_seamless kept seamless]
  refine congrArg Except.ok (List.filter_congr fun row _ => ?_)
  obtain ⟨d, ds', rfl⟩ := List.exists_cons_of_ne_nil (h.ne_nil ne)
  have same : ((d :: ds').map condition).any (·.holds row) =
      (xs.map (Condition.mk column op)).any (·.holds row) := by
    rw [h.conditions takes]
  rw [List.any_map, List.any_map] at same
  have joined : ∀ e ∈ ds', e.logic = .or := h.joined
  rw [blocks_of_or d joined, List.all_cons, List.all_nil, Bool.and_true]
  exact same

theorem filter_and (h : Spread column op .and xs ds) (ne : xs ≠ []) (takes : op.takesOperand = true)
    (kept : ∀ d ∈ ds, d.refusal? = none) (rows : List Row) :
    Clause.filter rows (clauseText ds) =
      .ok (rows.filter fun row => xs.all fun x => (Condition.mk column op x).holds row) := by
  have seamless : ∀ d ∈ ds.tail, d.opensSeam = false := by
    intro d hd
    rw [opensSeam, h.joined d hd]
    rfl
  rw [filter_of_seamless kept seamless]
  refine congrArg Except.ok (List.filter_congr fun row _ => ?_)
  obtain ⟨d, ds', rfl⟩ := List.exists_cons_of_ne_nil (h.ne_nil ne)
  have same : ((d :: ds').map condition).all (·.holds row) =
      (xs.map (Condition.mk column op)).all (·.holds row) := by
    rw [h.conditions takes]
  rw [List.all_map, List.all_map] at same
  have joined : ∀ e ∈ ds', e.logic = .and := h.joined
  rw [blocks_of_and d joined, List.all_map]
  refine Eq.trans (congrArg _ (funext fun e => ?_)) same
  exact Bool.or_false _

end Spread

/-- **List operands.**  Let some items, of which there is at least one, have no comma in them and no
white space around them.  On a column that is not `AND` and does not begin with `AND` and white space,
the clause text of one draft `IN` the items keeps the same rows of every list as that of drafts equal
to each of them, joined by `OR`.  On every column the text of one draft `NOT IN` the items keeps the
same rows as that of drafts unequal to each of them, joined by `AND`.  All these drafts are such as can
be kept. -/
theorem filter_isIn_eq (column : Text) {xs : List Text} (ne : xs ≠ [])
    (plain : ∀ x ∈ xs, ',' ∉ x ∧ Text.trim x = x) :
    (∀ (id : Nat) (logic : Logic) (each : List Draft),
      let one : Draft := ⟨id, column, .isIn, Text.joinWith [','] xs, logic⟩
      Spread column .eq .or xs each → one.refusal? = none → (∀ d ∈ each, d.refusal? = none) →
      Text.sameLetters Logic.and.token column = false →
      Text.opensWith Logic.and.token column = false →
      ∀ rows, ∃ kept, Clause.filter rows (clauseText [one]) = .ok kept ∧
        Clause.filter rows (clauseText each) = .ok kept) ∧
    (∀ (id : Nat) (logic : Logic) (each : List Draft),
      let one : Draft := ⟨id, column, .notIn, Text.joinWith [','] xs, logic⟩
      Spread column .ne .and xs each → one.refusal? = none → (∀ d ∈ each, d.refusal? = none) →
      ∀ rows, ∃ kept, Clause.filter rows (clauseText [one]) = .ok kept ∧
        Clause.filter rows (clauseText each) = .ok kept) := by
  have items := Text.items_joinWith ne plain
  constructor
  · intro id logic each one spread accepted kept apart unopened rows
    refine ⟨_, filter_singleton accepted rows, ?_⟩
    rw [spread.filter_or ne rfl kept apart unopened rows]
    refine congrArg Except.ok (List.filter_congr fun row _ => ?_)
    change _ = (Condition.mk column .isIn (Text.joinWith [','] xs)).holds row
    rw [Condition.holds_isIn, items]
  · intro id logic each one spread accepted kept rows
    refine ⟨_, filter_singleton accepted rows, ?_⟩
    rw [spread.filter_and ne rfl kept rows]
    refine congrArg Except.ok (List.filter_congr fun row _ => ?_)
    change _ = (Condition.mk column .notIn (Text.joinWith [','] xs)).holds row
    rw [Condition.holds_notIn, items]

/-- An empty item, an item with quotation marks and one with a keyword that no white space sets off,
on a column that begins with the letters of `AND`. -/
theorem filter_isIn_eq_quotes :
    let column := "Android".toList
    let xs := [[], "'x\"".toList, "or=y".toList]
    let one (op : Operator) : Draft := ⟨7, column, op, ",'x\",or=y".toList, .or⟩
    let each (op : Operator) (logic : Logic) : List Draft :=
      [⟨0, column, op, [], .or⟩, ⟨1, column, op, "'x\"".toList, logic⟩,
        ⟨4, column, op, "or=y".toList, logic⟩]
    (xs ≠ [] ∧ (∀ x ∈ xs, ',' ∉ x ∧ Text.trim x = x) ∧ Spread column .eq .or xs (each .eq .or) ∧
      Spread column .ne .and xs (each .ne .and) ∧
      (∀ op ∈ [Operator.isIn, .notIn], (one op).refusal? = none) ∧
      (∀ d ∈ each .eq .or ++ each .ne .and, d.refusal? = none) ∧
      Text.sameLetters Logic.and.token column = false ∧
      Text.opensWith Logic.and.token column = false) ∧
    ∀ rows, (∃ kept, Clause.filter rows "WHERE Android IN ',\'x\",or=y'".toList = .ok kept ∧
        Clause.filter rows (clauseText (each .eq .or)) = .ok kept) ∧
      ∃ kept, Clause.filter rows (clauseText [one .notIn]) = .ok kept ∧
        Clause.filter rows (clauseText (each .ne .and)) = .ok kept := by
  intro column xs one each
  have ne : xs ≠ [] := by decide
  have plain : ∀ x ∈ xs, ',' ∉ x ∧ Text.trim x = x := by decide
  have equal : Spread column .eq .or xs (each .eq .or) := ⟨by decide, by decide⟩
  have unequal : Spread column .ne .and xs (each .ne .and) := ⟨by decide, by decide⟩
  have accepted : ∀ op ∈ [Operator.isIn, .notIn], (one op).refusal? = none := by decide
  have kept : ∀ d ∈ each .eq .or ++ each .ne .and, d.refusal? = none := by decide
  obtain ⟨left, right⟩ := List.forall_mem_append.mp kept
  have apart : Text.sameLetters Logic.and.token column = false := by decide
  have unopened : Text.opensWith Logic.and.token column = false := by decide
  refine ⟨⟨ne, plain, equal, unequal, accepted, kept, apart, unopened⟩, fun rows => ⟨?_, ?_⟩⟩
  · exact (filter_isIn_eq column ne plain).1 7 .or _ equal (accepted _ (by decide)) left apart
      unopened rows
  · exact (filter_isIn_eq column ne plain).2 7 .or _ unequal (accepted _ (by decide)) right rows

end Draft

end Tabular
