import Tabular.Proofs.Builder.Edits
import Tabular.Proofs.Condition.Position

/-! # What a value may hold

Whether a value can be kept is told from the value, once the draft can be kept without one
(`Draft.refusal?_eq_none_iff_value`): no keyword may stand in it between white space, and no
operator that is looked for before the one of the draft may count in the value between quotation
marks.  A symbol at the front of the column is passed over wherever it comes again, so it may stand
in the value.  An operator without an operand lets every value be. -/

namespace Tabular

open Unicode

/-! ### Symbols at the front of a column -/

namespace Operator

variable {p : Operator} {t : Text}

theorem not_isAlpha_of_symbol (symbol : p.isKeyword = false) : ∀ c ∈ p.token, c.isAlpha = false := by
  have each : (p.isKeyword || p.token.all fun c => !c.isAlpha) = true := by
    cases p <;> decide
  rw [symbol, Bool.false_or, List.all_eq_true] at each
  simpa using each

theorem countsAt_zero_iff : p.CountsAt t 0 ↔ p.isKeyword = false ∧ p.token <+: t := by
  constructor
  · intro h
    have symbol : p.isKeyword = false := by
      by_contra keyword
      have white := h.before (Bool.not_eq_false _ ▸ keyword)
      cases white
    have same := Text.eq_of_sameLetters h.token (not_isAlpha_of_symbol symbol)
    rw [List.drop_zero] at same
    exact ⟨symbol, List.prefix_iff_eq_take.mpr same.symm⟩
  · rintro ⟨symbol, front⟩
    refine ⟨?_, fun keyword => ?_, fun keyword => ?_⟩
    · rw [List.drop_zero, ← List.prefix_iff_eq_take.mp front]
      exact Text.sameLetters_iff.mpr rfl
    all_goals
      rw [symbol] at keyword
      cases keyword

/-- An operator that is passed over in a text counts nowhere in it unless it is a symbol with which
the text begins. -/
theorem Passes.cut?_eq_none_iff (passes : p.Passes t) :
    p.cut? t = none ↔ ¬ (p.isKeyword = false ∧ p.token <+: t) := by
  rw [← countsAt_zero_iff, Operator.cut?_eq_none_iff]
  constructor
  · intro nowhere
    exact nowhere 0
  · intro front i here
    -- A place at the front would be the least one.
    refine Operator.cut?_eq_none_iff.mp ?_ i here
    rw [Option.eq_none_iff_forall_ne_some]
    rintro ⟨first, rest⟩ cut
    have least := (isLeast_of_cut? cut).1
    rw [passes first rest cut] at least
    exact front least.1

end Operator

namespace Draft

variable {d : Draft}

/-- A draft is kept exactly if it is kept without its value and, where the operator takes an
operand, the value holds no keyword and no operator that is looked for before. -/
theorem refusal?_eq_none_iff_value (d : Draft) :
    d.refusal? = none ↔ { d with value := [] }.refusal? = none ∧
      (d.operator.takesOperand = true → (∀ l : Logic, ¬ Clause.Occurs l d.value) ∧
        ∀ p ∈ d.operator.before, ¬ (p.isKeyword = false ∧ p.token <+: d.column) →
          ∀ i, ¬ p.CountsAt ('\'' :: d.value ++ ['\'']) i) := by
  constructor
  · intro kept
    refine ⟨refusal?_withoutValue kept, fun takes => ?_⟩
    have h := refusal?_eq_none_iff_expressible.mp kept
    refine ⟨Clause.uncut_iff.mp (h.value_uncut takes), fun p hp unopened => ?_⟩
    have nowhere := (h.earlier p hp).cut?_eq_none_iff.mpr unopened
    exact Operator.cut?_eq_none_iff.mp (h.value_free takes p hp nowhere)
  · rintro ⟨kept, fits⟩
    have h := refusal?_eq_none_iff_expressible.mp kept
    refine refusal?_eq_none_iff_expressible.mpr { h with
      value_uncut := fun takes => Clause.uncut_iff.mpr (fits takes).1
      value_free := fun takes p hp nowhere => ?_ }
    have unopened := (h.earlier p hp).cut?_eq_none_iff.mp nowhere
    exact Operator.cut?_eq_none_iff.mpr ((fits takes).2 p hp unopened)

end Draft

namespace Builder

variable {b : Builder}

theorem Sound.exists_split (h : b.Sound) {id : Nat} (live : b.has id = true) :
    ∃ front d back, b.drafts = front ++ d :: back ∧ d.id = id ∧ d.refusal? = none := by
  obtain ⟨front, d, back, split, same⟩ := Builder.exists_split live
  have mem : d ∈ b.drafts := by
    rw [split]
    exact List.mem_append_right front List.mem_cons_self
  exact ⟨front, d, back, split, same, h.kept d mem⟩

/-- **Values that are kept.**  A column, an operator and a value are kept exactly if the column and
the operator are kept without a value and, where the operator takes an operand, the value holds no
`AND` or `OR` between white space and, between quotation marks, no place at which an operator counts
that is looked for before, the symbols with which the column begins left aside.  In particular the
value of a draft that a builder holds after any calls can be taken away, which changes nothing
else. -/
theorem kept_values :
    (∀ d : Draft, d.refusal? = none ↔ { d with value := [] }.refusal? = none ∧
      (d.operator.takesOperand = true → (∀ l : Logic, ¬ Clause.Occurs l d.value) ∧
        ∀ p ∈ d.operator.before, ¬ (p.isKeyword = false ∧ p.token <+: d.column) →
          ∀ i, ¬ p.CountsAt ('\'' :: d.value ++ ['\'']) i)) ∧
    ∀ (headers : List Text) (commands : List Command),
      let b := ((new headers).run commands).1
      ∀ id, b.has id = true → ∃ front d back, b.drafts = front ++ d :: back ∧ d.id = id ∧
        b.update id (.value []) = .ok (b.withDrafts (front ++ { d with value := [] } :: back)) := by
  refine ⟨Draft.refusal?_eq_none_iff_value, ?_⟩
  intro headers commands b id live
  have sound : b.Sound := (sound_new headers).run commands
  obtain ⟨front, d, back, split, rfl, kept⟩ := sound.exists_split live
  have cleared : ((Edit.value []).apply d).refusal? = none := Draft.refusal?_withoutValue kept
  exact ⟨front, d, back, split, rfl, update_of_split split sound.nodup cleared⟩

/-- A value with a symbol that is looked for before: it is kept on a column that begins with the
symbol and on no other, and it can be taken away. -/
theorem kept_values_symbol :
    let b := ((new ["y".toList]).run [.add, .update 0 (.operator .gt),
      .update 0 (.column "=x".toList), .update 0 (.value "a=b".toList)]).1
    b.has 0 = true ∧ b.clauseText = "WHERE =x > 'a=b'".toList ∧
    (⟨0, "y".toList, .gt, "a=b".toList, .and⟩ : Draft).refusal? ≠ none ∧
    ∃ b', b.update 0 (.value []) = .ok b' ∧ b'.clauseText = "WHERE =x > ''".toList := by
  intro b
  have live : b.has 0 = true := by decide
  refine ⟨live, by decide, ?_, ?_⟩
  · intro kept
    -- The symbol counts behind the first letter of the value.
    obtain ⟨-, free⟩ := ((kept_values.1 _).mp kept).2 rfl
    exact free .eq (by decide) (by decide) 2 ⟨by decide, by decide, by decide⟩
  · obtain ⟨front, d, back, split, -, run⟩ := kept_values.2 ["y".toList] _ 0 live
    refine ⟨_, run, ?_⟩
    have one : front ++ d :: back = [⟨0, "=x".toList, .gt, "a=b".toList, .and⟩] :=
      split.symm.trans (by decide)
    obtain ⟨rfl, rfl, rfl⟩ : front = [] ∧ d = ⟨0, "=x".toList, .gt, "a=b".toList, .and⟩ ∧
        back = [] := by
      cases front with
      | nil => simpa using one
      | cons x front => simp at one
    decide

end Builder

end Tabular
