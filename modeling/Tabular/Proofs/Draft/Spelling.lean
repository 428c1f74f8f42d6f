import Tabular.Proofs.Condition.Position
import Tabular.Proofs.Draft.Acceptance
import Tabular.Proofs.Text.Words

/-! # Spellings of an operator

The name of an operator is read in two places.  By itself it may be written with any white space
between its words (`Operator.ofText?`); in a fragment the token is looked for as it is, up to letter
case.  So a fragment in which a draft is written with another spelling of its operator is read as
the draft exactly if the spelling is the token up to letter case (`Draft.parse?_spelled_iff`).  The
operators of one word have no other spelling (`Operator.sameLetters_of_solid`). -/

namespace Tabular

open Unicode

namespace Operator

variable {op : Operator} {s : Text}

/-! ### Names -/

theorem backSolid_token (op : Operator) : Text.backSolid op.token = true := by
  cases op <;> decide

theorem frontSolid_token (op : Operator) : Text.frontSolid op.token = true := by
  cases op <;> decide

/-- A text names an operator if its words with single blanks between them are the token up to letter
case. -/
theorem sameLetters_of_ofText? (names : ofText? s = some op) :
    Text.sameLetters op.token (Text.joinWith [' '] (Text.words s)) = true :=
  List.find?_some (p := fun q : Operator => Text.sameLetters q.token _) names

theorem length_solidPart_of_ofText? (names : ofText? s = some op) :
    (Text.solidPart op.token).length = (Text.solidPart s).length := by
  have idem : Text.solidPart (Text.solidPart s) = Text.solidPart s := by
    simp [Text.solidPart]
  rw [Text.length_solidPart_of_sameLetters (sameLetters_of_ofText? names),
    Text.solidPart_joinWith, Text.flatten_words, idem]

theorem ne_nil_of_ofText? (names : ofText? s = some op) : s ≠ [] := by
  rintro rfl
  exact Text.ne_nil_of_sameLetters (sameLetters_of_ofText? names) op.token_ne_nil rfl

/-- A token that begins where a name of the operator does ends where the name does. -/
theorem eq_of_append_eq {word rest tail : Text} (trimmed : Text.trim s = s)
    (names : ofText? s = some op) (same : Text.sameLetters op.token word = true)
    (whole : s ++ tail = word ++ rest) : word = s := by
  have back := ((Text.trim_eq_self_iff (ne_nil_of_ofText? names)).mp trimmed).2
  have back' : Text.backSolid word = true := by
    rw [← Text.backSolid_of_sameLetters same, backSolid_token]
  have count : (Text.solidPart word).length = (Text.solidPart s).length := by
    rw [← Text.length_solidPart_of_sameLetters same, length_solidPart_of_ofText? names]
  rcases List.append_eq_append_iff.mp whole with ⟨m, rfl, -⟩ | ⟨m, rfl, -⟩
  · rw [Text.eq_nil_of_solidPart back' count, List.append_nil]
  · rw [Text.eq_nil_of_solidPart back count.symm, List.append_nil]

/-- An operator of one word has no spelling but its token. -/
theorem sameLetters_of_solid (solid : ∀ c ∈ op.token, isWhiteSpace c = false)
    (trimmed : Text.trim s = s) (names : ofText? s = some op) :
    Text.sameLetters op.token s = true := by
  have name := sameLetters_of_ofText? names
  rcases Text.words_of_trim (ne_nil_of_ofText? names) trimmed with one | blank
  · rw [one] at name
    exact name
  · have unspaced := Text.isWhiteSpace_of_sameLetters name solid ' ' blank
    cases unspaced

end Operator

namespace Draft

variable {d : Draft} {s : Text}

/-- The operand of a draft between quotation marks, if its operator takes one. -/
def quotedTail (d : Draft) : Text :=
  if d.operator.takesOperand then ' ' :: '\'' :: d.value ++ ['\''] else []

/-- A draft written with a spelling of its operator. -/
def spelled (d : Draft) (s : Text) : Text :=
  d.column ++ ' ' :: s ++ d.quotedTail

/-! ### A draft with its token -/

theorem quotedTail_eq_nil_or (d : Draft) : d.quotedTail = [] ∨ ∃ o, d.quotedTail = ' ' :: o := by
  unfold quotedTail
  split
  · exact .inr ⟨_, rfl⟩
  · exact .inl rfl

theorem unquote_quotedTail (d : Draft) :
    Condition.unquote (Text.trim d.quotedTail) = d.condition.operand := by
  unfold quotedTail condition
  split
  · exact unquote_trim_quoted d.value
  · rfl

theorem cutFrom?_quotedTail_eq_none_iff {p : Operator} {last : Option Char} :
    p.cutFrom? last d.quotedTail = none ↔
      (d.operator.takesOperand = true → p.cut? ('\'' :: d.value ++ ['\'']) = none) := by
  unfold quotedTail
  split
  · rename_i takes
    rw [cutFrom?_quoted_eq_none_iff]
    simp [takes]
  · rename_i takes
    exact iff_of_true rfl fun h => absurd h takes

theorem Expressible.cut?_spelled (h : d.Expressible) :
    d.operator.cut? (d.spelled d.operator.token) = some (d.column ++ [' '], d.quotedTail) :=
  cut?_written_self d.quotedTail_eq_nil_or h.own h.unnegated

theorem Expressible.passes_spelled (h : d.Expressible) {p : Operator}
    (hp : p ∈ d.operator.before) : p.Passes (d.spelled d.operator.token) := by
  rw [spelled, passes_written_iff d.quotedTail_eq_nil_or h.unnegated hp,
    cutFrom?_quotedTail_eq_none_iff]
  exact ⟨h.earlier p hp, fun nowhere takes => h.value_free takes p hp nowhere⟩

/-! ### Other spellings -/

theorem trim_spelled (h : d.Expressible) (back : Text.backSolid s = true) :
    Text.trim (d.spelled s) = d.spelled s := by
  obtain ⟨front, -⟩ := (Text.trim_eq_self_iff h.column_ne_nil).mp h.column_trim
  have ne : ' ' :: s ≠ [] := List.cons_ne_nil _ _
  refine (Text.trim_eq_self_iff (by simp [spelled])).mpr ⟨?_, ?_⟩
  · rw [spelled, List.append_assoc]
    exact Text.frontSolid_append front _
  · rw [spelled, quotedTail]
    split
    · rw [← List.append_assoc]
      exact Text.backSolid_concat _ _
    · rw [List.append_nil, Text.backSolid_append _ ne, ← List.singleton_append,
        Text.backSolid_append _ (Text.ne_nil_of_backSolid back), back]

/-- Written with its token in any letter case, a draft that can be written is read as what it stands
for. -/
theorem parse?_of_sameLetters (h : d.Expressible)
    (same : Text.sameLetters d.operator.token s = true) :
    Condition.parse? (d.spelled s) = some d.condition := by
  have back : Text.backSolid s = true := by
    rw [← Text.backSolid_of_sameLetters same, Operator.backSolid_token]
  have same' : Text.sameLetters (d.spelled d.operator.token) (d.spelled s) = true := by
    rw [Text.sameLetters_iff, spelled, spelled]
    simp [Text.sameLetters_iff.mp same]
  -- The positions are the ones in the draft with the token.
  obtain ⟨least, -, -⟩ := Operator.isLeast_of_cut? h.cut?_spelled
  rw [Operator.countsAt_congr same'] at least
  obtain ⟨-, cut⟩ := Operator.isLeast_countsAt_iff.mp least
  have left : (d.spelled s).take (d.column ++ [' ']).length = d.column ++ [' '] := by
    have e : d.spelled s = (d.column ++ [' ']) ++ (s ++ d.quotedTail) := by simp [spelled]
    rw [e, List.take_left]
  have right : (d.spelled s).drop ((d.column ++ [' ']).length + d.operator.token.length) =
      d.quotedTail := by
    have e : d.spelled s = (d.column ++ [' '] ++ s) ++ d.quotedTail := by simp [spelled]
    rw [e, Text.length_of_sameLetters same, ← List.length_append, List.drop_left]
  rw [left, right] at cut
  obtain ⟨front, solid⟩ := (Text.trim_eq_self_iff h.column_ne_nil).mp h.column_trim
  rw [Condition.parse?_eq_some_iff, trim_spelled h back]
  refine ⟨⟨_, _, cut, by simp, (Text.trim_append_blank front solid (by decide)).symm,
    d.unquote_quotedTail.symm⟩, fun p hp => ?_⟩
  have passes := Operator.passes_iff_isLeast.mp (h.passes_spelled hp)
  rw [Operator.countsAt_congr same'] at passes
  exact Operator.passes_iff_isLeast.mpr passes

/-- Written with a name of its operator, a draft is read as what it stands for only if the name is
the token up to letter case. -/
theorem sameLetters_of_parse? (h : d.Expressible) (trimmed : Text.trim s = s)
    (names : Operator.ofText? s = some d.operator)
    (read : Condition.parse? (d.spelled s) = some d.condition) :
    Text.sameLetters d.operator.token s = true := by
  obtain ⟨front_s, back⟩ := (Text.trim_eq_self_iff (Operator.ne_nil_of_ofText? names)).mp trimmed
  obtain ⟨⟨front, rest, cut, ne, column, -⟩, -⟩ := Condition.parse?_eq_some_iff.mp read
  rw [trim_spelled h back] at cut
  change d.operator.cut? _ = _ at cut
  change d.column = _ at column
  obtain ⟨u, whole, counts⟩ := Operator.exists_of_cutFrom? cut
  obtain ⟨⟨word, same, rfl⟩, -⟩ := Operator.afterToken?_eq_some_iff.mp counts
  have front_word : Text.frontSolid word = true := by
    rw [← Text.frontSolid_of_sameLetters same, Operator.frontSolid_token]
  -- The token is found behind the column and white space.
  obtain ⟨w, blank, front_eq⟩ : ∃ w, Text.isBlank w = true ∧ front = d.column ++ w := by
    rw [column]
    refine Text.exists_trim_append (Text.frontSolid_of_append ne (u := word ++ rest) ?_)
    rw [← whole, spelled, List.append_assoc]
    exact Text.frontSolid_append ((Text.trim_eq_self_iff h.column_ne_nil).mp h.column_trim).1 _
  rw [front_eq, spelled, List.append_assoc, List.append_assoc] at whole
  have behind : [' '] ++ (s ++ d.quotedTail) = w ++ (word ++ rest) := List.append_cancel_left whole
  have found := congrArg Text.trimStart behind
  rw [Text.trimStart_append_of_isBlank (by decide), Text.trimStart_append_of_isBlank blank,
    Text.trimStart_of_frontSolid (Text.frontSolid_append front_s _),
    Text.trimStart_of_frontSolid (Text.frontSolid_append front_word _)] at found
  rwa [← Operator.eq_of_append_eq trimmed names same found]

/-- **Spellings.**  Let a draft that is kept be written with a name of its operator that has no
white space around it, the value between quotation marks.  It is read as what it stands for exactly
if the name is the token of the operator up to letter case.  Operators of one word have no other
names, so with them it always is. -/
theorem parse?_spelled_iff (kept : d.refusal? = none) (trimmed : Text.trim s = s)
    (names : Operator.ofText? s = some d.operator) :
    (Condition.parse? (d.spelled s) = some d.condition ↔
      Text.sameLetters d.operator.token s = true) ∧
    ((∀ c ∈ d.operator.token, isWhiteSpace c = false) →
      Condition.parse? (d.spelled s) = some d.condition) := by
  have h := refusal?_eq_none_iff_expressible.mp kept
  refine ⟨⟨sameLetters_of_parse? h trimmed names, parse?_of_sameLetters h⟩, fun solid => ?_⟩
  exact parse?_of_sameLetters h (Operator.sameLetters_of_solid solid trimmed names)

/-- Two names of one operator: in small letters it is found, with a line end in it it is not. -/
theorem parse?_spelled_iff_not_in :
    let d : Draft := ⟨3, "A".toList, .notIn, "x,IN y".toList, .or⟩
    let small := "not in".toList
    let broken := "NOT\nIN".toList
    (d.refusal? = none ∧ Text.trim small = small ∧ Operator.ofText? small = some d.operator ∧
      Text.trim broken = broken ∧ Operator.ofText? broken = some d.operator) ∧
    Condition.parse? (d.spelled small) = some d.condition ∧
    Condition.parse? (d.spelled broken) ≠ some d.condition := by
  intro d small broken
  have kept : d.refusal? = none := by decide
  have trimmed : Text.trim small = small := by decide
  have names : Operator.ofText? small = some d.operator := by decide
  have trimmed' : Text.trim broken = broken := by decide
  have names' : Operator.ofText? broken = some d.operator := by decide
  refine ⟨⟨kept, trimmed, names, trimmed', names'⟩, ?_, ?_⟩
  · exact (parse?_spelled_iff kept trimmed names).1.mpr (by decide)
  · intro read
    have same := (parse?_spelled_iff kept trimmed' names').1.mp read
    exact absurd same (by decide)

/-- With a line end between its words an operator is not found: the first word goes to the column,
and the second one is another operator. -/
theorem parse?_spelled_line_end :
    let d : Draft := ⟨0, "A".toList, .notLike, "x".toList, .and⟩
    let s := "NOT\nLIKE".toList
    d.refusal? = none ∧ Text.trim s = s ∧ Operator.ofText? s = some d.operator ∧
      d.spelled s = "A NOT\nLIKE 'x'".toList ∧
      Condition.parse? (d.spelled s) = some ⟨"A NOT".toList, .like, "x".toList⟩ ∧
      d.condition ≠ ⟨"A NOT".toList, .like, "x".toList⟩ := by
  decide

end Draft

end Tabular
