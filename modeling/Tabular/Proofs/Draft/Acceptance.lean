import Tabular.Proofs.Clause.Occurrence
import Tabular.Proofs.Condition.Reading
import Tabular.Proofs.Draft.Fragment

/-! # Which drafts can be written

Whether a draft is refused is found out by writing it and reading it back.  Here this is told from
its column and its value (`refusal?_eq_none_iff_expressible`): the column is not blank and has no
white space around it; no keyword occurs in the column, with the blank behind it, or in the value;
the operator does not count in the column; and the operators that are looked for before it count
neither in the column nor in the value, where the value no longer matters to one that counts at the
front of the column.  One pair of words can come about between the column and the token: `NOT` at
the end of a column and `LIKE` or `IN` behind it.

So column, operator and value can be looked at one by one.

A condition that is read of a text can be kept as a draft, however the text is spaced, cased or
quoted (`refusal?_of_parse`).  What is found in the written draft stands in the text as well: a
keyword because column and value are parts of the text, an operator because what follows the column
and the value in the text ends a word as a blank or a quotation mark does.  A draft is written with
a blank behind the column that the text need not have, and that one makes a keyword of the words
`AND`, `OR` and `NOT` at the end of a column. -/

namespace Tabular

open Unicode

namespace Draft

/-- What follows the token in a written draft. -/
def tail (d : Draft) : Text :=
  (d.operator.operandText? d.value).elim [] (' ' :: ·)

theorem fragment_eq (d : Draft) : d.fragment = (d.column ++ ' ' :: d.operator.token) ++ d.tail :=
  rfl

/-- The conditions on the parts of a draft under which it can be written. -/
structure Expressible (d : Draft) : Prop where
  column_ne_nil : d.column ≠ []
  column_trim : Text.trim d.column = d.column
  column_uncut : Clause.Uncut (d.column ++ [' '])
  value_uncut : d.operator.takesOperand = true → Clause.Uncut d.value
  /-- The operator does not count in the column. -/
  own : d.operator.cut? d.column = none
  /-- The column does not make another operator of the token. -/
  unnegated : d.operator.takesNot = true → Text.closesWith Operator.notWord d.column = false
  /-- No operator that is looked for before counts in the column, but at its front. -/
  earlier : ∀ p ∈ d.operator.before, p.Passes d.column
  /-- No operator that is looked for before counts in the value. -/
  value_free : d.operator.takesOperand = true → ∀ p ∈ d.operator.before,
    p.cut? d.column = none → p.cut? ('\'' :: d.value ++ ['\'']) = none

variable {d : Draft} {p : Operator}

/-! ### The operand -/

theorem takesOperand_of_operandText? {op : Operator} {v t : Text} (h : op.operandText? v = some t) :
    op.takesOperand = true := by
  by_contra none
  rw [Operator.operandText?, if_pos (by simpa using none)] at h
  cases h

theorem tail_cases (d : Draft) :
    (d.operator.takesOperand = false ∧ d.tail = []) ∨
    (d.operator.takesOperand = true ∧ Number.isLiteral d.value = true ∧
      Text.trim d.value = d.value ∧ d.tail = ' ' :: d.value) ∨
    (d.operator.takesOperand = true ∧ d.tail = ' ' :: '\'' :: d.value ++ ['\'']) := by
  unfold tail
  rcases d.operator.operandText?_cases d.value with ⟨takes, e⟩ | ⟨literal, trimmed, e⟩ | e
  · exact .inl ⟨takes, by rw [e]; rfl⟩
  · exact .inr (.inl ⟨takesOperand_of_operandText? e, literal, trimmed, by rw [e]; rfl⟩)
  · exact .inr (.inr ⟨takesOperand_of_operandText? e, by rw [e]; rfl⟩)

theorem tail_eq_nil_or (d : Draft) : d.tail = [] ∨ ∃ o, d.tail = ' ' :: o := by
  rcases d.tail_cases with ⟨-, e⟩ | ⟨-, -, -, e⟩ | ⟨-, e⟩
  · exact .inl e
  · exact .inr ⟨_, e⟩
  · exact .inr ⟨_, e⟩

theorem not_white_of_isLiteralChar {c : Char} (h : Number.isLiteralChar c = true) :
    isWhiteSpace c = false := by
  have ends := Clause.endsPiece_of_isLiteralChar h
  rw [Clause.endsPiece, Bool.and_eq_true, Bool.not_eq_true'] at ends
  exact ends.1

theorem not_quote_of_isLiteralChar {c : Char} (h : Number.isLiteralChar c = true) :
    Condition.isQuote c = false := by
  by_contra quote
  rw [Bool.not_eq_false, Condition.isQuote, Bool.or_eq_true, beq_iff_eq, beq_iff_eq] at quote
  rcases quote with rfl | rfl <;> exact absurd h (by decide)

theorem unquote_trim_quoted (v : Text) :
    Condition.unquote (Text.trim (' ' :: '\'' :: v ++ ['\''])) = v := by
  have front : Text.trimStart (' ' :: '\'' :: v ++ ['\'']) = '\'' :: v ++ ['\''] :=
    (Text.trimStart_append_of_isBlank (w := [' ']) (by decide) _).trans
      (Text.trimStart_of_frontSolid rfl)
  rw [Text.trim, front, Text.trimEnd_of_backSolid (Text.backSolid_concat _ _),
    Condition.unquote_quoted]

theorem unquote_tail (d : Draft) :
    Condition.unquote (Text.trim d.tail) = if d.operator.takesOperand then d.value else [] := by
  rcases d.tail_cases with ⟨takes, e⟩ | ⟨takes, literal, trimmed, e⟩ | ⟨takes, e⟩
  · rw [e, takes]
    rfl
  · have chars := Number.isLiteralChar_of_isLiteral literal trimmed
    have trimmed' : Text.trim (' ' :: d.value) = d.value := by
      have e' : Text.trimStart (' ' :: d.value) = Text.trimStart d.value :=
        Text.trimStart_append_of_isBlank (w := [' ']) (by decide) _
      rw [Text.trim, e']
      exact trimmed
    rw [e, takes, trimmed', Condition.unquote_of_plain fun c hc =>
      not_quote_of_isLiteralChar (chars c hc)]
    rfl
  · rw [e, takes, unquote_trim_quoted]
    rfl

/-! ### Keywords in a written draft -/

theorem not_occurs_token (l : Logic) (op : Operator) :
    ¬ Clause.Occurs l (' ' :: op.token ++ [' ']) := by
  rw [← Clause.cutAtKeyword_eq_self_iff]
  cases l <;> cases op <;> decide

theorem occurs_quoted {l : Logic} {v : Text} :
    Clause.Occurs l (' ' :: '\'' :: v ++ ['\'']) ↔ Clause.Occurs l v := by
  have mark : Clause.isMark '\'' = true := by decide
  have blank : ¬ Clause.Occurs l [' '] := Clause.not_occurs_of_solid (by simp)
  have nothing : ¬ Clause.Occurs l [] := fun h => blank (h.mono List.nil_infix)
  have parts : ' ' :: '\'' :: v ++ ['\''] = [' '] ++ '\'' :: (v ++ '\'' :: []) := rfl
  rw [parts, Clause.occurs_append_mark mark, Clause.occurs_append_mark mark]
  simp [blank, nothing]

theorem occurs_tail {l : Logic} (d : Draft) :
    Clause.Occurs l d.tail ↔ d.operator.takesOperand = true ∧ Clause.Occurs l d.value := by
  rcases d.tail_cases with ⟨takes, e⟩ | ⟨takes, literal, trimmed, e⟩ | ⟨takes, e⟩
  · have nothing : ¬ Clause.Occurs l [] := fun h =>
      Clause.not_occurs_of_solid (c := ' ') (t := []) (by simp) (h.mono List.nil_infix)
    simp [e, takes, nothing]
  · have solid : ∀ c ∈ d.value, isWhiteSpace c = false := fun c hc =>
      not_white_of_isLiteralChar (Number.isLiteralChar_of_isLiteral literal trimmed c hc)
    have free : ¬ Clause.Occurs l (' ' :: d.value) := Clause.not_occurs_of_solid solid
    have free' : ¬ Clause.Occurs l d.value := fun h => free (h.mono (List.suffix_cons _ _).isInfix)
    simp [e, takes, free, free']
  · rw [e, occurs_quoted]
    simp [takes]

theorem occurs_token_tail {l : Logic} (d : Draft) :
    Clause.Occurs l (' ' :: d.operator.token ++ d.tail) ↔ Clause.Occurs l d.tail := by
  rcases d.tail_eq_nil_or with e | ⟨o, e⟩
  · rw [e, List.append_nil]
    have alone : ¬ Clause.Occurs l (' ' :: d.operator.token) := fun h =>
      not_occurs_token l d.operator (h.mono (List.prefix_append _ _).isInfix)
    have nothing : ¬ Clause.Occurs l [] := fun h => alone (h.mono List.nil_infix)
    simp [alone, nothing]
  · rw [e, Clause.occurs_append_blank (by decide)]
    exact or_iff_right (not_occurs_token l d.operator)

/-- A written draft is cut at no keyword exactly if its column, with the blank behind it, and its
value are not. -/
theorem uncut_fragment (d : Draft) :
    Clause.Uncut d.fragment ↔ Clause.Uncut (d.column ++ [' ']) ∧
      (d.operator.takesOperand = true → Clause.Uncut d.value) := by
  have each : ∀ l, Clause.Occurs l d.fragment ↔ Clause.Occurs l (d.column ++ [' ']) ∨
      d.operator.takesOperand = true ∧ Clause.Occurs l d.value := fun l => by
    rw [← occurs_tail, ← occurs_token_tail, fragment_eq, List.append_assoc, List.cons_append,
      Clause.occurs_append_blank (by decide)]
  simp only [Clause.uncut_iff, each]
  constructor
  · intro h
    exact ⟨fun l occurs => h l (.inl occurs), fun takes l occurs => h l (.inr ⟨takes, occurs⟩)⟩
  · rintro ⟨column, value⟩ l (occurs | ⟨takes, occurs⟩)
    · exact column l occurs
    · exact value takes l occurs

/-! ### Operators in a written draft -/

theorem token_head_of_isLiteralChar (p : Operator) (symbol : p.isKeyword = false) {c : Char}
    (h : Number.isLiteralChar c = true) :
    (p.token.head?.any fun d => Text.sameLetter d c) = false := by
  have all : ∀ p ∈ Operator.all, p.isKeyword = false → ("0123456789+-.eEInfity".toList.all fun c =>
      !(p.token.head?.any fun d => Text.sameLetter d c)) = true := by
    decide +kernel
  have apart := List.all_eq_true.mp (all p (Operator.mem_all p) symbol) c
    (Number.mem_of_isLiteralChar h)
  rwa [Bool.not_eq_true'] at apart

theorem token_head_of_opensDecimal (p : Operator) {c : Char} (h : Number.opensDecimal c = true)
    (literal : Number.isLiteralChar c = true) :
    (p.token.head?.any fun d => Text.sameLetter d c) = false := by
  have all : ∀ p ∈ Operator.all, ("0123456789+-.eEInfity".toList.all fun c =>
      !(Number.opensDecimal c && p.token.head?.any fun d => Text.sameLetter d c)) = true := by
    decide +kernel
  have apart := List.all_eq_true.mp (all p (Operator.mem_all p)) c
    (Number.mem_of_isLiteralChar literal)
  rwa [h, Bool.true_and, Bool.not_eq_true'] at apart

theorem cutFrom?_literal {v : Text} (literal : Number.isLiteral v = true)
    (trimmed : Text.trim v = v) (p : Operator) :
    p.cutFrom? (some ' ') v = none ∧ p.cut? ('\'' :: v ++ ['\'']) = none := by
  have chars := Number.isLiteralChar_of_isLiteral literal trimmed
  have solid : ∀ c ∈ v, isWhiteSpace c = false := fun c hc => not_white_of_isLiteralChar (chars c hc)
  have symbols : p.isKeyword = false → ∀ c ∈ v,
      (p.token.head?.any fun d => Text.sameLetter d c) = false :=
    fun symbol c hc => token_head_of_isLiteralChar p symbol (chars c hc)
  constructor
  · rcases Number.opening_of_isLiteral literal trimmed with rfl | ⟨c, u, rfl, opens⟩
    · cases p <;> decide
    · -- Behind the first character there is no white space any more.
      have first := token_head_of_opensDecimal p opens (chars c List.mem_cons_self)
      have rest : p.cutFrom? (some c) u = none :=
        Operator.cutFrom?_eq_none_of_solid (fun d hd => solid d (List.mem_cons_of_mem _ hd))
          (solid c List.mem_cons_self)
          fun symbol d hd => symbols symbol d (List.mem_cons_of_mem _ hd)
      rw [Operator.cutFrom?_cons, Operator.afterToken?_eq_none_of_head first, rest]
      rfl
  · have quote : (p.token.head?.any fun d => Text.sameLetter d '\'') = false := by
      cases p <;> decide
    refine Operator.cutFrom?_eq_none_of_solid ?_ rfl ?_
    · intro c hc
      simp only [List.cons_append, List.mem_cons, List.mem_append, List.not_mem_nil,
        or_false] at hc
      rcases hc with rfl | hc | rfl
      · decide
      · exact solid c hc
      · decide
    · intro symbol c hc
      simp only [List.cons_append, List.mem_cons, List.mem_append, List.not_mem_nil,
        or_false] at hc
      rcases hc with rfl | hc | rfl
      · exact quote
      · exact symbols symbol c hc
      · exact quote

theorem cutFrom?_quoted_eq_none_iff {last : Option Char} {v : Text} :
    p.cutFrom? last (' ' :: '\'' :: v ++ ['\'']) = none ↔
      p.cut? ('\'' :: v ++ ['\'']) = none := by
  rw [Operator.cut?, List.cons_append, List.cons_append, Operator.cutFrom?_blank,
    Operator.cutFrom?_quote, Operator.cutFrom?_quote p none]
  simp

theorem cutFrom?_tail_eq_none_iff {last : Option Char} :
    p.cutFrom? last d.tail = none ↔
      (d.operator.takesOperand = true → p.cut? ('\'' :: d.value ++ ['\'']) = none) := by
  rcases d.tail_cases with ⟨takes, e⟩ | ⟨takes, literal, trimmed, e⟩ | ⟨takes, e⟩
  · have nothing : p.cutFrom? last [] = none := rfl
    simp [e, takes, nothing]
  · obtain ⟨plain, quoted⟩ := cutFrom?_literal literal trimmed p
    rw [e, Operator.cutFrom?_blank, plain, quoted]
    simp
  · rw [e, cutFrom?_quoted_eq_none_iff]
    simp [takes]

section written

variable {column tail : Text} {op : Operator}

/-- The places of an operator in a column, the token of an operator and what follows it are those in
the column, in the token and behind it. -/
theorem cut?_written (ends : tail = [] ∨ ∃ o, tail = ' ' :: o)
    (unnegated : op.takesNot = true → Text.closesWith Operator.notWord column = false) :
    p.cut? (column ++ ' ' :: op.token ++ tail) =
      ((p.cut? column).map fun (front, rest) => (front, rest ++ ' ' :: op.token ++ tail)).or
      (((p.cutFrom? (some ' ') op.token).map fun (front, rest) =>
        (column ++ ' ' :: front, rest ++ tail)).or
      ((p.cutFrom? op.token.getLast? tail).map fun (front, rest) =>
        (column ++ ' ' :: op.token ++ front, rest))) := by
  have last : (column ++ ' ' :: op.token).getLast? = op.token.getLast? := by
    rw [List.getLast?_append_of_ne_nil _ (List.cons_ne_nil _ _), ← List.singleton_append,
      List.getLast?_append_of_ne_nil _ op.token_ne_nil]
  have split : p.cut? (column ++ ' ' :: op.token ++ tail) =
      ((p.cut? (column ++ ' ' :: op.token)).map fun (front, rest) => (front, rest ++ tail)).or
      ((p.cutFrom? op.token.getLast? tail).map fun (front, rest) =>
        (column ++ ' ' :: op.token ++ front, rest)) := by
    rcases ends with rfl | ⟨o, rfl⟩
    · have nothing : p.cutFrom? op.token.getLast? [] = none := rfl
      rw [List.append_nil, nothing]
      generalize p.cut? (column ++ ' ' :: op.token) = cut
      cases cut <;> simp
    · rw [Operator.cut?, Operator.cutFrom?_append_blank last, last, Option.or_none]
      rfl
  rw [split, Operator.cut?_append_token unnegated]
  cases p.cut? column with
  | some cut => simp
  | none => cases p.cutFrom? (some ' ') op.token <;> simp

theorem cut?_written_self (ends : tail = [] ∨ ∃ o, tail = ' ' :: o)
    (own : op.cut? column = none)
    (unnegated : op.takesNot = true → Text.closesWith Operator.notWord column = false) :
    op.cut? (column ++ ' ' :: op.token ++ tail) = some (column ++ [' '], tail) := by
  rw [cut?_written ends unnegated, own, Operator.cutFrom?_token_self]
  rfl

/-- An operator that is looked for before is passed over if it is in the column and does not count
behind the token. -/
theorem passes_written_iff (ends : tail = [] ∨ ∃ o, tail = ' ' :: o)
    (unnegated : op.takesNot = true → Text.closesWith Operator.notWord column = false)
    (hp : p ∈ op.before) :
    p.Passes (column ++ ' ' :: op.token ++ tail) ↔ p.Passes column ∧
      (p.cut? column = none → p.cutFrom? op.token.getLast? tail = none) := by
  have places := cut?_written (p := p) ends unnegated
  rw [Operator.cutFrom?_token_of_mem_before hp, Option.map_none, Option.none_or] at places
  cases inside : p.cut? column with
  | some cut =>
      obtain ⟨front, rest⟩ := cut
      rw [inside, Option.map_some, Option.some_or] at places
      rw [Operator.passes_iff_of_some places, Operator.passes_iff_of_some inside]
      simp
  | none =>
      rw [inside, Option.map_none, Option.none_or] at places
      cases found : p.cutFrom? op.token.getLast? tail with
      | none =>
          rw [found, Option.map_none] at places
          exact iff_of_true (Operator.passes_of_none places)
            ⟨Operator.passes_of_none inside, fun _ => rfl⟩
      | some cut =>
          obtain ⟨front, rest⟩ := cut
          rw [found, Option.map_some] at places
          rw [Operator.passes_iff_of_some places]
          simp

end written

theorem cut?_fragment_self (own : d.operator.cut? d.column = none)
    (unnegated : d.operator.takesNot = true →
      Text.closesWith Operator.notWord d.column = false) :
    d.operator.cut? d.fragment = some (d.column ++ [' '], d.tail) :=
  cut?_written_self d.tail_eq_nil_or own unnegated

/-- An operator that is looked for before is passed over if it is in the column and does not count
in the value. -/
theorem passes_fragment_iff (unnegated : d.operator.takesNot = true →
      Text.closesWith Operator.notWord d.column = false) (hp : p ∈ d.operator.before) :
    p.Passes d.fragment ↔ p.Passes d.column ∧ (d.operator.takesOperand = true →
      p.cut? d.column = none → p.cut? ('\'' :: d.value ++ ['\'']) = none) := by
  rw [fragment_eq, passes_written_iff d.tail_eq_nil_or unnegated hp, cutFrom?_tail_eq_none_iff]
  exact and_congr_right fun _ => ⟨fun h takes nowhere => h nowhere takes,
    fun h nowhere takes => h takes nowhere⟩

/-! ### Accepted drafts -/

theorem head_tail (d : Draft) : d.tail.head?.any Operator.isWordChar = false := by
  rcases d.tail_eq_nil_or with e | ⟨o, e⟩ <;> rw [e] <;> rfl

/-- A column that ends in `NOT` makes the token of an operator the token of another one. -/
theorem closesWith_eq_false_of_passes (passes : ∀ p ∈ d.operator.before, p.Passes d.fragment)
    (negates : d.operator.takesNot = true) :
    Text.closesWith Operator.notWord d.column = false := by
  by_contra closes
  rw [Bool.not_eq_false] at closes
  obtain ⟨s, x, word, white, same, column⟩ := Text.closesWith_iff.mp closes
  obtain ⟨p, hp, keyword, token⟩ := Operator.exists_of_takesNot negates
  have together : Text.sameLetters p.token (word ++ ' ' :: d.operator.token) = true := by
    rw [Text.sameLetters_iff, token, List.map_append, List.map_append,
      Text.sameLetters_iff.mp same]
  have counts : p.afterToken? ((s ++ [x]).getLast?.or none)
      (word ++ ' ' :: d.operator.token ++ d.tail) = some d.tail := by
    refine Operator.afterToken?_eq_some_iff.mpr ⟨⟨_, together, rfl⟩, fun _ => ⟨?_, d.head_tail⟩⟩
    rw [List.getLast?_concat, Option.some_or, Option.any_some, white]
  obtain ⟨front, rest, e, -⟩ := Operator.exists_cutFrom? counts
  have whole : d.fragment = (s ++ [x]) ++ (word ++ ' ' :: d.operator.token ++ d.tail) := by
    rw [fragment_eq, column]
    simp
  have nowhere := Operator.cut?_eq_none_of_passes keyword (passes p hp)
  rw [Operator.cut?, whole, e] at nowhere
  cases nowhere

theorem frontSolid_fragment (h : Text.frontSolid d.column = true) :
    Text.frontSolid d.fragment = true := by
  rw [fragment, List.append_assoc]
  exact Text.frontSolid_append h _

theorem trim_fragment (h : Text.frontSolid d.column = true) :
    Text.trim d.fragment = d.fragment :=
  (Text.trim_eq_self_iff (Text.ne_nil_of_backSolid d.backSolid_fragment)).mpr
    ⟨frontSolid_fragment h, d.backSolid_fragment⟩

theorem Expressible.of_refusal? (h : d.refusal? = none) : d.Expressible := by
  have read := parse?_fragment h
  obtain ⟨ne, trimmed, own, -⟩ := Condition.column_of_parse? read
  have passes := (Condition.parse?_eq_some_iff.mp read).2
  rw [trim_fragment (frontSolid_column h)] at passes
  change ∀ p ∈ d.operator.before, _ at passes
  have unnegated := closesWith_eq_false_of_passes passes
  have parts := fun p hp => (passes_fragment_iff unnegated hp).mp (passes p hp)
  obtain ⟨uncut, uncut'⟩ := d.uncut_fragment.mp (Clause.uncut_of_parse (parse_fragment h)).1
  exact ⟨ne, trimmed, uncut, uncut', own, unnegated, fun p hp => (parts p hp).1,
    fun takes p hp nowhere => (parts p hp).2 takes nowhere⟩

theorem Expressible.refusal?_eq_none (h : d.Expressible) : d.refusal? = none := by
  obtain ⟨front, back⟩ := (Text.trim_eq_self_iff h.column_ne_nil).mp h.column_trim
  rw [refusal?_eq_none_iff]
  constructor
  · by_contra blank
    rw [Bool.not_eq_false] at blank
    rw [Text.backSolid_of_isBlank blank] at back
    cases back
  · have uncut := d.uncut_fragment.mpr ⟨h.column_uncut, h.value_uncut⟩
    have read : Condition.parse? d.fragment = some d.condition := by
      rw [Condition.parse?_eq_some_iff, trim_fragment front]
      refine ⟨⟨d.column ++ [' '], d.tail, cut?_fragment_self h.own h.unnegated, by simp, ?_, ?_⟩,
        fun p hp => (passes_fragment_iff h.unnegated hp).mpr
          ⟨h.earlier p hp, fun takes nowhere => h.value_free takes p hp nowhere⟩⟩
      · exact (Text.trim_append_blank front back (by decide)).symm
      · exact d.unquote_tail.symm
    rw [readsBack, Clause.parse_of_uncut uncut, read]
    simp

/-- **Accepted drafts.**  A draft is kept exactly if its parts meet the conditions of
`Expressible`. -/
theorem refusal?_eq_none_iff_expressible : d.refusal? = none ↔ d.Expressible :=
  ⟨Expressible.of_refusal?, Expressible.refusal?_eq_none⟩

/-! ### Drafts beside an accepted one -/

theorem uncut_nil : Clause.Uncut [] := by
  intro l
  cases l <;> decide

theorem cut?_no_value (p : Operator) : p.cut? ('\'' :: [] ++ ['\'']) = none := by
  cases p <;> decide

theorem Expressible.withoutValue (h : d.Expressible) : { d with value := [] }.Expressible where
  column_ne_nil := h.column_ne_nil
  column_trim := h.column_trim
  column_uncut := h.column_uncut
  value_uncut := fun _ => uncut_nil
  own := h.own
  unnegated := h.unnegated
  earlier := h.earlier
  value_free := fun _ p _ _ => cut?_no_value p

/-- A column that goes with one operator goes with `STARTS WITH`, which is looked for first. -/
theorem Expressible.withStartsWith (h : d.Expressible) :
    { d with operator := .startsWith, value := [] }.Expressible where
  column_ne_nil := h.column_ne_nil
  column_trim := h.column_trim
  column_uncut := h.column_uncut
  value_uncut := fun _ => uncut_nil
  own := by
    by_cases same : d.operator = .startsWith
    · exact same ▸ h.own
    · exact Operator.cut?_eq_none_of_passes (p := .startsWith) rfl
        (h.earlier .startsWith (Operator.startsWith_mem_before same))
  unnegated := fun negates => by cases negates
  earlier := fun p hp => by cases hp
  value_free := fun _ p _ _ => cut?_no_value p

theorem refusal?_withoutValue (h : d.refusal? = none) :
    { d with value := [] }.refusal? = none :=
  refusal?_eq_none_iff_expressible.mpr (refusal?_eq_none_iff_expressible.mp h).withoutValue

theorem refusal?_withStartsWith (h : d.refusal? = none) :
    { d with operator := .startsWith, value := [] }.refusal? = none :=
  refusal?_eq_none_iff_expressible.mpr (refusal?_eq_none_iff_expressible.mp h).withStartsWith

/-! ### Drafts from clause texts -/

/-- An operator that is passed over in a text does not count in it at all if the column at its front
has no symbol in it. -/
theorem cut?_eq_none_of_plain {p : Operator} {t column u : Text} (passes : p.Passes t)
    (ne : column ≠ []) (whole : t = column ++ u)
    (plain : ∀ x ∈ Operator.symbolChars, x ∉ column) : p.cut? t = none := by
  rw [Option.eq_none_iff_forall_ne_some]
  rintro ⟨front, rest⟩ cut
  have first := passes front rest cut
  have symbol : p.isKeyword = false := by
    by_contra keyword
    rw [Bool.not_eq_false] at keyword
    exact Operator.front_ne_nil_of_isKeyword keyword cut first
  obtain ⟨v, e, counts⟩ := Operator.exists_of_cutFrom? cut
  obtain ⟨x, v, rfl, mem⟩ := Operator.exists_of_symbol symbol counts
  obtain ⟨y, column, rfl⟩ := List.exists_cons_of_ne_nil ne
  rw [whole, first, List.nil_append, List.cons_append, List.cons.injEq] at e
  exact plain x mem (e.1 ▸ List.mem_cons_self)

/-- **Drafts from clause texts.**  A condition that a text says alone can be kept as a draft if its
column has no symbol in it and does not end in `AND`, `OR` or `NOT` behind white space; and the
draft is read as the same condition. -/
theorem refusal?_of_parse {t : Text} {c : Condition} (h : Clause.parse t = [.all (some c)])
    (operand : c.operator.takesOperand = false → c.operand = [])
    (plain : ∀ x ∈ Operator.symbolChars, x ∉ c.column)
    (unjoined : ∀ l : Logic, Text.closesWith l.token c.column = false)
    (unnegated : Text.closesWith Operator.notWord c.column = false) (id : Nat) (logic : Logic) :
    let d : Draft := ⟨id, c.column, c.operator, c.operand, logic⟩
    d.refusal? = none ∧ Clause.parse d.fragment = [.all (some c)] := by
  intro d
  obtain ⟨uncut, read⟩ := Clause.uncut_of_parse h
  obtain ⟨ne, trimmed, own, u, whole, behind⟩ := Condition.column_of_parse? read
  obtain ⟨a, b, around, ends⟩ := Condition.operand_of_parse? read
  have passes := (Condition.parse?_eq_some_iff.mp read).2
  have nowhere : ∀ p ∈ c.operator.before, p.cut? (Text.trim t) = none :=
    fun p hp => cut?_eq_none_of_plain (passes p hp) ne whole plain
  have column_part : c.column <:+: t :=
    List.IsInfix.trans ⟨[], u, by rw [whole]; rfl⟩ (Text.trim_infix t)
  have operand_part : c.operand <:+: t :=
    List.IsInfix.trans ⟨a, b, around.symm⟩ (Text.trim_infix t)
  have free := Clause.uncut_iff.mp uncut
  have expressible : d.Expressible := by
    refine ⟨ne, trimmed, ?_, fun _ => Clause.Uncut.mono uncut operand_part, own,
      fun _ => unnegated, fun p hp => ?_, fun _ p hp _ => ?_⟩
    · refine Clause.uncut_iff.mpr fun l occurs => ?_
      rcases (Clause.occurs_concat isWhiteSpace_space).mp occurs with inside | closes
      · exact free l (inside.mono column_part)
      · change Text.closesWith l.token c.column = true at closes
        rw [unjoined l] at closes
        cases closes
    · refine Operator.passes_of_none ?_
      rw [Option.eq_none_iff_forall_ne_some]
      rintro ⟨f, r⟩ inside
      obtain ⟨f', r', e, -, -⟩ := Operator.exists_cutFrom?_append inside behind
      change p.cut? (c.column ++ u) = _ at e
      rw [← whole, nowhere p hp] at e
      cases e
    · refine Operator.cut?_quoted_eq_none (a := a) (b := b) ?_ ends
      change p.cut? (a ++ c.operand ++ b) = none
      rw [← around, nowhere p hp]
  have kept := refusal?_eq_none_iff_expressible.mpr expressible
  have value : (if c.operator.takesOperand then c.operand else []) = c.operand := by
    cases takes : c.operator.takesOperand with
    | true => rfl
    | false => exact (operand takes).symm
  have same : d.condition = c := by
    change Condition.mk c.column c.operator _ = c
    rw [value]
  exact ⟨kept, by rw [parse_fragment kept, same]⟩

/-- A condition with a symbol that no blank sets off, a keyword in small letters among its words and
a number between double quotation marks. -/
theorem refusal?_of_parse_no_blanks :
    let t := " not in stock>=\t\"-Infinity\"\n".toList
    let c : Condition := ⟨"not in stock".toList, .ge, "-Infinity".toList⟩
    (Clause.parse t = [.all (some c)] ∧ (c.operator.takesOperand = false → c.operand = []) ∧
      (∀ x ∈ Operator.symbolChars, x ∉ c.column) ∧
      (∀ l : Logic, Text.closesWith l.token c.column = false) ∧
      Text.closesWith Operator.notWord c.column = false) ∧
    let d : Draft := ⟨7, c.column, c.operator, c.operand, .or⟩
    d.fragment = "not in stock >= -Infinity".toList ∧ d.refusal? = none ∧
      Clause.parse d.fragment = [.all (some c)] := by
  intro t c
  have h : Clause.parse t = [.all (some c)] := by decide
  have operand : c.operator.takesOperand = false → c.operand = [] := by decide
  have plain : ∀ x ∈ Operator.symbolChars, x ∉ c.column := by
    rintro x (_ | ⟨_, _ | ⟨_, _ | ⟨_, _ | ⟨_, ⟨⟩⟩⟩⟩⟩) <;> decide
  have unjoined : ∀ l : Logic, Text.closesWith l.token c.column = false := by
    rintro (_ | _) <;> decide
  have unnegated : Text.closesWith Operator.notWord c.column = false := by decide
  exact ⟨⟨h, operand, plain, unjoined, unnegated⟩, by decide,
    refusal?_of_parse h operand plain unjoined unnegated 7 .or⟩

end Draft

end Tabular
