import Tabular.Proofs.Clause.Composition

/-! # White space around a body

What a body says depends on its fragments alone, the trimmed pieces that are left when it is cut at
`AND` and every part at `OR` (`parse_eq_fragments`).  White space that is put around a body mostly
goes into its first and its last fragment, and trimming takes it away again.  But it can also make a
separator of a keyword at the edge of the body, and then an empty fragment stands there; this is all
that can happen (`fragments_trim_cases`), and it happens exactly if the first or the last fragment
is empty (`fragments_trim_eq_iff`).  Without white space around it a keyword at the edge stays in its
fragment (`cutAtKeyword_word_append`). -/

namespace Tabular

open Unicode

theorem Condition.parse?_trim (t : Text) : parse? (Text.trim t) = parse? t := by
  rw [parse?, parse?, Text.trim_trim]

namespace Clause

/-! ### Stretches at the edges -/

theorem cutStretches_cons_cases (keyword s : Text) (xs : List Text) :
    cutStretches keyword (s :: xs) = putFront s (cutStretches keyword xs) ∨
      ∃ word s' rest, xs = word :: s' :: rest ∧ Text.sameLetters keyword word = true ∧
        cutStretches keyword (s :: xs) = [] :: cutStretches keyword rest := by
  match xs with
  | [] => exact .inl rfl
  | [word] => exact .inl rfl
  | word :: s' :: rest =>
      by_cases h : (Text.isBlank s && Text.sameLetters keyword word) = true
      · refine .inr ⟨word, s', rest, rfl, (Bool.and_eq_true_iff.mp h).2, ?_⟩
        rw [cutStretches, if_pos h]
      · refine .inl ?_
        rw [cutStretches, if_neg h]

theorem cutStretches_concat_cases (keyword : Text) (xs : List Text) (v : Text) :
    cutStretches keyword (xs ++ [v]) = glue (cutStretches keyword xs) [[v]] ∨
      ∃ front s word parts, xs = front ++ [s, word] ∧ Text.isBlank s = true ∧
        Text.sameLetters keyword word = true ∧ cutStretches keyword (xs ++ [v]) = parts ++ [[]] := by
  fun_induction cutStretches keyword xs with
  | case1 => exact .inl rfl
  | case2 s word s' rest h ih =>
      have cut : cutStretches keyword (s :: word :: s' :: rest ++ [v]) =
          [] :: cutStretches keyword (rest ++ [v]) := by
        rw [List.cons_append, List.cons_append, List.cons_append, cutStretches, if_pos h]
      rw [cut]
      rcases ih with e | ⟨front, t, w, parts, rfl, ht, hw, e⟩
      · exact .inl (by rw [e, glue_cons _ (cutStretches_ne_nil _ _)])
      · exact .inr ⟨s :: word :: s' :: front, t, w, [] :: parts, rfl, ht, hw, by rw [e]; rfl⟩
  | case3 s word s' rest h ih =>
      have cut : cutStretches keyword (s :: word :: s' :: rest ++ [v]) =
          putFront s (cutStretches keyword (word :: s' :: rest ++ [v])) := by
        rw [List.cons_append, List.cons_append, List.cons_append, cutStretches, if_neg h]
      rw [cut]
      rcases ih with e | ⟨front, t, w, parts, e', ht, hw, e⟩
      · exact .inl (by rw [e, putFront_glue _ (cutStretches_ne_nil _ _)])
      · refine .inr ⟨s :: front, t, w, putFront s parts, by rw [e']; rfl, ht, hw, ?_⟩
        cases parts with
        | nil =>
            -- There would be one part, and it would be empty.
            cases eq_of_cutStretches e
        | cons p parts =>
            rw [e]
            rfl
  | case4 s rest h ih =>
      cases rest with
      | nil => exact .inl rfl
      | cons word rest =>
          cases rest with
          | cons s' rest => exact absurd rfl (h word s' rest)
          | nil =>
              by_cases closes : (Text.isBlank s && Text.sameLetters keyword word) = true
              · obtain ⟨hs, hw⟩ := Bool.and_eq_true_iff.mp closes
                refine .inr ⟨[], s, word, [[]], rfl, hs, hw, ?_⟩
                rw [List.cons_append, List.cons_append, List.nil_append, cutStretches,
                  if_pos closes]
                rfl
              · refine .inl ?_
                rw [List.cons_append, List.cons_append, List.nil_append, cutStretches,
                  if_neg closes]
                rfl

/-! ### Words at the edges -/

section words

variable {word : Text}

/-- A word at the front of a text stands in the first part. -/
theorem cutAtKeyword_word_append (keyword : Text) (ne : word ≠ [])
    (solid : ∀ c ∈ word, isWhiteSpace c = false) (u : Text) :
    ∃ p ps, cutAtKeyword keyword (word ++ u) = (word ++ p) :: ps := by
  obtain ⟨v, u', full, stretches⟩ := Text.exists_stretches_word_append ne solid u
  obtain ⟨q, qs, cut⟩ :=
    List.exists_cons_of_ne_nil (cutStretches_ne_nil keyword (Text.stretches u'))
  refine ⟨v ++ q.flatten, qs.map List.flatten, ?_⟩
  rw [cutAtKeyword, stretches, cutStretches_cons, cut, putFront, List.map_cons, List.flatten_cons,
    List.append_assoc]
  intro _ _ _ _ blank
  rw [full] at blank
  cases blank

theorem cutAtKeyword_append_word (l : Logic) (ne : word ≠ [])
    (solid : ∀ c ∈ word, isWhiteSpace c = false) (u : Text) :
    ∃ ps p, cutAtKeyword l.token (u ++ word) = ps ++ [p ++ word] := by
  obtain ⟨u', v, white, stretches⟩ := Text.exists_stretches_append_word ne solid u
  rcases cutStretches_concat_cases l.token (Text.stretches u') (v ++ word) with
    cut | ⟨front, s, word', parts, ends, -, same, -⟩
  · obtain ⟨ps, p, e⟩ := (List.eq_nil_or_concat' _).resolve_left
      (cutStretches_ne_nil l.token (Text.stretches u'))
    refine ⟨ps.map List.flatten, p.flatten ++ v, ?_⟩
    rw [cutAtKeyword, stretches, cut, e, glue_concat, List.map_append, List.map_singleton,
      List.flatten_append, List.flatten_singleton, List.append_assoc]
  · -- A keyword before the word would end in white space.
    have ne' : word' ≠ [] := Text.ne_nil_of_sameLetters same l.token_ne_nil
    have last : u'.getLast? = word'.getLast? := by
      rw [← Text.flatten_stretches u', ends, List.flatten_append, List.flatten_cons,
        List.flatten_singleton, ← List.append_assoc, List.getLast?_append_of_ne_nil _ ne']
    have back := white _ (last ▸ List.getLast_mem_getLast? ne')
    rw [Text.isWhiteSpace_of_sameLetters same l.token_solid _ (List.getLast_mem ne')] at back
    cases back

end words

/-! ### Fragments -/

/-- The fragments of a text, those of a group in a list. -/
def fragments (t : Text) : List (List Text) :=
  (cutAtKeyword Logic.and.token t).map fun part =>
    (cutAtKeyword Logic.or.token part).map Text.trim

/-- The fragments of some stretches. -/
def fragmentsOf (xs : List Text) : List (List Text) :=
  (cutStretches Logic.and.token xs).map fun p =>
    (cutStretches Logic.or.token p).map fun q => Text.trim q.flatten

/-- What a body says depends on its fragments alone. -/
theorem parse_eq_fragments (t : Text) :
    parse t = (fragments t).map fun members => .ofMembers (members.map Condition.parse?) := by
  rw [parse, fragments, List.map_map]
  refine List.map_congr_left fun part _ => ?_
  rw [parseGroup_eq, Function.comp_apply, List.map_map]
  exact congrArg _ (List.map_congr_left fun piece _ => (Condition.parse?_trim piece).symm)

theorem fragments_eq (t : Text) : fragments t = fragmentsOf (Text.stretches t) := by
  rw [fragments, cutAtKeyword, fragmentsOf, List.map_map]
  refine List.map_congr_left fun p mem => ?_
  have whole := Text.stretches_flatten_of_isInfix (isInfix_of_mem_cutStretches mem)
  rw [Function.comp_apply, cutAtKeyword, whole, List.map_map]
  rfl

theorem fragments_of_isBlank {t : Text} (h : Text.isBlank t = true) : fragments t = [[[]]] := by
  by_cases ne : t = []
  · rw [ne]
    rfl
  · have uniform : Text.stretches t = [t] := Text.stretches_of_uniform ne (List.all_eq_true.mp h)
    have one : fragmentsOf [t] = [[Text.trim [t].flatten]] := rfl
    rw [fragments_eq, uniform, one, List.flatten_singleton, Text.trim_eq_nil_iff.mpr h]

theorem head?_fragments {t : Text} (h : Text.frontSolid t = true) :
    (fragments t).flatten.head? ≠ some [] := by
  obtain ⟨c, u, rfl⟩ : ∃ c u, t = c :: u := by
    cases t with
    | nil => cases h
    | cons c u => exact ⟨c, u, rfl⟩
  have solid : ∀ d ∈ [c], isWhiteSpace d = false := by simpa using h
  obtain ⟨p, ps, first⟩ := cutAtKeyword_word_append Logic.and.token (by simp) solid u
  obtain ⟨q, qs, second⟩ := cutAtKeyword_word_append Logic.or.token (by simp) solid p
  have front : Text.frontSolid ([c] ++ q) = true := h
  rw [List.singleton_append] at first
  rw [fragments, first, List.map_cons, second, List.map_cons, List.flatten_cons, List.cons_append,
    List.head?_cons, Ne, Option.some.injEq]
  exact Text.trim_ne_nil front

theorem getLast?_fragments {t : Text} (h : Text.backSolid t = true) :
    (fragments t).flatten.getLast? ≠ some [] := by
  obtain ⟨u, c, rfl⟩ := (List.eq_nil_or_concat' t).resolve_left (Text.ne_nil_of_backSolid h)
  have solid : ∀ d ∈ [c], isWhiteSpace d = false := by simpa using h
  obtain ⟨ps, p, first⟩ := cutAtKeyword_append_word .and (by simp) solid u
  obtain ⟨qs, q, second⟩ := cutAtKeyword_append_word .or (by simp) solid p
  have back : Text.backSolid (q ++ [c]) = true := by
    rw [Text.backSolid_concat, solid c List.mem_cons_self]
    rfl
  rw [fragments, first, List.map_append, List.map_singleton, second, List.map_append,
    List.map_singleton, List.flatten_append, List.flatten_singleton, ← List.append_assoc,
    List.getLast?_concat, Ne, Option.some.injEq, Text.trim_eq_nil_iff]
  intro blank
  rw [Text.backSolid_of_isBlank blank] at back
  cases back

/-! ### Padding -/

/-- White space in front goes into the first fragment, or it opens a separator and the first
fragment is empty. -/
theorem fragmentsOf_cons_cases {w : Text} (blank : Text.isBlank w = true) (xs : List Text) :
    fragmentsOf (w :: xs) = fragmentsOf xs ∨
      (∃ l : Logic, ∃ word s' rest, xs = word :: s' :: rest ∧
        Text.sameLetters l.token word = true) ∧
      (fragmentsOf (w :: xs)).flatten.head? = some [] := by
  rcases cutStretches_cons_cases Logic.and.token w xs with
    cut | ⟨word, s', rest, rfl, same, cut⟩
  · obtain ⟨p, ps, first⟩ := List.exists_cons_of_ne_nil (cutStretches_ne_nil Logic.and.token xs)
    rw [first, putFront] at cut
    rcases cutStretches_cons_cases Logic.or.token w p with
      cut' | ⟨word, s', rest, rfl, same, cut'⟩
    · obtain ⟨q, qs, second⟩ := List.exists_cons_of_ne_nil (cutStretches_ne_nil Logic.or.token p)
      have trimmed : Text.trim (w :: q).flatten = Text.trim q.flatten := by
        simpa using Text.trim_pad blank (show Text.isBlank [] = true from rfl) q.flatten
      rw [second, putFront] at cut'
      refine .inl ?_
      rw [fragmentsOf, fragmentsOf, cut, first, List.map_cons, List.map_cons, cut', second,
        List.map_cons, List.map_cons, trimmed]
    · obtain ⟨more, rfl⟩ := isPrefix_of_cutStretches first
      refine .inr ⟨⟨.or, word, s', rest ++ more, rfl, same⟩, ?_⟩
      rw [fragmentsOf, cut, List.map_cons, cut']
      rfl
  · refine .inr ⟨⟨.and, word, s', rest, rfl, same⟩, ?_⟩
    rw [fragmentsOf, cut]
    rfl

/-- White space behind goes into the last fragment, or it ends a separator and the last fragment
is empty. -/
theorem fragmentsOf_concat_cases {w : Text} (blank : Text.isBlank w = true) (xs : List Text) :
    fragmentsOf (xs ++ [w]) = fragmentsOf xs ∨
      (∃ l : Logic, ∃ front s word, xs = front ++ [s, word] ∧ Text.isBlank s = true ∧
        Text.sameLetters l.token word = true) ∧
      (fragmentsOf (xs ++ [w])).flatten.getLast? = some [] := by
  rcases cutStretches_concat_cases Logic.and.token xs w with
    cut | ⟨front, s, word, parts, e, hs, same, cut⟩
  · obtain ⟨ps, p, last⟩ := (List.eq_nil_or_concat' _).resolve_left
      (cutStretches_ne_nil Logic.and.token xs)
    rw [last, glue_concat] at cut
    rcases cutStretches_concat_cases Logic.or.token p w with
      cut' | ⟨front, s, word, parts, rfl, hs, same, cut'⟩
    · obtain ⟨qs, q, last'⟩ := (List.eq_nil_or_concat' _).resolve_left
        (cutStretches_ne_nil Logic.or.token p)
      have trimmed : Text.trim (q ++ [w]).flatten = Text.trim q.flatten := by
        simpa using Text.trim_pad (show Text.isBlank [] = true from rfl) blank q.flatten
      rw [last', glue_concat] at cut'
      refine .inl ?_
      rw [fragmentsOf, fragmentsOf, cut, last, List.map_append, List.map_append,
        List.map_singleton, List.map_singleton, cut', last', List.map_append, List.map_append,
        List.map_singleton, List.map_singleton, trimmed]
    · obtain ⟨more, rfl⟩ := isSuffix_of_cutStretches last
      refine .inr ⟨⟨.or, more ++ front, s, word, by rw [List.append_assoc], hs, same⟩, ?_⟩
      rw [fragmentsOf, cut, List.map_append, List.map_singleton, cut', List.flatten_append,
        List.map_append]
      simp
  · refine .inr ⟨⟨.and, front, s, word, e, hs, same⟩, ?_⟩
    rw [fragmentsOf, cut, List.map_append, List.flatten_append]
    simp [cutStretches]

/-- Whether a text begins with white space, a keyword and white space. -/
def beginsWithSeparator (t : Text) : Bool :=
  !Text.frontSolid t && [Logic.and, .or].any fun l => Text.opensWith l.token (Text.trimStart t)

/-- Whether a text ends with white space, a keyword and white space. -/
def endsWithSeparator (t : Text) : Bool :=
  !Text.backSolid t && [Logic.and, .or].any fun l => Text.closesWith l.token (Text.trimEnd t)

theorem beginsWithSeparator_iff {t : Text} :
    beginsWithSeparator t = true ↔
      Text.frontSolid t = false ∧ ∃ l : Logic, Text.opensWith l.token (Text.trimStart t) = true := by
  rw [beginsWithSeparator, Bool.and_eq_true, Bool.not_eq_true', List.any_eq_true]
  refine and_congr_right fun _ => exists_congr fun l => and_iff_right ?_
  cases l <;> simp

theorem endsWithSeparator_iff {t : Text} :
    endsWithSeparator t = true ↔
      Text.backSolid t = false ∧ ∃ l : Logic, Text.closesWith l.token (Text.trimEnd t) = true := by
  rw [endsWithSeparator, Bool.and_eq_true, Bool.not_eq_true', List.any_eq_true]
  refine and_congr_right fun _ => exists_congr fun l => and_iff_right ?_
  cases l <;> simp

theorem beginsWithSeparator_append {t : Text} (h : beginsWithSeparator t = true) (u : Text) :
    beginsWithSeparator (t ++ u) = true := by
  obtain ⟨front, l, opens⟩ := beginsWithSeparator_iff.mp h
  obtain ⟨word, c, rest, same, white, e⟩ := Text.opensWith_iff.mp opens
  have start : Text.trimStart (t ++ u) = Text.trimStart t ++ u :=
    Text.trimStart_append (by simp [e]) u
  refine beginsWithSeparator_iff.mpr ⟨?_, l, ?_⟩
  · cases t with
    | nil => simp [Text.trimStart] at e
    | cons d t => exact front
  · rw [start, e, Text.opensWith_iff]
    exact ⟨word, c, rest ++ u, same, white, by simp⟩

theorem fragments_append_front {w t : Text} (blank : Text.isBlank w = true)
    (front : Text.frontSolid t = true) :
    fragments (w ++ t) = fragments t ∨
      beginsWithSeparator (w ++ t) = true ∧ (fragments (w ++ t)).flatten.head? = some [] := by
  by_cases ne : w = []
  · exact .inl (by rw [ne, List.nil_append])
  rw [fragments_eq, fragments_eq, Text.stretches_gap_append ne blank (.inr front)]
  refine (fragmentsOf_cons_cases blank _).imp_right ?_
  rintro ⟨⟨l, word, s', rest, e, same⟩, empty⟩
  refine ⟨beginsWithSeparator_iff.mpr ⟨?_, l, ?_⟩, empty⟩
  · obtain ⟨c, w, rfl⟩ := List.exists_cons_of_ne_nil ne
    rw [List.cons_append, Text.frontSolid_cons, List.all_eq_true.mp blank c List.mem_cons_self]
    rfl
  · rw [Text.trimStart_append_of_isBlank blank, Text.trimStart_of_frontSolid front]
    exact Text.opensWith_of_stretches l.token_solid e same

theorem fragments_append_back {t w : Text} (back : Text.backSolid t = true)
    (blank : Text.isBlank w = true) :
    fragments (t ++ w) = fragments t ∨
      endsWithSeparator (t ++ w) = true ∧ (fragments (t ++ w)).flatten.getLast? = some [] := by
  by_cases ne : w = []
  · exact .inl (by rw [ne, List.append_nil])
  have stretches := Text.stretches_append_gap (.inr back) ne blank []
  rw [List.append_nil, Text.stretches_of_uniform ne (List.all_eq_true.mp blank)] at stretches
  rw [fragments_eq, fragments_eq, stretches]
  refine (fragmentsOf_concat_cases blank _).imp_right ?_
  rintro ⟨⟨l, front, s, word, e, hs, same⟩, empty⟩
  refine ⟨endsWithSeparator_iff.mpr ⟨?_, l, ?_⟩, empty⟩
  · rw [Text.backSolid_append _ ne, Text.backSolid_of_isBlank blank]
  · rw [Text.trimEnd_append_of_isBlank blank, Text.trimEnd_of_backSolid back]
    exact Text.closesWith_of_stretches e hs same

/-- The fragments of a text are those of the trimmed text, unless the text begins with a separator
and the first fragment is empty, or so at its end. -/
theorem fragments_trim_cases (t : Text) :
    fragments t = fragments (Text.trim t) ∨
      (beginsWithSeparator t = true ∧ (fragments t).flatten.head? = some []) ∨
      (endsWithSeparator t = true ∧ (fragments t).flatten.getLast? = some []) := by
  by_cases nil : Text.trim t = []
  · rw [nil, fragments_of_isBlank (Text.trim_eq_nil_iff.mp nil)]
    exact .inl rfl
  obtain ⟨w, w', blank, blank', e⟩ := Text.exists_trim t
  have front := Text.frontSolid_trim nil
  have back : Text.backSolid (w ++ Text.trim t) = true := by
    rw [Text.backSolid_append _ nil, Text.backSolid_trim nil]
  generalize Text.trim t = b at front back e
  subst e
  rcases fragments_append_back back blank' with same | closes
  · rw [same]
    refine (fragments_append_front blank front).imp_right fun ⟨opens, empty⟩ => ?_
    exact .inl ⟨beginsWithSeparator_append opens w', empty⟩
  · exact .inr (.inr closes)

/-- The fragments of a text that is not blank are those of the trimmed text exactly if the first and
the last of them have something in them. -/
theorem fragments_trim_eq_iff {t : Text} :
    fragments t = fragments (Text.trim t) ↔
      Text.isBlank t = true ∨
        (fragments t).flatten.head? ≠ some [] ∧ (fragments t).flatten.getLast? ≠ some [] := by
  constructor
  · intro same
    by_cases nil : Text.trim t = []
    · exact .inl (Text.trim_eq_nil_iff.mp nil)
    · rw [same]
      exact .inr ⟨head?_fragments (Text.frontSolid_trim nil),
        getLast?_fragments (Text.backSolid_trim nil)⟩
  · rintro (blank | ⟨first, last⟩)
    · rw [Text.trim_eq_nil_iff.mpr blank, fragments_of_isBlank blank]
      rfl
    · rcases fragments_trim_cases t with same | ⟨-, empty⟩ | ⟨-, empty⟩
      · exact same
      · exact absurd empty first
      · exact absurd empty last

theorem filter_padded {w w' word gap body : Text} (hw : Text.isBlank w = true)
    (hw' : Text.isBlank w' = true) (same : Text.sameLetters whereToken word = true) (ne : gap ≠ [])
    (blank : Text.isBlank gap = true) (full : Text.isBlank body = false) (rows : List Row) :
    filter rows (w ++ (word ++ (gap ++ body)) ++ w') =
      .ok (rows.filter (holds (parse (Text.trim body)))) := by
  have some_body : Text.trim body ≠ [] := fun nil => by
    rw [Text.trim_eq_nil_iff.mp nil] at full
    cases full
  have front : Text.frontSolid word = true :=
    (Text.frontSolid_of_sameLetters same).symm.trans (by decide)
  obtain ⟨v, v', hv, hv', e⟩ := Text.exists_trim body
  have solid := Text.frontSolid_trim some_body
  have back := Text.backSolid_trim some_body
  generalize Text.trim body = b at some_body solid back e
  subst e
  have trimmed : Text.trim (w ++ (word ++ (gap ++ (v ++ b ++ v'))) ++ w') =
      word ++ ((gap ++ v) ++ b) := by
    have edges : word ++ (gap ++ (v ++ b ++ v')) = [] ++ (word ++ ((gap ++ v) ++ b)) ++ v' := by
      simp
    rw [Text.trim_pad hw hw', edges, Text.trim_pad (by rfl) hv', Text.trim_eq_self_iff (by simp [ne])]
    refine ⟨Text.frontSolid_append front _, ?_⟩
    rw [← List.append_assoc, Text.backSolid_append _ some_body, back]
  have found : body? (word ++ ((gap ++ v) ++ b)) = some b := by
    refine body?_eq_some_iff.mpr ⟨word, gap ++ v, same, by simp [ne], ?_, solid, rfl⟩
    rw [Text.isBlank, List.all_append, Bool.and_eq_true]
    exact ⟨blank, hv⟩
  have not_blank : Text.isBlank (w ++ (word ++ (gap ++ (v ++ b ++ v'))) ++ w') = false := by
    rw [Bool.eq_false_iff, Ne, ← Text.trim_eq_nil_iff, trimmed]
    simp [ne]
  rw [filter, selects, not_blank, trimmed, found]
  rfl

/-- **White space around a body.**  It leaves the clause alone unless the whole text then begins or
ends with a keyword that has white space on both sides.  Of the fragments, on which the clause
depends, this is exact: they stay the same if the body is blank or the first and the last of them
have something in them, and otherwise they do not.  A keyword at the very front or at the very back
is never a separator.  And a filter, which looks for the body in a trimmed text, does not depend on
the white space around the text or the body at all. -/
theorem parse_padded {w w' : Text} (hw : Text.isBlank w = true) (hw' : Text.isBlank w' = true)
    (body : Text) :
    let t := w ++ body ++ w'
    (beginsWithSeparator t = false → endsWithSeparator t = false →
      parse t = parse (Text.trim body)) ∧
    (fragments t = fragments (Text.trim body) ↔
      Text.isBlank body = true ∨
        (fragments t).flatten.head? ≠ some [] ∧ (fragments t).flatten.getLast? ≠ some []) ∧
    (∀ (l m : Logic) (word : Text), Text.sameLetters m.token word = true →
      (∃ p ps, cutAtKeyword l.token (word ++ body ++ w') = (word ++ p) :: ps) ∧
      ∃ ps p, cutAtKeyword l.token (w ++ body ++ word) = ps ++ [p ++ word]) ∧
    ∀ (word gap : Text) (rows : List Row), Text.sameLetters whereToken word = true → gap ≠ [] →
      Text.isBlank gap = true → Text.isBlank body = false →
      filter rows (w ++ (word ++ (gap ++ body)) ++ w') =
        .ok (rows.filter (holds (parse (Text.trim body)))) := by
  intro t
  have trimmed : Text.trim t = Text.trim body := Text.trim_pad hw hw' body
  have blank : Text.isBlank t = true ↔ Text.isBlank body = true := by
    rw [← Text.trim_eq_nil_iff, trimmed, Text.trim_eq_nil_iff]
  refine ⟨fun begins ends => ?_, ?_, fun l m word same => ?_,
    fun word gap rows same ne blank full => filter_padded hw hw' same ne blank full rows⟩
  · rw [← trimmed, parse_eq_fragments, parse_eq_fragments]
    rcases fragments_trim_cases t with same | ⟨begins', -⟩ | ⟨ends', -⟩
    · rw [same]
    · rw [begins] at begins'
      cases begins'
    · rw [ends] at ends'
      cases ends'
  · rw [← trimmed, ← blank]
    exact fragments_trim_eq_iff
  · have ne := Text.ne_nil_of_sameLetters same m.token_ne_nil
    have solid := Text.isWhiteSpace_of_sameLetters same m.token_solid
    rw [List.append_assoc]
    exact ⟨cutAtKeyword_word_append l.token ne solid _, cutAtKeyword_append_word l ne solid _⟩

/-- Words that only look like keywords stand at the edges here. -/
theorem parse_padded_other_words :
    let w := "\t ".toList
    let w' := "\n".toList
    let body := " order = '1' and B = 'or'".toList
    (Text.isBlank w = true ∧ Text.isBlank w' = true) ∧
      parse (w ++ body ++ w') = parse (Text.trim body) ∧
      fragments (w ++ body ++ w') = fragments (Text.trim body) ∧
      (∃ p ps, cutAtKeyword Logic.and.token ("And".toList ++ body ++ w') =
        ("And".toList ++ p) :: ps) ∧
      ∀ rows, filter rows (w ++ ("Where".toList ++ (w' ++ body)) ++ w') =
        .ok (rows.filter (holds (parse (Text.trim body)))) := by
  intro w w' body
  have blank : Text.isBlank w = true ∧ Text.isBlank w' = true := by decide
  obtain ⟨same, fragments, word, filtered⟩ := parse_padded blank.1 blank.2 body
  refine ⟨blank, same (by decide) (by decide), fragments.mpr (.inr (by decide)),
    (word .and .and "And".toList (by decide)).1,
    fun rows => filtered _ _ rows (by decide) (by decide) (by decide) (by decide)⟩

/-- White space in front of a keyword makes a separator of it. -/
theorem parse_padded_keyword :
    Text.isBlank [' '] = true ∧
      parse ([' '] ++ "AND x = 1".toList ++ []) =
        [.all none, .all (some ⟨"x".toList, .eq, "1".toList⟩)] ∧
      parse (Text.trim "AND x = 1".toList) = [.all (some ⟨"AND x".toList, .eq, "1".toList⟩)] := by
  decide

end Clause

end Tabular
