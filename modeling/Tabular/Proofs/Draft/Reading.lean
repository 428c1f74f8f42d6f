import Tabular.Proofs.Draft.Blocks
import Tabular.Proofs.Draft.Fragment

/-! # Reading a list of drafts back

Every fragment of a list reads back, and the keywords between the fragments are read as they are
meant with one exception.  A draft joined by `OR` whose column is `AND`, or begins with `AND` and
white space, makes a seam: its fragment follows white space, so the front of its column is taken
for a keyword.  There the text is cut in front of the column, the keyword `OR` stays behind with the
fragment before it and the column loses its first word.

`reading` is the clause that is read of a list, seams included (`parse_clauseText`).  It is the
clause that the list stands for exactly if there is no seam (`reading_eq_clauseOf_iff`). -/

namespace Tabular

open Unicode

namespace Clause

/-- The text before a seam: a piece with a keyword that stays behind. -/
def withWord (t word : Text) : Text :=
  t ++ ' ' :: word

theorem stretches_withWord {t word : Text} (ht : Text.backSolid t = true) (ne : word ≠ [])
    (solid : ∀ c ∈ word, isWhiteSpace c = false) :
    Text.stretches (withWord t word) = Text.stretches t ++ [[' '], word] := by
  have front := (Text.solid_edges ne solid).1
  rw [withWord, ← List.singleton_append,
    Text.stretches_append_gap (.inr ht) (by simp) (by decide),
    Text.stretches_gap_append (by simp) (by decide) (.inr front),
    Text.stretches_of_uniform ne solid]

theorem Piece.uncut_withWord {t word : Text} (h : Piece t) (ne : word ≠ [])
    (solid : ∀ c ∈ word, isWhiteSpace c = false) (l : Logic) :
    cutAtKeyword l.token (withWord t word) = [withWord t word] := by
  rw [cutAtKeyword_eq_singleton_iff, stretches_withWord h.back ne solid,
    cutStretches_append _ (endsFree_stretches (h.unended l)),
    cutAtKeyword_eq_singleton_iff.mp (h.uncut l)]
  · rfl
  · intro front s more s' rest e _ hs
    rw [isBlank_of_stretches h.back e] at hs
    exact absurd hs (by decide)

theorem Piece.afterOpening? {t rest : Text} {m : Logic} (h : Piece t)
    (e : Text.afterOpening? m.token t = some rest) : Piece rest := by
  obtain ⟨word, w, hw, blank, ne, rfl, front, back⟩ := Text.exists_of_afterOpening? e h.back
  have solid := Text.isWhiteSpace_of_sameLetters hw m.token_solid
  have wordne : word ≠ [] := by
    rintro rfl
    exact m.token_ne_nil (by simpa using Text.sameLetters_iff.mp hw)
  have stretches : Text.stretches (word ++ w ++ rest) = word :: w :: Text.stretches rest := by
    rw [List.append_assoc,
      Text.stretches_append_gap (.inr (Text.solid_edges wordne solid).2) ne blank,
      Text.stretches_gap_append ne blank (.inr front), Text.stretches_of_uniform wordne solid,
      List.singleton_append]
  refine ⟨front, back, fun l => ?_, fun l => ?_⟩
  · have whole := cutAtKeyword_eq_singleton_iff.mp (h.uncut l)
    rw [stretches] at whole
    exact cutAtKeyword_eq_singleton_iff.mpr (cutStretches_tail (cutStretches_tail whole))
  · rw [Bool.eq_false_iff]
    intro hc
    have := h.unended l
    rw [Text.closesWith_append hc] at this
    exact absurd this (by decide)

/-- A piece joined by `OR` to a body goes into the first group of the body. -/
theorem Piece.parse_or {t b : Text} (h : Piece t) (front : Text.frontSolid b = true)
    (hopen : Text.opensWith Logic.and.token b = false) :
    parse (t ++ (Separator.plain .or).text ++ b) = widen (Condition.parse? t) (parse b) := by
  obtain ⟨before, last, first, back, ht, hb, both⟩ :=
    Clause.parse_or (.plain .or) h.back front (h.unended .and) (h.unended .or) hopen
  rw [parse_of_uncut h.uncut] at ht
  change [] ++ [_] = before ++ [last] at ht
  obtain ⟨rfl, e⟩ := List.append_inj' ht rfl
  obtain rfl := List.head_eq_of_cons_eq e
  rw [both, hb]
  rfl

/-- Where `OR` meets a keyword `AND` at the front of the next piece, the text is cut at `AND`. -/
theorem Piece.parse_seam {t u rest : Text} (ht : Piece t) (hu : Piece u)
    (e : Text.afterOpening? Logic.and.token u = some rest) (more : Text) :
    parse (t ++ (Separator.plain .or).text ++ (u ++ more)) =
      .all (Condition.parse? (withWord t Logic.or.token)) :: parse (rest ++ more) := by
  obtain ⟨word, w, hw, blank, ne, e', front, -⟩ := Text.exists_of_afterOpening? e hu.back
  let s : Separator .and := ⟨[' '], word, w, by decide, by decide, hw, ne, blank⟩
  have seam : t ++ (Separator.plain .or).text ++ (u ++ more) =
      withWord t Logic.or.token ++ s.text ++ (rest ++ more) := by
    simp [s, Separator.text, Separator.plain, withWord, e']
  have back : Text.backSolid (withWord t Logic.or.token) = true :=
    Text.backSolid_append _ (by simp)
  have unended : Text.closesWith Logic.and.token (withWord t Logic.or.token) = false := by
    have last : withWord t Logic.or.token = (t ++ " O".toList) ++ ['R'] := by
      simp [withWord, Logic.token]
    rw [last]
    exact closesWith_concat (by decide) _
  rw [seam, parse_and s back (Text.frontSolid_append front _) unended,
    parse_of_uncut (ht.uncut_withWord Logic.or.token_ne_nil Logic.or.token_solid)]
  rfl

end Clause

namespace Draft

/-- Whether the keyword `OR` before a draft meets a keyword `AND` at the front of its column. -/
def opensSeam (d : Draft) : Bool :=
  d.logic = .or &&
    (Text.sameLetters Logic.and.token d.column || Text.opensWith Logic.and.token d.column)

/-- The clause that is read of a text and the drafts that are joined to it. -/
def readAfter (text : Text) : List Draft → Clause
  | [] => [.all (Condition.parse? text)]
  | d :: ds =>
    match d.logic with
    | .and => .all (Condition.parse? text) :: readAfter d.fragment ds
    | .or =>
      match Text.afterOpening? Logic.and.token d.fragment with
      | some rest =>
        .all (Condition.parse? (Clause.withWord text Logic.or.token)) :: readAfter rest ds
      | none => Clause.widen (Condition.parse? text) (readAfter d.fragment ds)

/-- The clause that is read of the written list. -/
def reading : List Draft → Clause
  | [] => []
  | d :: ds => readAfter d.fragment ds

/-! ### What is read -/

theorem opensWith_fragment (d : Draft) :
    Text.opensWith Logic.and.token d.fragment =
      (Text.sameLetters Logic.and.token d.column || Text.opensWith Logic.and.token d.column) := by
  rw [fragment, List.append_assoc, List.cons_append]
  exact Text.opensWith_append_blank Logic.and.token_solid (by decide) _ _

theorem opensWith_fragment_append (d : Draft) (t : Text) :
    Text.opensWith Logic.and.token (d.fragment ++ t) =
      Text.opensWith Logic.and.token d.fragment := by
  rw [opensWith_fragment, fragment, List.append_assoc, List.append_assoc, List.cons_append]
  exact Text.opensWith_append_blank Logic.and.token_solid (by decide) _ _

/-- A piece and the written drafts after it are read as `readAfter` says. -/
theorem parse_joinedText {t : Text} (ht : Clause.Piece t) {ds : List Draft}
    (h : ∀ d ∈ ds, d.refusal? = none) : Clause.parse (t ++ joinedText ds) = readAfter t ds := by
  induction ds generalizing t with
  | nil => rw [joinedText, List.append_nil, Clause.parse_of_uncut ht.uncut, readAfter]
  | cons d ds ih =>
      have hd := piece_fragment (h d List.mem_cons_self)
      have hds : ∀ e ∈ ds, e.refusal? = none := fun e he => h e (List.mem_cons_of_mem _ he)
      have front := Text.frontSolid_append hd.front (joinedText ds)
      have joined : t ++ joinedText (d :: ds) =
          t ++ (Clause.Separator.plain d.logic).text ++ (d.fragment ++ joinedText ds) := by
        simp [joinedText, Clause.Separator.text, Clause.Separator.plain]
      rw [joined, readAfter]
      cases d.logic with
      | and =>
          rw [Clause.parse_and _ ht.back front (ht.unended .and), Clause.parse_of_uncut ht.uncut,
            ih hd hds]
          rfl
      | or =>
          cases e : Text.afterOpening? Logic.and.token d.fragment with
          | none =>
              have hopen : Text.opensWith Logic.and.token d.fragment = false := by
                rw [Text.opensWith, e]
                rfl
              rw [ht.parse_or front (by rw [opensWith_fragment_append, hopen]), ih hd hds]
          | some rest => rw [ht.parse_seam hd e, ih (hd.afterOpening? e) hds]

/-! ### What is meant -/

theorem clauseOf_ne_nil (d : Draft) (ds : List Draft) : clauseOf (d :: ds) ≠ [] := by
  simp [clauseOf, blocks_ne_nil]

theorem readAfter_ne_nil (t : Text) (ds : List Draft) : readAfter t ds ≠ [] := by
  cases ds with
  | nil => simp [readAfter]
  | cons d ds =>
      rw [readAfter]
      split
      · simp
      · split
        · simp
        · unfold Clause.widen
          split <;> simp

theorem opensSeam_of_or {d : Draft} (h : d.logic = .or) :
    d.opensSeam = (Text.afterOpening? Logic.and.token d.fragment).isSome := by
  rw [opensSeam, h, ← opensWith_fragment]
  rfl

theorem readAfter_eq_clauseOf {d : Draft} {ds : List Draft} (h : ∀ e ∈ d :: ds, e.refusal? = none)
    (seamless : ∀ e ∈ ds, e.opensSeam = false) : readAfter d.fragment ds = clauseOf (d :: ds) := by
  induction ds generalizing d with
  | nil => rw [readAfter, parse?_fragment (h d List.mem_cons_self), clauseOf_singleton]
  | cons d' ds ih =>
      have own := parse?_fragment (h d List.mem_cons_self)
      have rest := ih (fun e he => h e (List.mem_cons_of_mem _ he))
        (fun e he => seamless e (List.mem_cons_of_mem _ he))
      rw [readAfter, own]
      cases hl : d'.logic with
      | and => rw [clauseOf_cons_and d hl, ← rest]
      | or =>
          have closed := seamless d' List.mem_cons_self
          rw [opensSeam_of_or hl, Option.isSome_eq_false_iff, Option.isNone_iff_eq_none] at closed
          rw [clauseOf_cons_or d hl, ← rest, closed]

/-- Every seam makes one more group. -/
theorem length_readAfter (t : Text) (d : Draft) (ds : List Draft) :
    (readAfter t ds).length = (clauseOf (d :: ds)).length + ds.countP opensSeam := by
  induction ds generalizing t d with
  | nil => rw [readAfter, clauseOf_singleton]; rfl
  | cons d' ds ih =>
      rw [readAfter, List.countP_cons]
      cases hl : d'.logic with
      | and =>
          have plain : d'.opensSeam = false := by simp [opensSeam, hl]
          rw [clauseOf_cons_and d hl, List.length_cons, List.length_cons, ih d'.fragment d', plain]
          simp only [Bool.false_eq_true, if_false]
          omega
      | or =>
          rw [clauseOf_cons_or d hl, Clause.length_widen _ (clauseOf_ne_nil d' ds),
            opensSeam_of_or hl]
          cases Text.afterOpening? Logic.and.token d'.fragment with
          | none =>
              rw [Clause.length_widen _ (readAfter_ne_nil _ ds), ih d'.fragment d']
              rfl
          | some rest =>
              rw [List.length_cons, ih rest d']
              rfl

/-- The clause that is read of a list is the clause that it stands for exactly if there is no
seam. -/
theorem reading_eq_clauseOf_iff {ds : List Draft} (h : ∀ d ∈ ds, d.refusal? = none) :
    reading ds = clauseOf ds ↔ ∀ d ∈ ds.tail, d.opensSeam = false := by
  cases ds with
  | nil => simp [reading, clauseOf, blocks]
  | cons d ds =>
      rw [reading, List.tail_cons]
      refine ⟨fun e => ?_, readAfter_eq_clauseOf h⟩
      have count := length_readAfter d.fragment d ds
      rw [e, Nat.left_eq_add, List.countP_eq_zero] at count
      intro e' he
      simpa using count e' he

/-! ### The clause text -/

theorem solid_body {d : Draft} {ds : List Draft} (h : ∀ e ∈ d :: ds, e.refusal? = none) :
    Text.frontSolid (d.fragment ++ joinedText ds) = true ∧
      Text.backSolid (d.fragment ++ joinedText ds) = true := by
  have hd := piece_fragment (h d List.mem_cons_self)
  refine ⟨Text.frontSolid_append hd.front _, ?_⟩
  induction ds generalizing d with
  | nil => rw [joinedText, List.append_nil, hd.back]
  | cons d' ds ih =>
      have h' : ∀ e ∈ d' :: ds, e.refusal? = none := fun e he => h e (List.mem_cons_of_mem _ he)
      have rest := ih h' (piece_fragment (h' d' List.mem_cons_self))
      have joined : d.fragment ++ joinedText (d' :: ds) =
          d.fragment ++ ' ' :: d'.logic.token ++ [' '] ++ (d'.fragment ++ joinedText ds) := by
        simp [joinedText]
      rw [joined, Text.backSolid_append _ (Text.ne_nil_of_backSolid rest), rest]

theorem filter_clauseText {ds : List Draft} (h : ∀ d ∈ ds, d.refusal? = none) (rows : List Row) :
    Clause.filter rows (clauseText ds) = .ok (rows.filter (Clause.holds (reading ds))) := by
  cases ds with
  | nil => rfl
  | cons d ds =>
      obtain ⟨front, back⟩ := solid_body h
      rw [clauseText_cons, List.append_assoc, Clause.filter_where front back, reading,
        parse_joinedText (piece_fragment (h d List.mem_cons_self))
          fun e he => h e (List.mem_cons_of_mem _ he)]

/-- **Drafts written and read.**  The clause text of drafts that are not refused is accepted, and
its body is read as the clause of the drafts exactly if no draft after the first is joined by `OR`
to a column that is `AND` or begins with `AND` and white space. -/
theorem parse_clauseText {ds : List Draft} (ne : ds ≠ []) (h : ∀ d ∈ ds, d.refusal? = none) :
    (∀ rows, ∃ kept, Clause.filter rows (clauseText ds) = .ok kept) ∧
    ∃ body, Clause.body? (Text.trim (clauseText ds)) = some body ∧
      (Clause.parse body = clauseOf ds ↔ ∀ d ∈ ds.tail, d.opensSeam = false) := by
  refine ⟨fun rows => ⟨_, filter_clauseText h rows⟩, ?_⟩
  obtain ⟨d, ds, rfl⟩ := List.exists_cons_of_ne_nil ne
  obtain ⟨front, back⟩ := solid_body h
  have whole : Text.trim (clauseText (d :: ds)) =
      "WHERE ".toList ++ (d.fragment ++ joinedText ds) := by
    rw [clauseText_cons, List.append_assoc, Clause.trim_where back]
  refine ⟨d.fragment ++ joinedText ds, by rw [whole, Clause.body?_where front], ?_⟩
  rw [parse_joinedText (piece_fragment (h d List.mem_cons_self))
    fun e he => h e (List.mem_cons_of_mem _ he)]
  exact reading_eq_clauseOf_iff h

theorem parse_clauseText_two_drafts :
    let apart : List Draft := [⟨0, "A".toList, .eq, "x".toList, .and⟩,
      ⟨1, "ANDx".toList, .gt, "1.5".toList, .or⟩]
    let seam : List Draft := [⟨0, "A".toList, .eq, "x".toList, .and⟩,
      ⟨1, "and x".toList, .gt, "1.5".toList, .or⟩]
    (apart ≠ [] ∧ ∀ d ∈ apart, d.refusal? = none) ∧ (seam ≠ [] ∧ ∀ d ∈ seam, d.refusal? = none) ∧
    (∃ body, Clause.body? (Text.trim (clauseText apart)) = some body ∧
      Clause.parse body = clauseOf apart) ∧
    ∃ body, Clause.body? (Text.trim (clauseText seam)) = some body ∧
      Clause.parse body ≠ clauseOf seam := by
  intro apart seam
  have apartKept : ∀ d ∈ apart, d.refusal? = none := by decide
  have seamKept : ∀ d ∈ seam, d.refusal? = none := by decide
  refine ⟨⟨by decide, apartKept⟩, ⟨by decide, seamKept⟩, ?_, ?_⟩
  · obtain ⟨-, body, he, iff⟩ := parse_clauseText (by decide) apartKept
    exact ⟨body, he, iff.mpr (by decide)⟩
  · obtain ⟨-, body, he, iff⟩ := parse_clauseText (by decide) seamKept
    exact ⟨body, he, fun e => absurd (iff.mp e) (by decide)⟩

end Draft

end Tabular
