import Tabular.Clause
import Tabular.Operator
import Tabular.Proofs.Text.Stretches

/-! # Separators

A `Separator` is the keyword of a join, in any letter case, with white space on both sides.  Cutting
at a keyword acts locally: if no separator lies across the place where two lists of stretches meet,
they can be cut one by one, and then the last part of one and the first part of the other are one
part (`cutStretches_append`).  For texts this says what a separator between them does.  A separator
of the keyword itself ends a part (`cutAtKeyword_separator`), and without one in a text the text is
its own only part (`eq_of_cutAtKeyword`). -/

namespace Tabular

open Unicode

namespace Logic

theorem token_ne_nil (l : Logic) : l.token ≠ [] := by
  cases l <;> decide

theorem token_solid (l : Logic) : ∀ c ∈ l.token, isWhiteSpace c = false := by
  have solid : (l.token.all fun c => !isWhiteSpace c) = true := by cases l <;> decide
  simpa using solid

theorem token_injective {l m : Logic} {t : Text} (hl : Text.sameLetters l.token t = true)
    (hm : Text.sameLetters m.token t = true) : l = m := by
  rw [Text.sameLetters_iff] at hl hm
  have e := hl.trans hm.symm
  cases l <;> cases m <;> simp_all +decide

end Logic

namespace Clause

/-- The keyword of a join, in any letter case, with white space before and after it. -/
structure Separator (l : Logic) where
  before : Text
  word : Text
  after : Text
  before_ne_nil : before ≠ []
  before_blank : Text.isBlank before = true
  word_same : Text.sameLetters l.token word = true
  after_ne_nil : after ≠ []
  after_blank : Text.isBlank after = true

namespace Separator

variable {l : Logic} (s : Separator l)

/-- The separator as it stands in a text. -/
def text : Text :=
  s.before ++ s.word ++ s.after

/-- The stretches of a separator. -/
def stretches : List Text :=
  [s.before, s.word, s.after]

/-- The keyword as it is written by default. -/
def plain (l : Logic) : Separator l :=
  ⟨[' '], l.token, [' '], by decide, by decide, by cases l <;> decide, by decide, by decide⟩

theorem word_solid : ∀ c ∈ s.word, isWhiteSpace c = false :=
  Text.isWhiteSpace_of_sameLetters s.word_same l.token_solid

theorem word_ne_nil : s.word ≠ [] := by
  intro h
  have e := Text.sameLetters_iff.mp s.word_same
  rw [h, List.map_nil, List.map_eq_nil_iff] at e
  exact l.token_ne_nil e

end Separator

/-! ### Cutting stretches -/

section stretches

variable {keyword : Text}

/-- Two lists of parts, the last part of the one and the first part of the other made one. -/
def glue {α : Type} : List (List α) → List (List α) → List (List α)
  | [], qs => qs
  | [p], qs => (p ++ qs.headD []) :: qs.tail
  | p :: p' :: ps, qs => p :: glue (p' :: ps) qs

theorem glue_concat {α : Type} (ps : List (List α)) (p q : List α) (qs : List (List α)) :
    glue (ps ++ [p]) (q :: qs) = ps ++ (p ++ q) :: qs := by
  induction ps with
  | nil => rfl
  | cons p' ps ih =>
      cases ps with
      | nil => rfl
      | cons p'' ps => simpa [glue] using ih

theorem glue_cons {α : Type} (p : List α) {ps : List (List α)} (h : ps ≠ [])
    (qs : List (List α)) : glue (p :: ps) qs = p :: glue ps qs := by
  match ps, h with
  | _ :: _, _ => rfl

theorem putFront_ne_nil (s : Text) (parts : List (List Text)) : putFront s parts ≠ [] := by
  cases parts <;> simp [putFront]

theorem cutStretches_ne_nil (keyword : Text) (xs : List Text) : cutStretches keyword xs ≠ [] := by
  fun_induction cutStretches keyword xs with
  | case1 => simp
  | case2 => simp
  | case3 => exact putFront_ne_nil _ _
  | case4 => exact putFront_ne_nil _ _

theorem putFront_glue (s : Text) {ps : List (List Text)} (h : ps ≠ []) (qs : List (List Text)) :
    putFront s (glue ps qs) = glue (putFront s ps) qs := by
  match ps, h with
  | [p], _ => rfl
  | p :: p' :: ps, _ => rfl

/-- A stretch is put in front of what follows it unless it opens a separator. -/
theorem cutStretches_cons {s : Text} {xs : List Text}
    (h : ∀ word s' rest, xs = word :: s' :: rest → Text.isBlank s = true →
      Text.sameLetters keyword word = false) :
    cutStretches keyword (s :: xs) = putFront s (cutStretches keyword xs) := by
  match xs with
  | [] => rfl
  | [_] => rfl
  | word :: s' :: rest =>
      rw [cutStretches, if_neg]
      intro hs
      rw [Bool.and_eq_true] at hs
      exact absurd hs.2 (by simp [h word s' rest rfl hs.1])

/-- Stretches that do not end with white space and a keyword. -/
def EndsFree (keyword : Text) (xs : List Text) : Prop :=
  ∀ front s word, xs = front ++ [s, word] → Text.isBlank s = true →
    Text.sameLetters keyword word = false

/-- If no separator lies across the place where they meet, stretches are cut one list by one. -/
theorem cutStretches_append {xs ys : List Text}
    (one : ∀ front s word s' rest, xs = front ++ [s] → ys = word :: s' :: rest →
      Text.isBlank s = true → Text.sameLetters keyword word = false)
    (two : EndsFree keyword xs) :
    cutStretches keyword (xs ++ ys) = glue (cutStretches keyword xs) (cutStretches keyword ys) := by
  fun_induction cutStretches keyword xs with
  | case1 =>
      obtain ⟨q, qs, e⟩ := List.exists_cons_of_ne_nil (cutStretches_ne_nil keyword ys)
      simp [e, glue]
  | case2 s word s' rest h ih =>
      have e : cutStretches keyword (s :: word :: s' :: (rest ++ ys)) =
          [] :: cutStretches keyword (rest ++ ys) := by
        rw [cutStretches, if_pos h]
      have tail := ih
        (fun front t w t' r e' => one (s :: word :: s' :: front) t w t' r (by simp [e']))
        (fun front t w e' => two (s :: word :: s' :: front) t w (by simp [e']))
      rw [List.cons_append, List.cons_append, List.cons_append, e, tail,
        glue_cons _ (cutStretches_ne_nil _ _)]
  | case3 s word s' rest h ih =>
      have tail := ih (fun front t w t' r e' => one (s :: front) t w t' r (by simp [e']))
        (fun front t w e' => two (s :: front) t w (by simp [e']))
      rw [List.cons_append, cutStretches_cons, tail,
        putFront_glue _ (cutStretches_ne_nil _ _)]
      intro w t' r e' hs
      simp only [List.cons_append, List.cons.injEq] at e'
      simpa [e'.1, hs] using h
  | case4 s rest h ih =>
      have tail := ih (fun front t w t' r e' => one (s :: front) t w t' r (by simp [e']))
        (fun front t w e' => two (s :: front) t w (by simp [e']))
      rw [List.cons_append, cutStretches_cons, tail,
        putFront_glue _ (cutStretches_ne_nil _ _)]
      intro w t' r e' hs
      match rest, h with
      | [], _ => exact one [] s w t' r rfl e' hs
      | [x], _ =>
          simp only [List.cons_append, List.nil_append, List.cons.injEq] at e'
          exact two [] s w (by simp [e'.1]) hs
      | w :: s' :: rest, h => exact absurd rfl (h w s' rest)

theorem sameLetters_eq_false_of_isBlank (l : Logic) {w : Text} (ne : w ≠ [])
    (h : Text.isBlank w = true) : Text.sameLetters l.token w = false := by
  rw [Bool.eq_false_iff]
  intro e
  have hw := Text.isWhiteSpace_of_sameLetters e l.token_solid (w.head ne) (List.head_mem ne)
  rw [Text.isBlank, List.all_eq_true] at h
  rw [h _ (List.head_mem ne)] at hw
  exact absurd hw (by decide)

theorem cutStretches_separator {l : Logic} (s : Separator l) {xs : List Text}
    (h : EndsFree l.token xs) (ys : List Text) :
    cutStretches l.token (xs ++ s.stretches ++ ys) =
      cutStretches l.token xs ++ cutStretches l.token ys := by
  have e : cutStretches l.token (s.stretches ++ ys) = [] :: cutStretches l.token ys := by
    rw [Separator.stretches, List.cons_append, List.cons_append, List.cons_append, cutStretches,
      if_pos (by simp [s.before_blank, s.word_same]), List.nil_append]
  rw [List.append_assoc, cutStretches_append _ h, e]
  · obtain ⟨ps, p, hp⟩ :=
      (List.eq_nil_or_concat' _).resolve_left (cutStretches_ne_nil l.token xs)
    rw [hp, glue_concat, List.append_nil, List.append_assoc, List.singleton_append]
  · intro front t word t' rest _ e' _
    simp only [Separator.stretches, List.cons_append, List.cons.injEq] at e'
    rw [← e'.1]
    exact sameLetters_eq_false_of_isBlank l s.before_ne_nil s.before_blank

/-- A separator of another keyword lies within a part. -/
theorem cutStretches_other {l m : Logic} (hlm : l ≠ m) (s : Separator m) {xs ys : List Text}
    (hx : EndsFree l.token xs)
    (hx' : ∀ front t, xs = front ++ [t] → Text.isBlank t = false)
    (hy : ∀ word t rest, ys = word :: t :: rest → Text.sameLetters l.token word = false) :
    cutStretches l.token (xs ++ s.stretches ++ ys) =
      glue (cutStretches l.token xs) (glue [s.stretches] (cutStretches l.token ys)) := by
  have hword : Text.sameLetters l.token s.word = false := by
    rw [Bool.eq_false_iff]
    exact fun e => hlm (Logic.token_injective e s.word_same)
  have e : cutStretches l.token s.stretches = [s.stretches] := by
    simp [Separator.stretches, cutStretches, putFront, hword]
  rw [List.append_assoc, cutStretches_append _ hx, cutStretches_append, e]
  · intro front t word t' rest _ e' _
    exact hy word t' rest e'
  · intro front t word e' _
    have last := congrArg List.getLast? e'
    simp only [Separator.stretches, List.getLast?_append, List.getLast?_cons_cons,
      List.getLast?_singleton, Option.some_or, Option.some.injEq] at last
    rw [← last]
    exact sameLetters_eq_false_of_isBlank l s.after_ne_nil s.after_blank
  · intro front t word t' rest e' _ ht
    rw [hx' front t e'] at ht
    exact absurd ht (by decide)

/-- Induction along a cut: stretches are used up by a separator, or one is put in front of the
first part. -/
theorem cutStretches_induct {keyword : Text} {motive : List Text → List (List Text) → Prop}
    (nil : motive [] [[]])
    (separator : ∀ s word s' rest, motive rest (cutStretches keyword rest) →
      motive (s :: word :: s' :: rest) ([] :: cutStretches keyword rest))
    (front : ∀ s rest q qs, cutStretches keyword rest = q :: qs → motive rest (q :: qs) →
      motive (s :: rest) ((s :: q) :: qs)) (xs : List Text) :
    motive xs (cutStretches keyword xs) := by
  fun_induction cutStretches keyword xs with
  | case1 => exact nil
  | case2 s word s' rest _ ih => exact separator s word s' rest ih
  | case3 s word s' rest _ ih =>
      obtain ⟨q, qs, e⟩ := List.exists_cons_of_ne_nil
        (cutStretches_ne_nil keyword (word :: s' :: rest))
      rw [e] at ih ⊢
      exact front s _ q qs e ih
  | case4 s rest _ ih =>
      obtain ⟨q, qs, e⟩ := List.exists_cons_of_ne_nil (cutStretches_ne_nil keyword rest)
      rw [e] at ih ⊢
      exact front s _ q qs e ih

theorem eq_of_cutStretches {keyword : Text} {xs p : List Text}
    (h : cutStretches keyword xs = [p]) : p = xs := by
  refine @cutStretches_induct keyword (fun xs parts => ∀ p, parts = [p] → p = xs) ?_ ?_ ?_ xs p h
  · simp
  · intro s word s' rest _ p e
    simp [cutStretches_ne_nil] at e
  · intro s rest q qs _ ih p e
    rw [List.cons.injEq] at e
    rw [← e.1, ih q (by rw [e.2])]

theorem cutStretches_tail {keyword s : Text} {xs p : List Text}
    (h : cutStretches keyword (s :: xs) = [p]) : cutStretches keyword xs = [xs] := by
  have e : cutStretches keyword (s :: xs) = putFront s (cutStretches keyword xs) := by
    refine cutStretches_cons fun word s' rest e hs => ?_
    rw [Bool.eq_false_iff]
    intro hw
    rw [e, cutStretches, if_pos (by simp [hs, hw]), List.cons.injEq] at h
    exact cutStretches_ne_nil _ _ h.2
  obtain ⟨q, qs, e'⟩ := List.exists_cons_of_ne_nil (cutStretches_ne_nil keyword xs)
  rw [e, e', putFront, List.cons.injEq] at h
  rw [h.2] at e'
  rw [e', eq_of_cutStretches e']

theorem isPrefix_of_cutStretches {keyword : Text} {xs p : List Text} {ps : List (List Text)}
    (h : cutStretches keyword xs = p :: ps) : p <+: xs := by
  refine @cutStretches_induct keyword (fun xs parts => ∀ p ∈ parts.head?, p <+: xs) ?_ ?_ ?_ xs p
    (by simp [h])
  · simp
  · simp
  · intro s rest q qs _ ih p e
    rw [List.head?_cons, Option.mem_def, Option.some.injEq] at e
    rw [← e, List.cons_prefix_cons]
    exact ⟨rfl, ih q rfl⟩

theorem isSuffix_of_cutStretches {keyword : Text} {xs p : List Text} {ps : List (List Text)}
    (h : cutStretches keyword xs = ps ++ [p]) : p <:+ xs := by
  refine @cutStretches_induct keyword (fun xs parts => ∀ p ∈ parts.getLast?, p <:+ xs) ?_ ?_ ?_ xs p
    (by simp [h])
  · simp
  · intro s word s' rest ih p e
    obtain ⟨q, qs, e'⟩ := List.exists_cons_of_ne_nil (cutStretches_ne_nil keyword rest)
    rw [e', List.getLast?_cons_cons, ← e'] at e
    exact (ih p e).trans ⟨[s, word, s'], rfl⟩
  · intro s rest q qs e' ih p e
    cases qs with
    | nil =>
        rw [List.getLast?_singleton, Option.mem_def, Option.some.injEq] at e
        have whole : p = s :: rest := by rw [← e, eq_of_cutStretches e']
        exact whole ▸ List.suffix_rfl
    | cons q' qs =>
        rw [List.getLast?_cons_cons] at e
        exact (ih p (by rwa [List.getLast?_cons_cons])).trans (List.suffix_cons _ _)

theorem isInfix_of_mem_cutStretches {keyword : Text} {xs p : List Text}
    (h : p ∈ cutStretches keyword xs) : p <:+: xs := by
  refine @cutStretches_induct keyword (fun xs parts => ∀ p ∈ parts, p <:+: xs) ?_ ?_ ?_ xs p h
  · simp
  · intro s word s' rest ih p e
    rcases List.mem_cons.mp e with rfl | e
    · exact ⟨[], s :: word :: s' :: rest, rfl⟩
    · exact (ih p e).trans ⟨[s, word, s'], [], by simp⟩
  · intro s rest q qs e ih p e'
    rcases List.mem_cons.mp e' with rfl | e'
    · exact (List.cons_prefix_cons.mpr ⟨rfl, isPrefix_of_cutStretches e⟩).isInfix
    · exact (ih p (List.mem_cons_of_mem _ e')).trans (List.suffix_cons _ _).isInfix

end stretches

/-! ### Cutting texts -/

section texts

variable {l : Logic}

theorem endsFree_stretches {keyword t : Text} (h : Text.closesWith keyword t = false) :
    EndsFree keyword (Text.stretches t) := by
  intro front s word e hs
  rw [Bool.eq_false_iff]
  intro hw
  rw [Text.closesWith_of_stretches e hs hw] at h
  exact absurd h (by decide)

theorem isBlank_of_stretches {t s : Text} {front : List Text} (h : Text.backSolid t = true)
    (e : Text.stretches t = front ++ [s]) : Text.isBlank s = false := by
  have ne : s ≠ [] := Text.ne_nil_of_mem_stretches (t := t) (by simp [e])
  rw [← Text.flatten_stretches t, e, List.flatten_append, List.flatten_singleton,
    Text.backSolid_append _ ne] at h
  rw [Bool.eq_false_iff]
  intro hs
  rw [Text.backSolid_of_isBlank hs] at h
  exact absurd h (by decide)

theorem Separator.stretches_append (s : Separator l) {a b : Text}
    (ha : a = [] ∨ Text.backSolid a = true) (hb : b = [] ∨ Text.frontSolid b = true) :
    Text.stretches (a ++ s.text ++ b) = Text.stretches a ++ s.stretches ++ Text.stretches b := by
  obtain ⟨front, back⟩ := Text.solid_edges s.word_ne_nil s.word_solid
  have e : a ++ s.text ++ b = a ++ (s.before ++ (s.word ++ (s.after ++ b))) := by
    simp [text]
  rw [e, Text.stretches_append_gap ha s.before_ne_nil s.before_blank,
    Text.stretches_gap_append s.before_ne_nil s.before_blank
      (.inr (Text.frontSolid_append front _)),
    Text.stretches_append_gap (.inr back) s.after_ne_nil s.after_blank,
    Text.stretches_gap_append s.after_ne_nil s.after_blank hb,
    Text.stretches_of_uniform s.word_ne_nil s.word_solid]
  simp [stretches]

/-- A separator between two texts ends the last part of the first one. -/
theorem cutAtKeyword_separator (s : Separator l) {a b : Text} (ha : Text.backSolid a = true)
    (hb : Text.frontSolid b = true) (h : Text.closesWith l.token a = false) :
    cutAtKeyword l.token (a ++ s.text ++ b) =
      cutAtKeyword l.token a ++ cutAtKeyword l.token b := by
  rw [cutAtKeyword, s.stretches_append (.inr ha) (.inr hb),
    cutStretches_separator s (endsFree_stretches h), List.map_append]
  rfl

/-- A text with one part is that part. -/
theorem eq_of_cutAtKeyword {keyword t p : Text} (h : cutAtKeyword keyword t = [p]) : p = t := by
  obtain ⟨xs, hx, rfl⟩ := List.map_eq_singleton_iff.mp h
  rw [eq_of_cutStretches hx, Text.flatten_stretches]

theorem cutAtKeyword_eq_singleton_iff {keyword t : Text} :
    cutAtKeyword keyword t = [t] ↔
      cutStretches keyword (Text.stretches t) = [Text.stretches t] := by
  constructor
  · intro h
    obtain ⟨xs, hx, -⟩ := List.map_eq_singleton_iff.mp h
    rw [hx, eq_of_cutStretches hx]
  · intro h
    rw [cutAtKeyword, h, List.map_singleton, Text.flatten_stretches]

end texts

end Clause

end Tabular
