import Tabular.Proofs.Clause.Separator

/-! # Occurrences of a keyword

A text is cut at a keyword exactly if the keyword stands in it with white space on both sides
(`cutAtKeyword_eq_self_iff`).  So a part of a text that is not cut is not cut either, and whether a
text is cut can be told from its pieces: white space between two pieces belongs to both
(`occurs_append_blank`), and a character that is in no keyword keeps them apart
(`occurs_append_mark`). -/

namespace Tabular

open Unicode

namespace Clause

theorem infix_append_cons {α : Type} {u a b : List α} {w : α} (h : u <:+: a ++ w :: b) :
    u <:+: a ∨ u <:+: b ∨ ∃ s p, u = s ++ w :: p ∧ s <:+ a ∧ p <+: b := by
  obtain ⟨f, g, e⟩ := h
  rcases List.append_eq_append_iff.mp e with ⟨m, rfl, -⟩ | ⟨m, e', e''⟩
  · exact .inl ⟨f, m, rfl⟩
  · cases m with
    | nil =>
        rw [List.append_nil] at e'
        exact .inl ⟨f, [], by rw [List.append_nil, e']⟩
    | cons x m =>
        obtain ⟨rfl, rfl⟩ := List.cons.inj e''
        rcases List.append_eq_append_iff.mp e' with ⟨n, rfl, rfl⟩ | ⟨n, rfl, e'''⟩
        · exact .inr (.inr ⟨n, m, rfl, ⟨f, rfl⟩, ⟨g, rfl⟩⟩)
        · cases n with
          | nil => exact .inr (.inr ⟨[], m, e'''.symm, List.nil_suffix, ⟨g, rfl⟩⟩)
          | cons y n =>
              obtain ⟨rfl, rfl⟩ := List.cons.inj e'''
              exact .inr (.inl ⟨n, g, rfl⟩)

/-- Whether a keyword stands in a text with white space on both sides. -/
def Occurs (l : Logic) (t : Text) : Prop :=
  ∃ x word y, isWhiteSpace x = true ∧ Text.sameLetters l.token word = true ∧
    isWhiteSpace y = true ∧ x :: word ++ [y] <:+: t

/-- A text that is cut at no keyword. -/
def Uncut (t : Text) : Prop :=
  ∀ l : Logic, cutAtKeyword l.token t = [t]

/-! ### Cuts and occurrences -/

section cuts

variable {l : Logic} {t u : Text}

theorem cutStretches_of_append {keyword : Text} {xs ys : List Text}
    (h : cutStretches keyword (xs ++ ys) = [xs ++ ys]) : cutStretches keyword ys = [ys] := by
  induction xs with
  | nil => exact h
  | cons s xs ih => exact ih (cutStretches_tail h)

/-- Stretches are cut only at a separator. -/
theorem exists_of_cutStretches {keyword : Text} (xs : List Text) :
    cutStretches keyword xs = [xs] ∨
      ∃ front s word s' rest, xs = front ++ s :: word :: s' :: rest ∧ Text.isBlank s = true ∧
        Text.sameLetters keyword word = true := by
  fun_induction cutStretches keyword xs with
  | case1 => exact .inl rfl
  | case2 s word s' rest h ih =>
      rw [Bool.and_eq_true] at h
      exact .inr ⟨[], s, word, s', rest, rfl, h.1, h.2⟩
  | case3 s word s' rest h ih =>
      rcases ih with e | ⟨front, t, w, t', more, e, ht, hw⟩
      · exact .inl (by rw [e]; rfl)
      · exact .inr ⟨s :: front, t, w, t', more, by rw [e]; rfl, ht, hw⟩
  | case4 s rest h ih =>
      rcases ih with e | ⟨front, t, w, t', more, e, ht, hw⟩
      · exact .inl (by rw [e]; rfl)
      · exact .inr ⟨s :: front, t, w, t', more, by rw [e]; rfl, ht, hw⟩

theorem Occurs.exists_stretches (h : Occurs l t) :
    ∃ front s word s' rest, Text.stretches t = front ++ s :: word :: s' :: rest ∧
      Text.isBlank s = true ∧ Text.sameLetters l.token word = true := by
  obtain ⟨x, word, y, hx, hw, hy, f, g, rfl⟩ := h
  have solid := Text.isWhiteSpace_of_sameLetters hw l.token_solid
  have ne := Text.ne_nil_of_sameLetters hw l.token_ne_nil
  have left : Text.stretches ((f ++ [x]) ++ (word ++ y :: g)) =
      Text.stretches (f ++ [x]) ++ Text.stretches (word ++ y :: g) := by
    refine Text.stretches_append fun c hc d hd => ?_
    rw [List.getLast?_concat, Option.mem_def, Option.some.injEq] at hc
    rw [List.head?_append_of_ne_nil _ ne] at hd
    exact (Text.sameKind_eq_false (hc ▸ hx) (solid d (List.mem_of_mem_head? hd))).1
  have right : Text.stretches (word ++ y :: g) = word :: Text.stretches (y :: g) := by
    rw [Text.stretches_append, Text.stretches_of_uniform ne solid, List.singleton_append]
    intro c hc d hd
    rw [List.head?_cons, Option.mem_def, Option.some.injEq] at hd
    exact (Text.sameKind_eq_false (hd ▸ hy) (solid c (List.mem_of_mem_getLast? hc))).2
  have some_left : Text.stretches (f ++ [x]) ≠ [] := by
    intro e
    have flat := Text.flatten_stretches (f ++ [x])
    simp [e] at flat
  have some_right : Text.stretches (y :: g) ≠ [] := by
    intro e
    have flat := Text.flatten_stretches (y :: g)
    simp [e] at flat
  obtain ⟨front, s, hs⟩ := (List.eq_nil_or_concat' _).resolve_left some_left
  obtain ⟨s', rest, hs'⟩ := List.exists_cons_of_ne_nil some_right
  refine ⟨front, s, word, s', rest, ?_, ?_, hw⟩
  · have e : f ++ (x :: word ++ [y]) ++ g = (f ++ [x]) ++ (word ++ y :: g) := by simp
    rw [e, left, right, hs, hs', List.append_assoc, List.singleton_append]
  · -- The stretch before the keyword ends in white space.
    have mem : s ∈ Text.stretches (f ++ [x]) := by simp [hs]
    have flat := Text.flatten_stretches (f ++ [x])
    rw [hs, List.flatten_append, List.flatten_singleton] at flat
    have last := congrArg List.getLast? flat
    rw [List.getLast?_append_of_ne_nil _ (Text.ne_nil_of_mem_stretches mem),
      List.getLast?_concat] at last
    rw [Text.isBlank_of_mem_stretches mem (List.mem_of_getLast? last), hx]

/-- A text is not cut at a keyword exactly if the keyword does not occur in it. -/
theorem cutAtKeyword_eq_self_iff : cutAtKeyword l.token t = [t] ↔ ¬ Occurs l t := by
  rw [cutAtKeyword_eq_singleton_iff]
  constructor
  · intro whole h
    obtain ⟨front, s, word, s', rest, e, hs, hw⟩ := h.exists_stretches
    rw [e] at whole
    have cut := cutStretches_of_append whole
    rw [cutStretches, if_pos (by rw [hs, hw]; rfl), List.cons.injEq] at cut
    exact cutStretches_ne_nil _ _ cut.2
  · intro free
    refine (exists_of_cutStretches _).resolve_right ?_
    rintro ⟨front, s, word, s', rest, e, hs, hw⟩
    have mem : ∀ z ∈ [s, word, s'], z ∈ Text.stretches t := by
      intro z hz
      rw [e]
      simp only [List.mem_cons, List.not_mem_nil, or_false] at hz
      rcases hz with rfl | rfl | rfl <;> simp
    obtain ⟨u, x, rfl⟩ := (List.eq_nil_or_concat' s).resolve_left
      (Text.ne_nil_of_mem_stretches (mem s (by simp)))
    obtain ⟨y, v, rfl⟩ := List.exists_cons_of_ne_nil
      (Text.ne_nil_of_mem_stretches (mem s' (by simp)))
    have ne := Text.ne_nil_of_mem_stretches (mem word (by simp))
    have solid := Text.isWhiteSpace_of_sameLetters hw l.token_solid
    refine free ⟨x, word, y, ?_, hw, ?_, front.flatten ++ u, v ++ rest.flatten, ?_⟩
    · simpa [Text.isBlank] using List.all_eq_true.mp hs x (by simp)
    · have e' : Text.stretches t = (front ++ [u ++ [x]]) ++ word :: (y :: v) :: rest := by
        rw [e]
        simp
      have blank := Text.isBlank_alternates e'
      rw [Text.isBlank_of_solid ne solid] at blank
      exact List.all_eq_true.mp blank y List.mem_cons_self
    · rw [← Text.flatten_stretches t, e]
      simp

theorem uncut_iff : Uncut t ↔ ∀ l, ¬ Occurs l t :=
  forall_congr' fun _ => cutAtKeyword_eq_self_iff

/-! ### Occurrences in the pieces of a text -/

theorem Occurs.mono (h : Occurs l u) (part : u <:+: t) : Occurs l t := by
  obtain ⟨x, word, y, hx, hw, hy, inside⟩ := h
  exact ⟨x, word, y, hx, hw, hy, inside.trans part⟩

theorem Uncut.mono (h : Uncut t) (part : u <:+: t) : Uncut u :=
  uncut_iff.mpr fun l occurs => uncut_iff.mp h l (occurs.mono part)

/-- White space between two texts is in reach of the keywords of both. -/
theorem occurs_append_blank {w : Char} (hw : isWhiteSpace w = true) {a b : Text} :
    Occurs l (a ++ w :: b) ↔ Occurs l (a ++ [w]) ∨ Occurs l (w :: b) := by
  constructor
  · rintro ⟨x, word, y, hx, same, hy, inside⟩
    rcases infix_append_cons inside with h | h | ⟨s, p, e, hs, hp⟩
    · exact .inl ⟨x, word, y, hx, same, hy, h.trans (List.prefix_append _ _).isInfix⟩
    · exact .inr ⟨x, word, y, hx, same, hy, h.trans (List.suffix_cons _ _).isInfix⟩
    · cases s with
      | nil =>
          refine .inr ⟨x, word, y, hx, same, hy, ?_⟩
          rw [e]
          exact (List.cons_prefix_cons.mpr ⟨rfl, hp⟩).isInfix
      | cons z s =>
          rcases List.eq_nil_or_concat' p with rfl | ⟨p, z', rfl⟩
          · refine .inl ⟨x, word, y, hx, same, hy, ?_⟩
            obtain ⟨f, rfl⟩ := hs
            rw [e]
            exact ⟨f, [], by simp⟩
          · -- The white space would lie within the keyword.
            rw [List.cons_append, List.cons_append, List.cons.injEq, ← List.cons_append,
              ← List.append_assoc] at e
            have inner := List.append_inj_left' e.2 rfl
            have := Text.isWhiteSpace_of_sameLetters same l.token_solid w (by simp [inner])
            rw [hw] at this
            cases this
  · rintro (h | h)
    · exact h.mono ⟨[], b, by simp⟩
    · exact h.mono (List.suffix_append _ _).isInfix

/-- Whether a character is neither white space nor a letter of a keyword. -/
def isMark (c : Char) : Bool :=
  !isWhiteSpace c &&
    [Logic.and, .or].all fun l => l.token.all fun d => !Text.sameLetter d c

theorem not_mem_of_isMark {c : Char} (hc : isMark c = true) {word : Text}
    (h : Text.sameLetters l.token word = true) : c ∉ word := by
  intro mem
  rw [isMark, Bool.and_eq_true, List.all_eq_true] at hc
  have upper : c.toUpper ∈ l.token.map Char.toUpper := by
    rw [Text.sameLetters_iff.mp h]
    exact List.mem_map_of_mem mem
  obtain ⟨d, hd, e⟩ := List.mem_map.mp upper
  have other := List.all_eq_true.mp (hc.2 l (by cases l <;> decide)) d hd
  simp [Text.sameLetter, e] at other

/-- A mark between two texts is in reach of no keyword. -/
theorem occurs_append_mark {c : Char} (hc : isMark c = true) {a b : Text} :
    Occurs l (a ++ c :: b) ↔ Occurs l a ∨ Occurs l b := by
  constructor
  · rintro ⟨x, word, y, hx, same, hy, inside⟩
    rcases infix_append_cons inside with h | h | ⟨s, p, e, -, -⟩
    · exact .inl ⟨x, word, y, hx, same, hy, h⟩
    · exact .inr ⟨x, word, y, hx, same, hy, h⟩
    · have mem : c ∈ x :: word ++ [y] := by simp [e]
      have solid : isWhiteSpace c = false := by
        rw [isMark, Bool.and_eq_true, Bool.not_eq_true'] at hc
        exact hc.1
      simp only [List.cons_append, List.mem_cons, List.mem_append, List.not_mem_nil,
        or_false] at mem
      rcases mem with rfl | mem | rfl
      · rw [hx] at solid
        cases solid
      · exact absurd mem (not_mem_of_isMark hc same)
      · rw [hy] at solid
        cases solid
  · rintro (h | h)
    · exact h.mono (List.prefix_append _ _).isInfix
    · exact h.mono ((List.suffix_cons _ _).trans (List.suffix_append _ _)).isInfix

theorem occurs_concat {w : Char} (hw : isWhiteSpace w = true) {a : Text} :
    Occurs l (a ++ [w]) ↔ Occurs l a ∨ Text.closesWith l.token a = true := by
  constructor
  · rintro ⟨x, word, y, hx, same, hy, inside⟩
    rcases infix_append_cons inside with h | h | ⟨s, p, e, hs, hp⟩
    · exact .inl ⟨x, word, y, hx, same, hy, h⟩
    · simp at h
    · obtain rfl := List.prefix_nil.mp hp
      obtain ⟨f, rfl⟩ := hs
      obtain ⟨rfl, -⟩ := List.append_inj' e rfl
      exact .inr (Text.closesWith_iff.mpr ⟨f, x, word, hx, same, rfl⟩)
  · rintro (h | h)
    · exact h.mono (List.prefix_append _ _).isInfix
    · obtain ⟨f, x, word, hx, same, rfl⟩ := Text.closesWith_iff.mp h
      exact ⟨x, word, w, hx, same, hw, f, [], by simp⟩

theorem not_occurs_of_solid {c : Char} (h : ∀ d ∈ t, isWhiteSpace d = false) :
    ¬ Occurs l (c :: t) := by
  rintro ⟨x, word, y, hx, same, hy, f, g, e⟩
  have mem : y ∈ t := by
    have tail := congrArg List.tail e
    rw [List.tail_cons] at tail
    rw [← tail]
    cases f <;> simp
  rw [h y mem] at hy
  cases hy

end cuts

end Clause

end Tabular
