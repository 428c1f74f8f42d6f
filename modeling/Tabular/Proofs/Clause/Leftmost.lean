import Tabular.Proofs.Clause.Occurrence
import Tabular.Proofs.Offset.Keyword

/-! # Cutting at the leftmost separator

What cutting at a keyword means, said without stretches and without offsets.  A separator stands in
a text if its white space cannot be made longer on either side (`Separator.Stands`).  To cut a text
is to take the leftmost separator that stands in it, then the leftmost one that stands behind that,
and so on until there is none (`LeftmostCut`).  There is exactly one such cut of a text and its
parts are those of `cutAtKeyword`, which the scan by offsets finds as well
(`cutAtKeyword_leftmost`).

One step of a cut is `StandsFirst.cutAtKeyword_eq`: no keyword occurs in front of the leftmost
separator, and none that ends there could use the separator's white space, or there would be a
separator further to the left.  All else goes by induction along the cut. -/

namespace Tabular

open Unicode

namespace Clause

variable {l : Logic} {s s' : Separator l} {t front rest front' rest' : Text}

/-! ### Separators in a text -/

/-- A separator in a text, with all of the white space there is around its keyword. -/
structure Separator.Stands (s : Separator l) (t front rest : Text) : Prop where
  whole : t = front ++ s.text ++ rest
  front_edge : front = [] ∨ Text.backSolid front = true
  rest_edge : rest = [] ∨ Text.frontSolid rest = true

/-- A separator in a text such that no other one begins further to the left. -/
structure Separator.StandsFirst (s : Separator l) (t front rest : Text) : Prop
    extends s.Stands t front rest where
  leftmost : ∀ (s' : Separator l) front' rest', s'.Stands t front' rest' →
    front.length ≤ front'.length

/-- Cutting a text again and again at the leftmost separator that is left, with the parts and the
separators that come of it.  The search goes on behind the separator, so its white space does not
open the next one. -/
inductive LeftmostCut (l : Logic) : Text → List Text → List (Separator l) → Prop
  | last {t : Text} (none_left : ∀ (s : Separator l) front rest, ¬ s.Stands t front rest) :
      LeftmostCut l t [t] []
  | cut {t front rest : Text} {s : Separator l} {parts : List Text}
      {separators : List (Separator l)}
      (first : s.StandsFirst t front rest) (behind : LeftmostCut l rest parts separators) :
      LeftmostCut l t (front :: parts) (s :: separators)

/-- The text that is made of parts with separators between them. -/
def interleave : List Text → List (Separator l) → Text
  | part :: parts, s :: separators => part ++ s.text ++ interleave parts separators
  | parts, _ => parts.flatten

namespace Separator

theorem length_text_pos (s : Separator l) : 0 < s.text.length := by
  have := List.length_pos_of_ne_nil s.before_ne_nil
  simp only [text, List.length_append]
  omega

theorem eq_of_stretches (h : s.stretches = s'.stretches) : s = s' := by
  obtain ⟨before, word, after⟩ := s
  simp only [stretches, List.cons.injEq] at h
  obtain ⟨rfl, rfl, rfl, -⟩ := h
  rfl

theorem Stands.stretches_eq (h : s.Stands t front rest) :
    Text.stretches t = Text.stretches front ++ s.stretches ++ Text.stretches rest := by
  rw [h.whole, s.stretches_append h.front_edge h.rest_edge]

theorem stands_of_stretches {xs ys : List Text}
    (h : Text.stretches t = xs ++ s.stretches ++ ys) : s.Stands t xs.flatten ys.flatten where
  whole := by
    rw [← Text.flatten_stretches t, h]
    simp [stretches, text]
  front_edge := by
    have e : Text.stretches t = xs ++ s.before :: s.word :: s.after :: ys := by
      rw [h]
      simp [stretches]
    exact Text.edge_of_stretches_append e s.before_blank
  rest_edge := by
    have e : Text.stretches t = (xs ++ [s.before, s.word]) ++ s.after :: ys := by
      rw [h]
      simp [stretches]
    exact Text.edge_of_stretches_cons e s.after_blank

theorem exists_stands_of_stretches {before word after : Text} {xs ys : List Text}
    (h : Text.stretches t = xs ++ before :: word :: after :: ys)
    (blank : Text.isBlank before = true) (same : Text.sameLetters l.token word = true) :
    ∃ s : Separator l, s.Stands t xs.flatten ys.flatten := by
  have ne : ∀ z ∈ Text.stretches t, z ≠ [] := fun z => Text.ne_nil_of_mem_stretches
  simp only [h, List.forall_mem_append, List.forall_mem_cons] at ne
  obtain ⟨-, before_ne_nil, word_ne_nil, after_ne_nil, -⟩ := ne
  have after_blank : Text.isBlank after = true := by
    have e : Text.stretches t = (xs ++ [before]) ++ word :: after :: ys := by
      rw [h]
      simp
    rw [Text.isBlank_alternates e, Text.isBlank_of_solid word_ne_nil
      (Text.isWhiteSpace_of_sameLetters same l.token_solid)]
    rfl
  let s : Separator l :=
    ⟨before, word, after, before_ne_nil, blank, same, after_ne_nil, after_blank⟩
  exact ⟨s, stands_of_stretches (h.trans (by simp [s, stretches]))⟩

theorem Stands.length_lt (h : s.Stands t front rest) : rest.length < t.length := by
  have := s.length_text_pos
  rw [h.whole, List.length_append, List.length_append]
  omega

theorem Stands.solid (h : s.Stands t front rest) (hf : Text.frontSolid t = true)
    (hb : Text.backSolid t = true) :
    (Text.frontSolid front = true ∧ Text.backSolid front = true) ∧
      Text.frontSolid rest = true ∧ Text.backSolid rest = true := by
  have front_ne_nil : front ≠ [] := by
    rintro rfl
    obtain ⟨c, u, e⟩ := List.exists_cons_of_ne_nil s.before_ne_nil
    have blank := s.before_blank
    rw [h.whole, text, e] at hf
    rw [e] at blank
    simp_all [Text.isBlank]
  have rest_ne_nil : rest ≠ [] := by
    rintro rfl
    rw [h.whole, List.append_nil, text, ← List.append_assoc, Text.backSolid_append _ s.after_ne_nil,
      Text.backSolid_of_isBlank s.after_blank] at hb
    cases hb
  rw [h.whole, List.append_assoc] at hf
  rw [h.whole, Text.backSolid_append _ rest_ne_nil] at hb
  exact ⟨⟨Text.frontSolid_of_append front_ne_nil hf, h.front_edge.resolve_left front_ne_nil⟩,
    h.rest_edge.resolve_left rest_ne_nil, hb⟩

theorem Stands.unique (h : s.Stands t front rest) (h' : s'.Stands t front rest') :
    s = s' ∧ rest = rest' := by
  have e := h.stretches_eq.symm.trans h'.stretches_eq
  rw [List.append_assoc, List.append_assoc, List.append_cancel_left_eq] at e
  obtain ⟨same, behind⟩ := List.append_inj e rfl
  refine ⟨eq_of_stretches same, ?_⟩
  rw [← Text.flatten_stretches rest, behind, Text.flatten_stretches]

theorem exists_stands (h : Occurs l t) :
    ∃ (s : Separator l) (front rest : Text), s.Stands t front rest := by
  obtain ⟨xs, before, word, after, ys, e, blank, same⟩ := h.exists_stretches
  obtain ⟨s, stands⟩ := exists_stands_of_stretches e blank same
  exact ⟨s, _, _, stands⟩

theorem not_occurs_of_none (h : ∀ (s : Separator l) front rest, ¬ s.Stands t front rest) :
    ¬ Occurs l t := by
  intro occurs
  obtain ⟨s, front, rest, stands⟩ := exists_stands occurs
  exact h s front rest stands

/-! ### The leftmost separator -/

theorem Stands.exists_first (h : s.Stands t front rest) :
    ∃ (s' : Separator l) (front' rest' : Text), s'.StandsFirst t front' rest' := by
  classical
  have places : ∃ n, ∃ (s : Separator l) (front rest : Text),
      s.Stands t front rest ∧ front.length = n := ⟨_, s, front, rest, h, rfl⟩
  obtain ⟨s', front', rest', stands, e⟩ := Nat.find_spec places
  refine ⟨s', front', rest', stands, fun s₂ front₂ rest₂ other => ?_⟩
  rw [e]
  exact Nat.find_min' places ⟨s₂, front₂, rest₂, other, rfl⟩

theorem StandsFirst.unique (h : s.StandsFirst t front rest) (h' : s'.StandsFirst t front' rest') :
    front = front' ∧ s = s' ∧ rest = rest' := by
  have lengths : front.length = front'.length :=
    Nat.le_antisymm (h.leftmost _ _ _ h'.toStands) (h'.leftmost _ _ _ h.toStands)
  have e := h.whole.symm.trans h'.whole
  rw [List.append_assoc, List.append_assoc] at e
  obtain rfl := (List.append_inj e lengths).1
  exact ⟨rfl, h.toStands.unique h'.toStands⟩

theorem StandsFirst.not_occurs (h : s.StandsFirst t front rest) : ¬ Occurs l front := by
  intro occurs
  obtain ⟨s', front', rest', inner⟩ := exists_stands occurs
  have e : Text.stretches t = Text.stretches front' ++ s'.stretches ++
      (Text.stretches rest' ++ s.stretches ++ Text.stretches rest) := by
    rw [h.stretches_eq, inner.stretches_eq]
    simp
  have le := h.leftmost _ _ _ (stands_of_stretches e)
  have pos := s'.length_text_pos
  rw [Text.flatten_stretches, inner.whole, List.length_append, List.length_append] at le
  omega

/-- A keyword at the end of what is in front of the leftmost separator has no white space before
it. -/
theorem StandsFirst.endsFree (h : s.StandsFirst t front rest) :
    EndsFree l.token (Text.stretches front) := by
  intro xs before word e blank
  rw [Bool.eq_false_iff]
  intro same
  have e' : Text.stretches t =
      xs ++ before :: word :: s.before :: (s.word :: s.after :: Text.stretches rest) := by
    rw [h.stretches_eq, e]
    simp [stretches]
  obtain ⟨s', stands⟩ := exists_stands_of_stretches e' blank same
  have le := h.leftmost _ _ _ stands
  have pos := List.length_pos_of_ne_nil
    (Text.ne_nil_of_mem_stretches (t := front) (s := before) (by simp [e]))
  rw [← Text.flatten_stretches front, e, List.flatten_append, List.length_append, List.flatten_cons,
    List.length_append] at le
  omega

/-- **One step of a cut.**  The first part ends at the leftmost separator and the others are those
of the text behind it. -/
theorem StandsFirst.cutAtKeyword_eq (h : s.StandsFirst t front rest) :
    cutAtKeyword l.token t = front :: cutAtKeyword l.token rest := by
  have whole := cutAtKeyword_eq_singleton_iff.mp (cutAtKeyword_eq_self_iff.mpr h.not_occurs)
  rw [cutAtKeyword, h.stretches_eq, cutStretches_separator s h.endsFree, whole, List.map_append,
    List.map_singleton, Text.flatten_stretches]
  rfl

end Separator

/-! ### Cuts -/

namespace LeftmostCut

variable {parts parts' : List Text} {separators separators' : List (Separator l)}

theorem exists_cut (l : Logic) (t : Text) :
    ∃ parts separators, LeftmostCut l t parts separators := by
  induction n : t.length using Nat.strong_induction_on generalizing t with
  | _ n ih =>
      by_cases found : ∃ (s : Separator l) (front rest : Text), s.Stands t front rest
      · obtain ⟨_, _, _, stands⟩ := found
        obtain ⟨s, front, rest, first⟩ := stands.exists_first
        obtain ⟨parts, separators, behind⟩ := ih rest.length (n ▸ first.length_lt) rest rfl
        exact ⟨_, _, .cut first behind⟩
      · exact ⟨_, _, .last fun s front rest stands => found ⟨s, front, rest, stands⟩⟩

theorem unique (h : LeftmostCut l t parts separators) (h' : LeftmostCut l t parts' separators') :
    parts' = parts ∧ separators' = separators := by
  induction h generalizing parts' separators' with
  | last none_left =>
      cases h' with
      | last _ => exact ⟨rfl, rfl⟩
      | cut first _ => exact absurd first.toStands (none_left _ _ _)
  | cut first _ ih =>
      cases h' with
      | last none_left => exact absurd first.toStands (none_left _ _ _)
      | cut first' behind' =>
          obtain ⟨rfl, rfl, rfl⟩ := first.unique first'
          obtain ⟨rfl, rfl⟩ := ih behind'
          exact ⟨rfl, rfl⟩

theorem cutAtKeyword_eq (h : LeftmostCut l t parts separators) :
    cutAtKeyword l.token t = parts := by
  induction h with
  | last none_left => exact cutAtKeyword_eq_self_iff.mpr (Separator.not_occurs_of_none none_left)
  | cut first _ ih => rw [first.cutAtKeyword_eq, ih]

theorem length_eq (h : LeftmostCut l t parts separators) :
    parts.length = separators.length + 1 := by
  induction h with
  | last _ => rfl
  | cut _ _ ih => rw [List.length_cons, List.length_cons, ih]

theorem interleave_eq (h : LeftmostCut l t parts separators) : interleave parts separators = t := by
  induction h with
  | last _ => simp [interleave]
  | cut first _ ih => rw [interleave, ih, first.whole]

theorem not_occurs (h : LeftmostCut l t parts separators) : ∀ p ∈ parts, ¬ Occurs l p := by
  induction h with
  | last none_left => exact List.forall_mem_singleton.mpr (Separator.not_occurs_of_none none_left)
  | cut first _ ih => exact List.forall_mem_cons.mpr ⟨first.not_occurs, ih⟩

theorem solid (h : LeftmostCut l t parts separators) (hf : Text.frontSolid t = true)
    (hb : Text.backSolid t = true) :
    ∀ p ∈ parts, Text.frontSolid p = true ∧ Text.backSolid p = true := by
  induction h with
  | last _ => exact List.forall_mem_singleton.mpr ⟨hf, hb⟩
  | cut first _ ih =>
      obtain ⟨front, hf', hb'⟩ := first.solid hf hb
      exact List.forall_mem_cons.mpr ⟨front, ih hf' hb'⟩

end LeftmostCut

/-- **Cutting at a keyword is cutting at the leftmost separator again and again.**  The parts are
those of the only such cut, and the scan by offsets finds them too.  With the separators between
them the parts give the text back; none of them is cut again; and a text that is not empty and has
no white space around it has such parts only. -/
theorem cutAtKeyword_leftmost (l : Logic) (t : Text) :
    ∃ parts separators, cutAtKeyword l.token t = parts ∧
      Text.splitAtKeyword l.token t = .ok parts ∧
      (∀ parts' separators', LeftmostCut l t parts' separators' ↔
        parts' = parts ∧ separators' = separators) ∧
      parts.length = separators.length + 1 ∧ interleave parts separators = t ∧
      (∀ p ∈ parts, cutAtKeyword l.token p = [p]) ∧
      (t ≠ [] → Text.trim t = t → ∀ p ∈ parts, p ≠ [] ∧ Text.trim p = p) := by
  obtain ⟨parts, separators, cut⟩ := LeftmostCut.exists_cut l t
  refine ⟨parts, separators, cut.cutAtKeyword_eq, ?_, fun parts' separators' => ⟨cut.unique, ?_⟩,
    cut.length_eq, cut.interleave_eq, ?_, ?_⟩
  · rw [Text.splitAtKeyword_eq, cut.cutAtKeyword_eq]
  · rintro ⟨rfl, rfl⟩
    exact cut
  · exact fun p mem => cutAtKeyword_eq_self_iff.mpr (cut.not_occurs p mem)
  · intro ne trimmed p mem
    obtain ⟨front, back⟩ := (Text.trim_eq_self_iff ne).mp trimmed
    have solid := cut.solid front back p mem
    have p_ne := Text.ne_nil_of_backSolid solid.2
    exact ⟨p_ne, (Text.trim_eq_self_iff p_ne).mpr solid⟩

/-- The second of two keywords in a row stands in a part, and white space of several bytes goes with
the separator. -/
theorem cutAtKeyword_leftmost_twice :
    ∃ separators, LeftmostCut .and "x AND AND y and\u3000z".toList
        ["x".toList, "AND y".toList, "z".toList] separators ∧
      ∀ p ∈ ["x".toList, "AND y".toList, "z".toList], p ≠ [] ∧ Text.trim p = p := by
  obtain ⟨parts, separators, e, -, cuts, -, -, -, trimmed⟩ :=
    cutAtKeyword_leftmost .and "x AND AND y and\u3000z".toList
  have cut : cutAtKeyword Logic.and.token "x AND AND y and\u3000z".toList =
      ["x".toList, "AND y".toList, "z".toList] := by decide +kernel
  obtain rfl : parts = ["x".toList, "AND y".toList, "z".toList] := e.symm.trans cut
  exact ⟨separators, (cuts _ _).mpr ⟨rfl, rfl⟩, trimmed (by decide +kernel) (by decide +kernel)⟩

end Clause

end Tabular
