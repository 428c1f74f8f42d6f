import Mathlib.Tactic.Common
import Tabular.Unicode.LowerCase

/-! # Lower-casing a part of a text

The lower-case form of one character alone depends on what stands around it: `Σ` becomes `ς` where
it ends a word.  So a text has a form of its own between any two others (`lowerCaseWithin`), of which
the lower-case form of the whole is put together (`lowerCase_append_append`).  All forms of a text
have one length, and two of them are the same exactly if every `Σ` of the text ends a word in both or
in none (`lowerCaseWithin_eq_iff`).

A text is `Settled` if every `Σ` in it has so much of its word beside it that it is known to end the
word or not to.  The form of such a text does not depend on what stands around it
(`Settled.keepsCase`), and that of any other text does (`not_keepsCase_of_not_settled`). -/

namespace Tabular.Unicode

/-- Whether a `Σ` between two texts ends a word: there is a letter before it and none behind it. -/
def endsWord (front back : Text) : Bool :=
  meetsCased front.reverse && !meetsCased back

/-- The lower-case form of a character between two texts. -/
def lowerCaseAt (front : Text) (c : Char) (back : Text) : Text :=
  if c = 'Σ' then [if endsWord front back then 'ς' else 'σ'] else lowerCaseChar c

/-- The lower-case form of a text between two others. -/
def lowerCaseWithin (front : Text) : (t back : Text) → Text
  | [], _ => []
  | c :: t, back => lowerCaseAt front c (t ++ back) ++ lowerCaseWithin (front ++ [c]) t back

variable {front front' back back' a b d t u w : Text}

/-! ### The whole and its parts -/

theorem lowerCaseAfter_eq (passed t : Text) :
    lowerCaseAfter passed t = lowerCaseWithin passed.reverse t [] := by
  induction t generalizing passed with
  | nil => rfl
  | cons c t ih =>
      rw [lowerCaseAfter, lowerCaseWithin, ih, List.reverse_cons, lowerCaseAt, endsWord,
        List.reverse_reverse, List.append_nil]

theorem lowerCase_eq (t : Text) : lowerCase t = lowerCaseWithin [] t [] :=
  lowerCaseAfter_eq [] t

theorem lowerCaseWithin_append (front t u back : Text) :
    lowerCaseWithin front (t ++ u) back =
      lowerCaseWithin front t (u ++ back) ++ lowerCaseWithin (front ++ t) u back := by
  induction t generalizing front with
  | nil => rw [List.append_nil]; rfl
  | cons c t ih =>
      rw [List.cons_append, lowerCaseWithin, lowerCaseWithin, ih]
      simp only [List.append_assoc, List.singleton_append]

/-- The lower-case form of a text between two others stands in that of the whole. -/
theorem lowerCase_append_append (a b d : Text) :
    lowerCase (a ++ b ++ d) =
      lowerCaseWithin [] a (b ++ d) ++ lowerCaseWithin a b d ++ lowerCaseWithin (a ++ b) d [] := by
  rw [lowerCase_eq, lowerCaseWithin_append, lowerCaseWithin_append, List.append_nil,
    List.nil_append, List.nil_append]

theorem length_lowerCaseAt (front front' : Text) (c : Char) (back back' : Text) :
    (lowerCaseAt front c back).length = (lowerCaseAt front' c back').length := by
  unfold lowerCaseAt
  split <;> rfl

theorem length_lowerCaseWithin (front front' t back back' : Text) :
    (lowerCaseWithin front t back).length = (lowerCaseWithin front' t back').length := by
  induction t generalizing front front' with
  | nil => rfl
  | cons c t ih =>
      rw [lowerCaseWithin, lowerCaseWithin, List.length_append, List.length_append,
        length_lowerCaseAt, ih]

theorem lowerCaseAt_eq_iff {c : Char} :
    lowerCaseAt front c back = lowerCaseAt front' c back' ↔
      (c = 'Σ' → endsWord front back = endsWord front' back') := by
  unfold lowerCaseAt
  by_cases sigma : c = 'Σ'
  · rw [if_pos sigma, if_pos sigma]
    cases endsWord front back <;> cases endsWord front' back' <;> simp [sigma]
  · rw [if_neg sigma, if_neg sigma]
    exact ⟨fun _ h => absurd h sigma, fun _ => rfl⟩

/-- Two forms of a text are the same exactly if every `Σ` ends a word in both or in none. -/
theorem lowerCaseWithin_eq_iff :
    lowerCaseWithin front t back = lowerCaseWithin front' t back' ↔
      ∀ u w, t = u ++ 'Σ' :: w →
        endsWord (front ++ u) (w ++ back) = endsWord (front' ++ u) (w ++ back') := by
  induction t generalizing front front' with
  | nil =>
      constructor
      · intro _ u w e
        simp at e
      · intro _
        rfl
  | cons c t ih =>
      rw [lowerCaseWithin, lowerCaseWithin]
      constructor
      · intro same u w e
        obtain ⟨here, rest⟩ := List.append_inj same (length_lowerCaseAt ..)
        cases u with
        | nil =>
            obtain ⟨rfl, rfl⟩ := List.cons.inj e
            rw [List.append_nil, List.append_nil]
            exact lowerCaseAt_eq_iff.mp here rfl
        | cons x u =>
            obtain ⟨rfl, rfl⟩ := List.cons.inj e
            have later := ih.mp rest u w rfl
            simpa only [List.append_assoc, List.singleton_append] using later
      · intro each
        have here : lowerCaseAt front c (t ++ back) = lowerCaseAt front' c (t ++ back') := by
          refine lowerCaseAt_eq_iff.mpr fun sigma => ?_
          simpa only [List.append_nil] using each [] t (by rw [sigma]; rfl)
        have rest : lowerCaseWithin (front ++ [c]) t back =
            lowerCaseWithin (front' ++ [c]) t back' := by
          refine ih.mpr fun u w e => ?_
          simpa only [List.append_assoc, List.singleton_append] using
            each (c :: u) w (by rw [e]; rfl)
        rw [here, rest]

/-! ### Texts that keep their form -/

/-- Whether every `Σ` of a text between two others ends a word exactly if it does so in the text
alone. -/
def KeepsCase (a b d : Text) : Prop :=
  ∀ u w, b = u ++ 'Σ' :: w → endsWord (a ++ u) (w ++ d) = endsWord u w

theorem lowerCaseWithin_eq_lowerCase_iff :
    lowerCaseWithin a b d = lowerCase b ↔ KeepsCase a b d := by
  rw [lowerCase_eq, lowerCaseWithin_eq_iff]
  simp only [KeepsCase, List.append_nil, List.nil_append]

/-- Whether there is a character in a text that is not passed over. -/
def bears (t : Text) : Bool :=
  t.any fun c => !isCaseIgnorable c

/-- What is behind a text counts only if all of the text is passed over. -/
theorem meetsCased_append (t u : Text) :
    meetsCased (t ++ u) = if bears t then meetsCased t else meetsCased u := by
  induction t with
  | nil => rfl
  | cons c t ih =>
      by_cases ignorable : isCaseIgnorable c = true
      · have skip : ∀ s, meetsCased (c :: s) = meetsCased s := fun s => by
          rw [meetsCased, List.dropWhile_cons_of_pos ignorable, meetsCased]
        have rest : bears (c :: t) = bears t := by
          simp [bears, ignorable]
        rw [List.cons_append, skip, skip, ih, rest]
      · have stop : ∀ s, meetsCased (c :: s) = isCased c := fun s => by
          rw [meetsCased, List.dropWhile_cons_of_neg ignorable]
          rfl
        have first : bears (c :: t) = true := by
          simp [bears, ignorable]
        rw [List.cons_append, stop, stop, first, if_pos rfl]

theorem bears_of_meetsCased (h : meetsCased t = true) : bears t = true := by
  have same := meetsCased_append t []
  rw [List.append_nil, h] at same
  by_contra nothing
  rw [if_neg nothing] at same
  cases same

theorem bears_reverse (t : Text) : bears t.reverse = bears t :=
  List.any_reverse

/-- Whether it is known of every `Σ` in a text if it ends a word, whatever stands around the text:
a letter follows it, or what is before it is no letter, or a letter is before it and what follows is
no letter. -/
def Settled (b : Text) : Prop :=
  ∀ u w, b = u ++ 'Σ' :: w →
    meetsCased w = true ∨ bears u = true ∧ (meetsCased u.reverse = false ∨ bears w = true)

theorem settled_of_notMem (h : 'Σ' ∉ b) : Settled b := by
  intro u w e
  exact absurd (by rw [e]; simp) h

theorem endsWord_append (a u w d : Text) :
    endsWord (a ++ u) (w ++ d) =
      ((if bears u then meetsCased u.reverse else meetsCased a.reverse) &&
        !(if bears w then meetsCased w else meetsCased d)) := by
  rw [endsWord, List.reverse_append, meetsCased_append, meetsCased_append, bears_reverse]

theorem Settled.keepsCase (h : Settled b) (a d : Text) : KeepsCase a b d := by
  intro u w e
  rw [endsWord_append, endsWord]
  rcases h u w e with letter | ⟨before, noLetter | after⟩
  · rw [if_pos (bears_of_meetsCased letter), letter, Bool.not_true, Bool.and_false, Bool.and_false]
  · rw [if_pos before, noLetter, Bool.false_and, Bool.false_and]
  · rw [if_pos before, if_pos after]

/-- A text that is not settled has another form behind any letter, or in front of any letter. -/
theorem not_keepsCase_of_not_settled (h : ¬ Settled b) :
    (∀ x, meetsCased [x] = true → ¬ KeepsCase [x] b []) ∨
      ∀ x, meetsCased [x] = true → ¬ KeepsCase [] b [x] := by
  unfold Settled at h
  push Not at h
  obtain ⟨u, w, rfl, nothing, unknown⟩ := h
  rw [Ne, Bool.not_eq_true] at nothing
  by_cases before : bears u = true
  · -- The letter takes the place of what follows.
    obtain ⟨ends, after⟩ := unknown before
    rw [Ne, Bool.not_eq_false] at ends
    refine .inr fun x letter keeps => ?_
    have same := keeps u w rfl
    rw [endsWord_append, if_pos before, if_neg after, endsWord, nothing, letter, ends] at same
    exact absurd same (by decide)
  · -- The letter takes the place of what is before.
    have front : meetsCased u.reverse = false := by
      rw [Bool.eq_false_iff]
      intro met
      rw [← bears_reverse] at before
      exact before (bears_of_meetsCased met)
    have behind : (if bears w then meetsCased w else meetsCased []) = false := by
      rw [nothing]
      exact ite_self _
    refine .inl fun x letter keeps => ?_
    have same := keeps u w rfl
    rw [endsWord_append, if_neg before, behind, endsWord, nothing, front, List.reverse_singleton,
      letter] at same
    exact absurd same (by decide)

end Tabular.Unicode
