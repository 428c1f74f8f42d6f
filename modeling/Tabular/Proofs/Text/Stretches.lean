import Mathlib.Data.List.DropRight
import Mathlib.Data.List.SplitBy
import Tabular.Proofs.Text.Edges

/-! # The stretches of a text

`Text.stretches` is the library's `List.splitBy` for the relation of being both white space or both
not (`stretches_eq_splitBy`), so the stretches of a text are not empty, give the text back
(`flatten_stretches`) and are the only cut of it into stretches of alternating kinds.  The main
statements say how stretches go with `++`: the stretches of two texts stand side by side unless the
edge between them lies within a stretch (`stretches_append`), and any consecutive stretches of a
text are the stretches of what they make together (`stretches_flatten_of_isInfix`). -/

namespace Tabular.Text

open Unicode

/-- Characters of one kind: both white space, or neither. -/
def sameKind (c d : Char) : Bool :=
  isWhiteSpace c == isWhiteSpace d

theorem sameKind_eq_false {c d : Char} (hc : isWhiteSpace c = true) (hd : isWhiteSpace d = false) :
    sameKind c d = false ∧ sameKind d c = false := by
  simp [sameKind, hc, hd]

theorem stretches_eq_splitBy (t : Text) : stretches t = t.splitBy sameKind := by
  induction t with
  | nil => rfl
  | cons c t ih =>
      have flat := List.flatten_splitBy sameKind t
      have full := List.nil_notMem_splitBy sameKind t
      have inner := fun s (h : s ∈ t.splitBy sameKind) => List.isChain_of_mem_splitBy h
      have outer := List.isChain_getLast_head_splitBy sameKind t
      symm
      rw [List.splitBy_eq_iff, stretches, ih]
      split
      · rename_i d s rest e
        rw [e] at flat full inner outer
        split
        · rename_i h
          refine ⟨by simp [← flat], by simpa using full, ?_, ?_⟩
          · intro m hm
            rcases List.mem_cons.mp hm with rfl | hm
            · exact List.isChain_cons_cons.mpr ⟨by simp [sameKind, h], inner _ List.mem_cons_self⟩
            · exact inner m (List.mem_cons_of_mem _ hm)
          · rw [List.isChain_cons] at outer ⊢
            refine ⟨fun m hm => ?_, outer.2⟩
            obtain ⟨_, hm', hr⟩ := outer.1 m hm
            exact ⟨List.cons_ne_nil _ _, hm', by simpa using hr⟩
        · rename_i h
          refine ⟨by simp [← flat], by simpa using full, ?_, ?_⟩
          · intro m hm
            rcases List.mem_cons.mp hm with rfl | hm
            · exact List.isChain_singleton _
            · exact inner m hm
          · have apart : sameKind c d = false := by simpa [sameKind] using h
            exact List.isChain_cons_cons.mpr ⟨⟨by simp, by simp, by simpa using apart⟩, outer⟩
      · rename_i rest h
        cases e : t.splitBy sameKind with
        | nil =>
            have : t = [] := List.splitBy_eq_nil.mp e
            subst this
            simp
        | cons m rest =>
            cases m with
            | nil => exact absurd (e ▸ List.mem_cons_self) full
            | cons d s => exact absurd e (h d s rest)

theorem stretches_append {a b : Text}
    (h : ∀ c ∈ a.getLast?, ∀ d ∈ b.head?, sameKind c d = false) :
    stretches (a ++ b) = stretches a ++ stretches b := by
  simp only [stretches_eq_splitBy]
  exact List.splitBy_append h

theorem flatten_stretches (t : Text) : (stretches t).flatten = t := by
  rw [stretches_eq_splitBy, List.flatten_splitBy]

theorem ne_nil_of_mem_stretches {t s : Text} (h : s ∈ stretches t) : s ≠ [] := by
  rw [stretches_eq_splitBy] at h
  exact List.ne_nil_of_mem_splitBy h

theorem stretches_of_uniform {t : Text} (h : t ≠ []) {k : Bool}
    (hk : ∀ c ∈ t, isWhiteSpace c = k) : stretches t = [t] := by
  rw [stretches_eq_splitBy]
  refine List.splitBy_of_isChain h (List.Pairwise.isChain ?_)
  refine List.pairwise_of_forall_mem_list fun c hc d hd => ?_
  simp [sameKind, hk c hc, hk d hd]

theorem stretches_append_gap {a w : Text} (ha : a = [] ∨ backSolid a = true) (ne : w ≠ [])
    (h : isBlank w = true) (b : Text) :
    stretches (a ++ (w ++ b)) = stretches a ++ stretches (w ++ b) := by
  rcases ha with rfl | ha
  · rfl
  refine stretches_append fun c hc d hd => (sameKind_eq_false ?_ ?_).2
  · obtain ⟨e, u, rfl⟩ := List.exists_cons_of_ne_nil ne
    simp_all [isBlank]
  · rw [Option.mem_def] at hc
    simpa [backSolid, hc] using ha

theorem stretches_gap_append {w b : Text} (ne : w ≠ []) (h : isBlank w = true)
    (hb : b = [] ∨ frontSolid b = true) : stretches (w ++ b) = w :: stretches b := by
  have blank : ∀ c ∈ w, isWhiteSpace c = true := by simpa [isBlank] using h
  rcases hb with rfl | hb
  · rw [List.append_nil, stretches_of_uniform ne blank, stretches]
  rw [stretches_append, stretches_of_uniform ne blank, List.singleton_append]
  intro c hc d hd
  refine (sameKind_eq_false (blank c (List.mem_of_mem_getLast? hc)) ?_).1
  rw [Option.mem_def] at hd
  simpa [frontSolid, hd] using hb

theorem exists_stretches_word_append {word : Text} (ne : word ≠ [])
    (solid : ∀ c ∈ word, isWhiteSpace c = false) (u : Text) :
    ∃ v u', isBlank (word ++ v) = false ∧
      stretches (word ++ u) = (word ++ v) :: stretches u' := by
  let v := u.takeWhile fun c => !isWhiteSpace c
  let u' := u.dropWhile fun c => !isWhiteSpace c
  have whole : v ++ u' = u := List.takeWhile_append_dropWhile
  have ne' : word ++ v ≠ [] := List.append_ne_nil_of_left_ne_nil ne v
  have solid' : ∀ c ∈ word ++ v, isWhiteSpace c = false := by
    intro c mem
    rcases List.mem_append.mp mem with mem | mem
    · exact solid c mem
    · simpa using List.mem_takeWhile_imp mem
  refine ⟨v, u', isBlank_of_solid ne' solid', ?_⟩
  rw [← whole, ← List.append_assoc, stretches_append, stretches_of_uniform ne' solid',
    List.singleton_append]
  intro c hc d hd
  have white := List.head?_dropWhile_not (fun c => !isWhiteSpace c) u
  rw [Option.mem_def.mp hd] at white
  exact (sameKind_eq_false (by simpa using white) (solid' c (List.mem_of_mem_getLast? hc))).2

theorem exists_stretches_append_word {word : Text} (ne : word ≠ [])
    (solid : ∀ c ∈ word, isWhiteSpace c = false) (u : Text) :
    ∃ u' v, (∀ c ∈ u'.getLast?, isWhiteSpace c = true) ∧
      stretches (u ++ word) = stretches u' ++ [v ++ word] := by
  let v := u.rtakeWhile fun c => !isWhiteSpace c
  let u' := u.rdropWhile fun c => !isWhiteSpace c
  have whole : u' ++ v = u := List.rdropWhile_append_rtakeWhile
  have ne' : v ++ word ≠ [] := List.append_ne_nil_of_right_ne_nil v ne
  have solid' : ∀ c ∈ v ++ word, isWhiteSpace c = false := by
    intro c mem
    rcases List.mem_append.mp mem with mem | mem
    · simpa using List.mem_rtakeWhile_imp mem
    · exact solid c mem
  have white : ∀ c ∈ u'.getLast?, isWhiteSpace c = true := by
    intro c last
    have some_left : u' ≠ [] := fun nil => by
      rw [nil] at last
      cases last
    rw [← List.getLast_of_mem_getLast? last]
    simpa using List.rdropWhile_last_not _ u some_left
  refine ⟨u', v, white, ?_⟩
  rw [← whole, List.append_assoc, stretches_append, stretches_of_uniform ne' solid']
  exact fun c hc d hd =>
    (sameKind_eq_false (white c hc) (solid' d (List.mem_of_mem_head? hd))).1

/-- Stretches that follow each other in a text are the stretches of what they make together. -/
theorem stretches_flatten_of_isInfix {xs : List Text} {t : Text} (h : xs <:+: stretches t) :
    stretches xs.flatten = xs := by
  rw [stretches_eq_splitBy] at h ⊢
  refine List.splitBy_flatten ?_ ?_ ?_
  · exact fun hn => List.nil_notMem_splitBy sameKind t (h.subset hn)
  · exact fun s hs => List.isChain_of_mem_splitBy (h.subset hs)
  · exact List.IsChain.infix (List.isChain_getLast_head_splitBy sameKind t) h

/-- The relation of being both white space or both not carries over. -/
instance : Trans (sameKind · ·) (sameKind · ·) (sameKind · ·) where
  trans h h' := by
    simp only [sameKind, beq_iff_eq] at h h' ⊢
    exact h.trans h'

instance : Std.Symm (sameKind · ·) where
  symm _ _ h := by
    simp only [sameKind, beq_iff_eq] at h ⊢
    exact h.symm

theorem isBlank_of_mem_stretches {t s : Text} (h : s ∈ stretches t) {c : Char} (hc : c ∈ s) :
    isBlank s = isWhiteSpace c := by
  rw [stretches_eq_splitBy] at h
  have pairs := List.isChain_iff_pairwise.mp (List.isChain_of_mem_splitBy h)
  have same : ∀ d ∈ s, isWhiteSpace d = isWhiteSpace c := fun d hd => by
    have kind := pairs.forall_of_forall (fun x _ => by simp [sameKind]) hd hc
    simpa [sameKind] using kind
  cases e : isWhiteSpace c with
  | true => simpa [isBlank, e] using same
  | false =>
      rw [isBlank, List.all_eq_false]
      exact ⟨c, hc, by simp [e]⟩

/-- A stretch is followed by one of the other kind. -/
theorem isBlank_alternates {t s s' : Text} {front rest : List Text}
    (h : stretches t = front ++ s :: s' :: rest) : isBlank s' = !isBlank s := by
  have outer := List.isChain_getLast_head_splitBy sameKind t
  rw [← stretches_eq_splitBy, h] at outer
  obtain ⟨hs, hs', other⟩ := (List.isChain_append_cons_cons.mp outer).2.1
  rw [isBlank_of_mem_stretches (t := t) (by simp [h]) (List.getLast_mem hs),
    isBlank_of_mem_stretches (t := t) (by simp [h]) (List.head_mem hs')]
  cases e : isWhiteSpace (s.getLast hs) <;> cases e' : isWhiteSpace (s'.head hs') <;>
    simp_all [sameKind]

theorem edge_of_stretches_append {t w : Text} {front rest : List Text}
    (h : stretches t = front ++ w :: rest) (blank : isBlank w = true) :
    front.flatten = [] ∨ backSolid front.flatten = true := by
  rcases List.eq_nil_or_concat' front with rfl | ⟨front, s, rfl⟩
  · exact .inl rfl
  have mem : s ∈ stretches t := by simp [h]
  rw [List.append_assoc, List.singleton_append] at h
  rw [isBlank_alternates h, Bool.not_eq_true'] at blank
  obtain ⟨u, c, rfl⟩ := (List.eq_nil_or_concat' s).resolve_left (ne_nil_of_mem_stretches mem)
  right
  rw [List.flatten_append, List.flatten_singleton, ← List.append_assoc, backSolid_concat,
    ← isBlank_of_mem_stretches mem (by simp), blank]
  rfl

theorem edge_of_stretches_cons {t w : Text} {front rest : List Text}
    (h : stretches t = front ++ w :: rest) (blank : isBlank w = true) :
    rest.flatten = [] ∨ frontSolid rest.flatten = true := by
  cases rest with
  | nil => exact .inl rfl
  | cons s rest =>
      have mem : s ∈ stretches t := by simp [h]
      obtain ⟨c, v, rfl⟩ := List.exists_cons_of_ne_nil (ne_nil_of_mem_stretches mem)
      right
      rw [List.flatten_cons, List.cons_append, frontSolid_cons,
        ← isBlank_of_mem_stretches mem List.mem_cons_self, isBlank_alternates h, blank]
      rfl

/-! ### Keywords among the stretches -/

theorem closesWith_of_stretches {keyword t s word : Text} {front : List Text}
    (h : stretches t = front ++ [s, word]) (hs : isBlank s = true)
    (hw : sameLetters keyword word = true) : closesWith keyword t = true := by
  have ne : s ≠ [] := ne_nil_of_mem_stretches (t := t) (by simp [h])
  obtain ⟨u, c, rfl⟩ := (List.eq_nil_or_concat' s).resolve_left ne
  refine closesWith_iff.mpr ⟨front.flatten ++ u, c, word, ?_, hw, ?_⟩
  · simp_all [isBlank]
  · rw [← flatten_stretches t, h]
    simp

theorem opensWith_of_stretches {keyword t word s : Text} {rest : List Text}
    (solid : ∀ c ∈ keyword, isWhiteSpace c = false) (h : stretches t = word :: s :: rest)
    (hw : sameLetters keyword word = true) : opensWith keyword t = true := by
  have hword : word ≠ [] := ne_nil_of_mem_stretches (t := t) (by simp [h])
  have hs : s ≠ [] := ne_nil_of_mem_stretches (t := t) (by simp [h])
  have first : stretches t = [] ++ word :: s :: rest := h
  have blank := isBlank_alternates first
  rw [isBlank_of_solid hword (isWhiteSpace_of_sameLetters hw solid)] at blank
  obtain ⟨d, u, rfl⟩ := List.exists_cons_of_ne_nil hs
  refine opensWith_iff.mpr ⟨word, d, u ++ rest.flatten, hw, ?_, ?_⟩
  · exact List.all_eq_true.mp blank d List.mem_cons_self
  · rw [← flatten_stretches t, h]
    simp

end Tabular.Text
