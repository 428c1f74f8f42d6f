import Tabular.Proofs.Text.Stretches

/-! # The pieces and the words of a text

A text is cut into pieces wherever a character stands, so putting two texts together with the
character between them puts their pieces side by side (`cutAt_append`), and pieces without the
character that are joined by it are cut again into themselves (`cutAt_joinWith`).

The words of a text are its stretches that are not white space; together they are what is left of
the text without its white space (`flatten_words`), and so are any words with blanks between them
(`solidPart_joinWith`). -/

namespace Tabular.Text

/-! ### Cutting at a character -/

section pieces

variable {sep : Char}

theorem cutAt_ne_nil (sep : Char) (t : Text) : cutAt sep t ≠ [] := by
  cases t with
  | nil => exact List.cons_ne_nil _ _
  | cons c t =>
      rw [cutAt]
      split
      · exact List.cons_ne_nil _ _
      · split <;> exact List.cons_ne_nil _ _

theorem getLast?_of_cutAt {t : Text} (h : (cutAt sep t).getLast? = some []) :
    t = [] ∨ t.getLast? = some sep := by
  induction t with
  | nil => exact .inl rfl
  | cons c t ih =>
      refine .inr ?_
      rw [cutAt] at h
      split at h
      · rename_i same
        rw [List.getLast?_cons_of_ne_nil (cutAt_ne_nil sep t)] at h
        rcases ih h with rfl | last
        · rw [same]
          rfl
        · cases t with
          | nil => cases last
          | cons d t => exact last
      · split at h
        · cases h
        · rename_i piece pieces e
          cases pieces with
          | nil => cases h
          | cons piece' pieces =>
              rw [e] at ih
              rcases ih h with rfl | last
              · cases e
              · cases t with
                | nil => cases last
                | cons d t => exact last

theorem cutAt_of_notMem {t : Text} (h : sep ∉ t) : cutAt sep t = [t] := by
  induction t with
  | nil => rfl
  | cons c t ih =>
      rw [List.mem_cons, not_or] at h
      rw [cutAt, if_neg (Ne.symm h.1), ih h.2]

theorem cutAt_append (t u : Text) :
    cutAt sep (t ++ sep :: u) = cutAt sep t ++ cutAt sep u := by
  induction t with
  | nil => exact if_pos rfl
  | cons c t ih =>
      rw [List.cons_append, cutAt, cutAt, ih]
      split
      · rfl
      · obtain ⟨piece, pieces, e⟩ := List.exists_cons_of_ne_nil (cutAt_ne_nil sep t)
        rw [e]
        rfl

/-- Pieces without a separator in them that are joined by it are cut again into themselves. -/
theorem cutAt_joinWith {pieces : List Text} (ne : pieces ≠ [])
    (plain : ∀ piece ∈ pieces, sep ∉ piece) : cutAt sep (joinWith [sep] pieces) = pieces := by
  induction pieces with
  | nil => exact absurd rfl ne
  | cons piece pieces ih =>
      obtain ⟨first, others⟩ := List.forall_mem_cons.mp plain
      cases pieces with
      | nil => exact cutAt_of_notMem first
      | cons piece' pieces =>
          rw [joinWith, List.append_assoc, List.singleton_append, cutAt_append,
            cutAt_of_notMem first, ih (List.cons_ne_nil _ _) others, List.singleton_append]
          exact List.cons_ne_nil _ _

end pieces

open Unicode

/-! ### The characters that are not white space -/

/-- A text without its white space. -/
def solidPart (t : Text) : Text :=
  t.filter fun c => !isWhiteSpace c

theorem solidPart_append (s t : Text) : solidPart (s ++ t) = solidPart s ++ solidPart t :=
  List.filter_append _ _

theorem solidPart_eq_self {t : Text} (h : ∀ c ∈ t, isWhiteSpace c = false) : solidPart t = t :=
  List.filter_eq_self.mpr fun c hc => by rw [h c hc]; rfl

theorem solidPart_eq_nil_iff {t : Text} : solidPart t = [] ↔ isBlank t = true := by
  simp [solidPart, isBlank]

theorem length_solidPart_of_sameLetters {s t : Text} (same : sameLetters s t = true) :
    (solidPart s).length = (solidPart t).length := by
  have upper : ∀ u : Text, solidPart (u.map Char.toUpper) = (solidPart u).map Char.toUpper := by
    intro u
    rw [solidPart, List.filter_map]
    exact congrArg (List.map _) (List.filter_congr fun c _ => by simp [isWhiteSpace_toUpper])
  have e := congrArg solidPart (sameLetters_iff.mp same)
  rw [upper, upper] at e
  simpa using congrArg List.length e

theorem eq_nil_of_solidPart {a m : Text} (back : backSolid (a ++ m) = true)
    (same : (solidPart (a ++ m)).length = (solidPart a).length) : m = [] := by
  by_contra ne
  rw [solidPart_append, List.length_append] at same
  have blank : isBlank m = true :=
    solidPart_eq_nil_iff.mp (List.length_eq_zero_iff.mp (by omega))
  rw [backSolid_append _ ne, backSolid_of_isBlank blank] at back
  cases back

/-! ### Words -/

/-- The words of a text are what is not white space in it. -/
theorem flatten_words (t : Text) : (words t).flatten = solidPart t := by
  have each : ∀ ss : List Text, (∀ s ∈ ss, ∀ c ∈ s, isBlank s = isWhiteSpace c) →
      (ss.filter fun s => !isBlank s).flatten = solidPart ss.flatten := by
    intro ss kinds
    induction ss with
    | nil => rfl
    | cons s ss ih =>
        obtain ⟨kind, kinds⟩ := List.forall_mem_cons.mp kinds
        rw [List.flatten_cons, solidPart_append, ← ih kinds]
        cases blank : isBlank s with
        | true =>
            rw [List.filter_cons_of_neg (by simp [blank]), solidPart_eq_nil_iff.mpr blank]
            rfl
        | false =>
            rw [List.filter_cons_of_pos (by simp [blank]), List.flatten_cons,
              solidPart_eq_self fun c hc => by rw [← kind c hc, blank]]
  rw [words, each _ fun s hs c hc => isBlank_of_mem_stretches hs hc, flatten_stretches]

theorem joinWith_cons_cons (sep w w' : Text) (ws : List Text) :
    joinWith sep (w :: w' :: ws) = w ++ sep ++ joinWith sep (w' :: ws) := rfl

theorem solidPart_joinWith (ws : List Text) :
    solidPart (joinWith [' '] ws) = solidPart ws.flatten := by
  induction ws with
  | nil => rfl
  | cons w ws ih =>
      cases ws with
      | nil => simp [joinWith]
      | cons w' ws =>
          have blank : solidPart [' '] = [] := rfl
          rw [joinWith_cons_cons, solidPart_append, solidPart_append, ih, blank, List.append_nil,
            ← solidPart_append, ← List.flatten_cons]

theorem space_mem_joinWith (w : Text) {ws : List Text} (ne : ws ≠ []) :
    ' ' ∈ joinWith [' '] (w :: ws) := by
  obtain ⟨w', ws, rfl⟩ := List.exists_cons_of_ne_nil ne
  simp [joinWith_cons_cons]

theorem words_of_trim {t : Text} (ne : t ≠ []) (trimmed : trim t = t) :
    words t = [t] ∨ ' ' ∈ joinWith [' '] (words t) := by
  obtain ⟨front, back⟩ := (trim_eq_self_iff ne).mp trimmed
  have flat := flatten_stretches t
  cases e : stretches t with
  | nil =>
      rw [e] at flat
      exact absurd flat.symm ne
  | cons first rest =>
      rw [e, List.flatten_cons] at flat
      have first_ne : first ≠ [] := ne_nil_of_mem_stretches (t := t) (by simp [e])
      have first_word : isBlank first = false := by
        have solid : frontSolid first = true := frontSolid_of_append first_ne (flat ▸ front)
        obtain ⟨c, u, rfl⟩ := List.exists_cons_of_ne_nil first_ne
        rw [isBlank_of_mem_stretches (t := t) (c := c) (by simp [e]) List.mem_cons_self]
        simpa using solid
      rcases List.eq_nil_or_concat' rest with rfl | ⟨init, last, rfl⟩
      · left
        rw [List.flatten_nil, List.append_nil] at flat
        rw [words, e, flat, List.filter_singleton, ← flat, first_word]
        rfl
      · right
        have last_ne : last ≠ [] := ne_nil_of_mem_stretches (t := t) (by simp [e])
        have last_word : isBlank last = false := by
          rw [← flat, List.flatten_append, List.flatten_singleton, ← List.append_assoc,
            backSolid_append _ last_ne] at back
          by_contra blank
          rw [backSolid_of_isBlank (Bool.not_eq_false _ ▸ blank)] at back
          cases back
        rw [words, e, List.filter_cons_of_pos (by simp [first_word])]
        refine space_mem_joinWith first (List.ne_nil_of_mem (a := last) ?_)
        simp [last_word]

end Tabular.Text
