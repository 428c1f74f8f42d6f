import Mathlib.Data.List.Basic
import Mathlib.Data.List.TakeWhile
import Mathlib.Tactic.IntervalCases
import Tabular.Text

/-! # The edges of a text

What stands at the front and at the back of a text.  A text is solid at an edge if it does not have
white space there; the texts that are solid at both edges are the ones that `Text.trim` leaves
alone (`trim_eq_self_iff`).  `opensWith` and `closesWith` look for a keyword that white space
separates from the rest of the text; both are given as a decomposition of the text in
`opensWith_iff` and `closesWith_iff`. -/

namespace Tabular.Text

open Unicode

/-! ### Solid edges -/

/-- Whether a text begins with something other than white space. -/
def frontSolid (t : Text) : Bool :=
  t.head?.any fun c => !isWhiteSpace c

/-- Whether a text ends with something other than white space. -/
def backSolid (t : Text) : Bool :=
  t.getLast?.any fun c => !isWhiteSpace c

@[simp] theorem frontSolid_nil : frontSolid [] = false := rfl

@[simp] theorem backSolid_nil : backSolid [] = false := rfl

@[simp] theorem frontSolid_cons (c : Char) (t : Text) :
    frontSolid (c :: t) = !isWhiteSpace c := rfl

@[simp] theorem backSolid_concat (t : Text) (c : Char) :
    backSolid (t ++ [c]) = !isWhiteSpace c := by
  simp [backSolid]

theorem frontSolid_reverse (t : Text) : frontSolid t.reverse = backSolid t := by
  simp [frontSolid, backSolid]

theorem frontSolid_append {t : Text} (h : frontSolid t = true) (u : Text) :
    frontSolid (t ++ u) = true := by
  cases t with
  | nil => simp at h
  | cons c t => simpa using h

theorem frontSolid_of_append {t u : Text} (ne : t ≠ []) (h : frontSolid (t ++ u) = true) :
    frontSolid t = true := by
  cases t with
  | nil => exact absurd rfl ne
  | cons c t => simpa using h

theorem backSolid_append (t : Text) {u : Text} (h : u ≠ []) :
    backSolid (t ++ u) = backSolid u := by
  obtain ⟨u, c, rfl⟩ := (List.eq_nil_or_concat' u).resolve_left h
  rw [← List.append_assoc, backSolid_concat, backSolid_concat]

theorem backSolid_of_isBlank {w : Text} (h : isBlank w = true) : backSolid w = false := by
  rcases List.eq_nil_or_concat' w with rfl | ⟨w, c, rfl⟩
  · rfl
  · simp_all [isBlank]

theorem ne_nil_of_backSolid {t : Text} (h : backSolid t = true) : t ≠ [] := by
  rintro rfl
  simp at h

theorem solid_edges {t : Text} (ne : t ≠ []) (h : ∀ c ∈ t, isWhiteSpace c = false) :
    frontSolid t = true ∧ backSolid t = true := by
  constructor
  · obtain ⟨c, u, rfl⟩ := List.exists_cons_of_ne_nil ne
    simp [h c]
  · obtain ⟨u, c, rfl⟩ := (List.eq_nil_or_concat' t).resolve_left ne
    simp [h c]

theorem isBlank_of_solid {t : Text} (ne : t ≠ []) (h : ∀ c ∈ t, isWhiteSpace c = false) :
    isBlank t = false := by
  have back := (solid_edges ne h).2
  refine Bool.eq_false_iff.mpr fun blank => ?_
  rw [backSolid_of_isBlank blank] at back
  cases back

theorem trimStart_of_frontSolid {t : Text} (h : frontSolid t = true) : trimStart t = t := by
  cases t with
  | nil => rfl
  | cons c t => simp_all [trimStart]

theorem trimEnd_of_backSolid {t : Text} (h : backSolid t = true) : trimEnd t = t := by
  rw [← frontSolid_reverse] at h
  have e := trimStart_of_frontSolid h
  unfold trimStart at e
  rw [trimEnd, e, List.reverse_reverse]

theorem trimStart_append_of_isBlank {w : Text} (h : isBlank w = true) (t : Text) :
    trimStart (w ++ t) = trimStart t := by
  unfold trimStart
  rw [List.dropWhile_append_of_pos]
  simpa [isBlank] using h

theorem trimStart_append {t : Text} (h : trimStart t ≠ []) (u : Text) :
    trimStart (t ++ u) = trimStart t ++ u := by
  have some_left : ¬ (t.dropWhile isWhiteSpace).isEmpty = true := fun e => h (List.isEmpty_iff.mp e)
  rw [trimStart, List.dropWhile_append, if_neg some_left]
  rfl

theorem trimEnd_append_of_isBlank {w : Text} (h : isBlank w = true) (t : Text) :
    trimEnd (t ++ w) = trimEnd t := by
  have blank : isBlank w.reverse = true := by simpa [isBlank] using h
  rw [trimEnd, trimEnd, List.reverse_append]
  exact congrArg List.reverse (trimStart_append_of_isBlank blank t.reverse)

theorem frontSolid_trimStart {t : Text} (h : trimStart t ≠ []) :
    frontSolid (trimStart t) = true := by
  obtain ⟨c, u, e⟩ := List.exists_cons_of_ne_nil h
  have := List.head_dropWhile_not isWhiteSpace (l := t) h
  unfold trimStart at e ⊢
  simp only [e, List.head_cons] at this
  rw [e, frontSolid_cons, this]
  rfl

theorem trimStart_suffix (t : Text) : trimStart t <:+ t :=
  List.dropWhile_suffix _

theorem trimEnd_prefix (t : Text) : trimEnd t <+: t := by
  rw [← List.reverse_suffix, trimEnd, List.reverse_reverse]
  exact List.dropWhile_suffix _

theorem frontSolid_trim {t : Text} (h : trim t ≠ []) : frontSolid (trim t) = true := by
  obtain ⟨rest, e⟩ := trimEnd_prefix (trimStart t)
  rw [← trim] at e
  have ne : trimStart t ≠ [] := by
    rw [← e]
    exact List.append_ne_nil_of_left_ne_nil h _
  have front := frontSolid_trimStart ne
  obtain ⟨c, u, e'⟩ := List.exists_cons_of_ne_nil h
  rw [e'] at e ⊢
  rwa [← e] at front

theorem trim_eq_self_iff {t : Text} (h : t ≠ []) :
    trim t = t ↔ frontSolid t = true ∧ backSolid t = true := by
  constructor
  · intro e
    have hs := trimStart_suffix t
    have hp := trimEnd_prefix (trimStart t)
    rw [← trim, e] at hp
    have front : trimStart t = t := hs.eq_of_length (le_antisymm hs.length_le hp.length_le)
    have back : trimEnd t = t := by rwa [trim, front] at e
    refine ⟨?_, ?_⟩
    · rw [← front]
      exact frontSolid_trimStart (by rwa [front])
    · have e' : trimStart t.reverse = t.reverse := by
        rw [trimEnd, ← List.reverse_inj, List.reverse_reverse] at back
        exact back
      rw [← frontSolid_reverse, ← e']
      exact frontSolid_trimStart (by rw [e']; simpa using h)
  · rintro ⟨front, back⟩
    rw [trim, trimStart_of_frontSolid front, trimEnd_of_backSolid back]

/-! ### What trimming takes away -/

theorem backSolid_reverse (t : Text) : backSolid t.reverse = frontSolid t := by
  rw [← frontSolid_reverse, List.reverse_reverse]

theorem exists_trim (t : Text) :
    ∃ w w', isBlank w = true ∧ isBlank w' = true ∧ t = w ++ trim t ++ w' := by
  have front : t.takeWhile isWhiteSpace ++ trimStart t = t := List.takeWhile_append_dropWhile
  have back : (trimStart t).reverse.takeWhile isWhiteSpace ++
      (trimStart t).reverse.dropWhile isWhiteSpace = (trimStart t).reverse :=
    List.takeWhile_append_dropWhile
  have blank : ∀ u : Text, isBlank (u.takeWhile isWhiteSpace) = true := fun u => by
    rw [isBlank, List.all_eq_true]
    exact fun c hc => List.mem_takeWhile_imp hc
  refine ⟨t.takeWhile isWhiteSpace, ((trimStart t).reverse.takeWhile isWhiteSpace).reverse,
    blank t, ?_, ?_⟩
  · rw [isBlank, List.all_reverse]
    exact blank (trimStart t).reverse
  · have e := congrArg List.reverse back
    rw [List.reverse_append, List.reverse_reverse] at e
    have whole : trim t ++ ((trimStart t).reverse.takeWhile isWhiteSpace).reverse =
        trimStart t := e
    rw [List.append_assoc, whole, front]

theorem trim_infix (t : Text) : trim t <:+: t := by
  obtain ⟨w, w', -, -, e⟩ := exists_trim t
  exact ⟨w, w', e.symm⟩

theorem backSolid_trim {t : Text} (h : trim t ≠ []) : backSolid (trim t) = true := by
  have ne : trimStart (trimStart t).reverse ≠ [] := by
    intro nil
    apply h
    rw [trim, trimEnd]
    unfold trimStart at nil ⊢
    rw [nil, List.reverse_nil]
  have solid := frontSolid_trimStart ne
  rw [trim, trimEnd, backSolid_reverse]
  exact solid

@[simp] theorem trim_nil : trim [] = [] := rfl

theorem trim_trim (t : Text) : trim (trim t) = trim t := by
  by_cases h : trim t = []
  · rw [h, trim_nil]
  · exact (trim_eq_self_iff h).mpr ⟨frontSolid_trim h, backSolid_trim h⟩

theorem trim_append_blank {t w : Text} (front : frontSolid t = true) (back : backSolid t = true)
    (hw : isBlank w = true) : trim (t ++ w) = t := by
  rw [trim, trimStart_of_frontSolid (frontSolid_append front w), trimEnd_append_of_isBlank hw,
    trimEnd_of_backSolid back]

/-- A text that is solid at its front goes on behind its trimmed part with white space only. -/
theorem exists_trim_append {t : Text} (h : frontSolid t = true) :
    ∃ w, isBlank w = true ∧ t = trim t ++ w := by
  obtain ⟨w, w', hw, hw', e⟩ := exists_trim t
  cases w with
  | nil => exact ⟨w', hw', e⟩
  | cons c w =>
      rw [e, List.cons_append, List.cons_append, frontSolid_cons] at h
      simp [isBlank] at hw
      simp [hw.1] at h

theorem trim_ne_nil {t : Text} (h : frontSolid t = true) : trim t ≠ [] := by
  intro nil
  obtain ⟨w, blank, e⟩ := exists_trim_append h
  rw [nil, List.nil_append] at e
  rw [e] at h
  cases w with
  | nil => cases h
  | cons c w =>
      rw [frontSolid_cons, List.all_eq_true.mp blank c List.mem_cons_self] at h
      cases h

theorem trimStart_eq_nil_iff {t : Text} : trimStart t = [] ↔ isBlank t = true := by
  rw [trimStart, List.dropWhile_eq_nil_iff, isBlank, List.all_eq_true]

theorem trim_eq_nil_iff {t : Text} : trim t = [] ↔ isBlank t = true := by
  constructor
  · intro nil
    obtain ⟨w, w', blank, blank', e⟩ := exists_trim t
    rw [e, nil, List.append_nil, isBlank, List.all_append, Bool.and_eq_true]
    exact ⟨blank, blank'⟩
  · intro blank
    rw [trim, trimStart_eq_nil_iff.mpr blank]
    rfl

theorem trim_pad {w w' : Text} (hw : isBlank w = true) (hw' : isBlank w' = true) (t : Text) :
    trim (w ++ t ++ w') = trim t := by
  rw [trim, List.append_assoc, trimStart_append_of_isBlank hw, trim]
  cases blank : isBlank t with
  | true =>
      rw [trimStart_append_of_isBlank blank, trimStart_eq_nil_iff.mpr blank,
        trimStart_eq_nil_iff.mpr hw']
  | false =>
      have ne : trimStart t ≠ [] := by
        intro nil
        rw [trimStart_eq_nil_iff.mp nil] at blank
        cases blank
      rw [trimStart_append ne, trimEnd_append_of_isBlank hw']

/-! ### Letter case -/

theorem sameLetters_iff {s t : Text} :
    sameLetters s t = true ↔ s.map Char.toUpper = t.map Char.toUpper := by
  induction s generalizing t with
  | nil => cases t <;> simp [sameLetters]
  | cons a s ih => cases t <;> simp [sameLetters, sameLetter, ih]

theorem length_of_sameLetters {s t : Text} (h : sameLetters s t = true) : s.length = t.length := by
  have e := congrArg List.length (sameLetters_iff.mp h)
  simpa using e

theorem ne_nil_of_sameLetters {s t : Text} (h : sameLetters s t = true) (ne : s ≠ []) : t ≠ [] := by
  rintro rfl
  exact ne (List.length_eq_zero_iff.mp (length_of_sameLetters h))

theorem sameLetters_reverse {s t : Text} :
    sameLetters s.reverse t.reverse = sameLetters s t := by
  rw [Bool.eq_iff_iff, sameLetters_iff, sameLetters_iff]
  simp

/-- What is the same of every small letter and its capital is so of every character. -/
theorem toUpper_congr {β : Type} (f : Char → β)
    (letters : ∀ n ∈ List.range' 97 26, f (Char.ofNat n).toUpper = f (Char.ofNat n)) (c : Char) :
    f c.toUpper = f c := by
  by_cases h : 97 ≤ c.toNat ∧ c.toNat ≤ 122
  · rw [← Char.ofNat_toNat c]
    exact letters c.toNat (List.mem_range'_1.mpr (by omega))
  · have : c.toUpper = c := dif_neg h
    rw [this]

theorem isWhiteSpace_toUpper (c : Char) : isWhiteSpace c.toUpper = isWhiteSpace c :=
  toUpper_congr isWhiteSpace (by decide) c

theorem eq_of_sameLetter {a c : Char} (h : sameLetter a c = true) (ha : a.isAlpha = false) :
    c = a := by
  have same : a.toUpper = a := by
    refine dif_neg fun lower => ?_
    obtain ⟨h1, h2⟩ : 97 ≤ a.toNat ∧ a.toNat ≤ 122 := lower
    have letter : a.isAlpha = true := by
      rw [← Char.ofNat_toNat a]
      interval_cases a.toNat <;> decide
    rw [ha] at letter
    cases letter
  rw [sameLetter, same, beq_iff_eq] at h
  by_cases lower : 97 ≤ c.toNat ∧ c.toNat ≤ 122
  · obtain ⟨h1, h2⟩ := lower
    have letter : c.toUpper.isAlpha = true := by
      rw [← Char.ofNat_toNat c]
      interval_cases c.toNat <;> decide
    rw [← h, ha] at letter
    cases letter
  · have : c.toUpper = c := dif_neg lower
    rw [h, this]

theorem eq_of_sameLetters {s t : Text} (h : sameLetters s t = true)
    (hs : ∀ c ∈ s, c.isAlpha = false) : t = s := by
  induction s generalizing t with
  | nil => exact List.length_eq_zero_iff.mp (length_of_sameLetters h).symm
  | cons a s ih =>
      cases t with
      | nil => cases h
      | cons b t =>
          rw [sameLetters, Bool.and_eq_true] at h
          obtain ⟨first, others⟩ := List.forall_mem_cons.mp hs
          rw [eq_of_sameLetter h.1 first, ih h.2 others]

theorem isWhiteSpace_of_sameLetters {s t : Text} (h : sameLetters s t = true)
    (hs : ∀ c ∈ s, isWhiteSpace c = false) : ∀ c ∈ t, isWhiteSpace c = false := by
  intro c hc
  have e := sameLetters_iff.mp h
  have : c.toUpper ∈ s.map Char.toUpper := e ▸ List.mem_map_of_mem hc
  obtain ⟨d, hd, e'⟩ := List.mem_map.mp this
  rw [← isWhiteSpace_toUpper, ← e', isWhiteSpace_toUpper]
  exact hs d hd

theorem backSolid_of_sameLetters {s t : Text} (same : sameLetters s t = true) :
    backSolid s = backSolid t := by
  have upper : ∀ u : Text, backSolid (u.map Char.toUpper) = backSolid u := by
    intro u
    rw [backSolid, List.getLast?_map, Option.any_map]
    exact congrArg (u.getLast?.any ·) (funext fun c => by simp [isWhiteSpace_toUpper])
  rw [← upper s, ← upper t, sameLetters_iff.mp same]

theorem frontSolid_of_sameLetters {s t : Text} (same : sameLetters s t = true) :
    frontSolid s = frontSolid t := by
  rw [← backSolid_reverse, ← backSolid_reverse]
  exact backSolid_of_sameLetters (sameLetters_reverse.trans same)

theorem afterLetters?_eq_some_iff {word t rest : Text} :
    afterLetters? word t = some rest ↔
      ∃ front, sameLetters word front = true ∧ t = front ++ rest := by
  induction word generalizing t with
  | nil =>
      constructor
      · intro h
        exact ⟨[], rfl, by simpa [afterLetters?] using h⟩
      · rintro ⟨front, h, rfl⟩
        cases front with
        | nil => rfl
        | cons c front => simp [sameLetters] at h
  | cons a word ih =>
      constructor
      · intro h
        cases t with
        | nil => simp [afterLetters?] at h
        | cons b t =>
            simp only [afterLetters?] at h
            split at h
            · rename_i hab
              obtain ⟨front, hf, rfl⟩ := ih.mp h
              exact ⟨b :: front, by simp [sameLetters, hab, hf], rfl⟩
            · simp at h
      · rintro ⟨front, h, rfl⟩
        cases front with
        | nil => simp [sameLetters] at h
        | cons b front =>
            simp only [sameLetters, Bool.and_eq_true] at h
            simp only [List.cons_append, afterLetters?, h.1, if_true]
            exact ih.mpr ⟨front, h.2, rfl⟩

theorem afterLetters?_append_of_le {word b : Text} (h : word.length ≤ b.length) (u : Text) :
    afterLetters? word (b ++ u) = (afterLetters? word b).map (· ++ u) := by
  induction word generalizing b with
  | nil => rfl
  | cons a word ih =>
      cases b with
      | nil => simp at h
      | cons c b =>
          simp only [List.cons_append, afterLetters?]
          split
          · exact ih (by simpa using h)
          · rfl

theorem afterLetters?_append_of_ge {word b : Text} (h : b.length ≤ word.length) (u : Text) :
    afterLetters? word (b ++ u) =
      if sameLetters (word.take b.length) b then afterLetters? (word.drop b.length) u else none := by
  induction b generalizing word with
  | nil => simp [sameLetters]
  | cons c b ih =>
      cases word with
      | nil => simp at h
      | cons a word =>
          simp only [List.cons_append, afterLetters?, List.length_cons, List.take_succ_cons,
            List.drop_succ_cons, sameLetters]
          by_cases hc : sameLetter a c = true
          · rw [if_pos hc, ih (by simpa using h), hc, Bool.true_and]
          · rw [if_neg hc, Bool.eq_false_iff.mpr hc, Bool.false_and, if_neg Bool.false_ne_true]

/-! ### Keywords at an edge -/

/-- What follows a keyword, in any letter case, and the white space after it at the front of a
text. -/
def afterOpening? (keyword t : Text) : Option Text :=
  match afterLetters? keyword t with
  | none => none
  | some rest => if rest.head?.any isWhiteSpace then some (trimStart rest) else none

/-- Whether a text begins with a keyword, in any letter case, and white space. -/
def opensWith (keyword t : Text) : Bool :=
  (afterOpening? keyword t).isSome

/-- Whether a text ends with white space and a keyword, in any letter case. -/
def closesWith (keyword t : Text) : Bool :=
  opensWith keyword.reverse t.reverse

theorem afterOpening?_eq_some_iff {keyword t rest : Text} :
    afterOpening? keyword t = some rest ↔
      ∃ word c u, sameLetters keyword word = true ∧ isWhiteSpace c = true ∧
        t = word ++ c :: u ∧ rest = trimStart (c :: u) := by
  unfold afterOpening?
  constructor
  · intro h
    split at h
    · simp at h
    · rename_i r hr
      obtain ⟨word, hw, rfl⟩ := afterLetters?_eq_some_iff.mp hr
      cases r with
      | nil => simp at h
      | cons c u =>
          rw [List.head?_cons, Option.any_some, Option.ite_none_right_eq_some,
            Option.some.injEq] at h
          exact ⟨word, c, u, hw, h.1, rfl, h.2.symm⟩
  · rintro ⟨word, c, u, hw, hc, rfl, rfl⟩
    rw [afterLetters?_eq_some_iff.mpr ⟨word, hw, rfl⟩]
    simp [hc]

theorem opensWith_iff {keyword t : Text} :
    opensWith keyword t = true ↔
      ∃ word c rest, sameLetters keyword word = true ∧ isWhiteSpace c = true ∧
        t = word ++ c :: rest := by
  rw [opensWith, Option.isSome_iff_exists]
  constructor
  · rintro ⟨rest, h⟩
    obtain ⟨word, c, u, hw, hc, e, -⟩ := afterOpening?_eq_some_iff.mp h
    exact ⟨word, c, u, hw, hc, e⟩
  · rintro ⟨word, c, u, hw, hc, e⟩
    exact ⟨_, afterOpening?_eq_some_iff.mpr ⟨word, c, u, hw, hc, e, rfl⟩⟩

theorem closesWith_iff {keyword t : Text} :
    closesWith keyword t = true ↔
      ∃ front c word, isWhiteSpace c = true ∧ sameLetters keyword word = true ∧
        t = front ++ c :: word := by
  unfold closesWith
  rw [opensWith_iff]
  constructor
  · rintro ⟨word, c, rest, hw, hc, e⟩
    refine ⟨rest.reverse, c, word.reverse, hc, ?_, ?_⟩
    · rw [← sameLetters_reverse, List.reverse_reverse]
      exact hw
    · rw [← List.reverse_inj, e]
      simp
  · rintro ⟨front, c, word, hc, hw, rfl⟩
    exact ⟨word.reverse, c, front.reverse, by rwa [sameLetters_reverse], hc, by simp⟩

theorem opensWith_append_blank {keyword : Text} (solid : ∀ c ∈ keyword, isWhiteSpace c = false)
    {c : Char} (hc : isWhiteSpace c = true) (t u : Text) :
    opensWith keyword (t ++ c :: u) = (sameLetters keyword t || opensWith keyword t) := by
  rw [Bool.eq_iff_iff, Bool.or_eq_true, opensWith_iff, opensWith_iff]
  constructor
  · rintro ⟨word, d, rest, hw, hd, e⟩
    rcases List.append_eq_append_iff.mp e with ⟨more, rfl, e'⟩ | ⟨more, rfl, e'⟩
    · cases more with
      | nil => exact .inl (by simpa using hw)
      | cons b more =>
          -- The white space would lie within the keyword.
          obtain ⟨rfl, -⟩ := List.cons.inj e'
          have := isWhiteSpace_of_sameLetters hw solid c (by simp)
          rw [hc] at this
          exact absurd this (by decide)
    · cases more with
      | nil => exact .inl (by simpa using hw)
      | cons b more =>
          obtain ⟨rfl, -⟩ := List.cons.inj e'
          exact .inr ⟨word, d, more, hw, hd, rfl⟩
  · rintro (hw | ⟨word, d, rest, hw, hd, rfl⟩)
    · exact ⟨t, c, u, hw, hc, rfl⟩
    · exact ⟨word, d, rest ++ c :: u, hw, hd, by simp⟩

theorem closesWith_append {keyword t : Text} (h : closesWith keyword t = true) (s : Text) :
    closesWith keyword (s ++ t) = true := by
  obtain ⟨front, c, word, hc, hw, rfl⟩ := closesWith_iff.mp h
  exact closesWith_iff.mpr ⟨s ++ front, c, word, hc, hw, by simp⟩

/-- A keyword and white space at the front of a text that is solid at its back leave a text that is
solid at both edges. -/
theorem exists_of_afterOpening? {keyword t rest : Text} (h : afterOpening? keyword t = some rest)
    (back : backSolid t = true) :
    ∃ word w, sameLetters keyword word = true ∧ isBlank w = true ∧ w ≠ [] ∧
      t = word ++ w ++ rest ∧ frontSolid rest = true ∧ backSolid rest = true := by
  obtain ⟨word, c, u, hw, hc, rfl, rfl⟩ := afterOpening?_eq_some_iff.mp h
  have e : (c :: u).takeWhile isWhiteSpace ++ trimStart (c :: u) = c :: u :=
    List.takeWhile_append_dropWhile
  have blank : isBlank ((c :: u).takeWhile isWhiteSpace) = true := by
    rw [isBlank, List.all_eq_true]
    exact fun d hd => List.mem_takeWhile_imp hd
  have w : (c :: u).takeWhile isWhiteSpace ≠ [] := by simp [hc]
  -- The white space does not run to the end of the text.
  have rest : trimStart (c :: u) ≠ [] := by
    intro nil
    rw [← e, nil, List.append_nil, backSolid_append _ w, backSolid_of_isBlank blank] at back
    exact absurd back (by decide)
  refine ⟨word, (c :: u).takeWhile isWhiteSpace, hw, blank, w, ?_, frontSolid_trimStart rest, ?_⟩
  · rw [List.append_assoc, e]
  · rw [← e, ← List.append_assoc, backSolid_append _ rest] at back
    exact back

end Tabular.Text
