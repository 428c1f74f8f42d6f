import Tabular.Condition
import Tabular.Proofs.Text.Edges

/-! # The places of an operator

A place in a text is a cut of it into a front and a rest; the token of an operator counts there or
not, which depends on the last character of the front and on the rest.  `Operator.cutFrom?` finds
the first place where it counts (`exists_of_cutFrom?`, `exists_cutFrom?`).  The main statement is
about two texts put together: unless a token that begins in the first one ends in the second one,
the places of the two together are the places of the one and of the other (`cutFrom?_append`). -/

namespace Tabular

open Unicode

namespace Operator

variable {p : Operator} {last : Option Char} {t u rest : Text}

/-! ### What a token needs to count -/

theorem isWordChar_of_isWhiteSpace {c : Char} (h : isWhiteSpace c = true) :
    isWordChar c = false := by
  obtain ⟨r, hr, lower, upper⟩ := (inRanges_iff _ _).mp h
  have all : whiteSpaceRanges.all fun r =>
      (List.range' r.1 (r.2 - r.1 + 1)).all fun n => !isWordChar (Char.ofNat n) := by
    decide +kernel
  have one := List.all_eq_true.mp (List.all_eq_true.mp all r hr) c.toNat
    (List.mem_range'_1.mpr ⟨lower, by omega⟩)
  simpa using one

theorem afterToken?_eq_some_iff :
    p.afterToken? last t = some rest ↔
      (∃ word, Text.sameLetters p.token word = true ∧ t = word ++ rest) ∧
      (p.isKeyword = true → last.any isWhiteSpace = true ∧ rest.head?.any isWordChar = false) := by
  rw [← Text.afterLetters?_eq_some_iff, afterToken?]
  cases Text.afterLetters? p.token t with
  | none => simp
  | some r =>
      have allowed : (p.isKeyword && !(last.any isWhiteSpace && !r.head?.any isWordChar)) = false ↔
          (p.isKeyword = true → last.any isWhiteSpace = true ∧ r.head?.any isWordChar = false) := by
        cases p.isKeyword <;> simp
      by_cases h : (p.isKeyword && !(last.any isWhiteSpace && !r.head?.any isWordChar)) = true
      · rw [Option.some.injEq]
        dsimp only
        rw [if_pos h]
        refine ⟨fun e => by simp at e, ?_⟩
        rintro ⟨rfl, counts⟩
        rw [allowed.mpr counts] at h
        exact absurd h (by decide)
      · dsimp only
        rw [if_neg h, Option.some.injEq]
        refine ⟨?_, fun e => e.1⟩
        rintro rfl
        exact ⟨rfl, allowed.mp (Bool.eq_false_iff.mpr h)⟩

theorem afterToken?_nil : p.afterToken? last [] = none := by
  rw [Option.eq_none_iff_forall_ne_some]
  intro rest h
  obtain ⟨⟨word, hw, e⟩, -⟩ := afterToken?_eq_some_iff.mp h
  exact Text.ne_nil_of_sameLetters hw p.token_ne_nil (List.append_eq_nil_iff.mp e.symm).1

theorem afterToken?_append (h : p.afterToken? last t = some rest)
    (hu : u.head?.any isWordChar = false) : p.afterToken? last (t ++ u) = some (rest ++ u) := by
  obtain ⟨⟨word, hw, rfl⟩, counts⟩ := afterToken?_eq_some_iff.mp h
  refine afterToken?_eq_some_iff.mpr ⟨⟨word, hw, List.append_assoc _ _ _⟩, fun keyword => ?_⟩
  refine ⟨(counts keyword).1, ?_⟩
  cases rest with
  | nil => exact hu
  | cons c rest => exact (counts keyword).2

theorem afterToken?_of_append (h : p.afterToken? last (t ++ u) = some rest)
    (fits : p.token.length ≤ t.length) : ∃ r, p.afterToken? last t = some r ∧ rest = r ++ u := by
  obtain ⟨hw, counts⟩ := afterToken?_eq_some_iff.mp h
  rw [← Text.afterLetters?_eq_some_iff, Text.afterLetters?_append_of_le fits] at hw
  obtain ⟨r, hr, rfl⟩ := Option.map_eq_some_iff.mp hw
  refine ⟨r, afterToken?_eq_some_iff.mpr ⟨Text.afterLetters?_eq_some_iff.mp hr, fun keyword => ?_⟩,
    rfl⟩
  refine ⟨(counts keyword).1, ?_⟩
  cases r with
  | nil => rfl
  | cons c r => exact (counts keyword).2

theorem afterToken?_of_last {last' : Option Char} (h : p.afterToken? last t = some rest)
    (white : last.any isWhiteSpace = true → last'.any isWhiteSpace = true) :
    p.afterToken? last' t = some rest := by
  obtain ⟨word, counts⟩ := afterToken?_eq_some_iff.mp h
  exact afterToken?_eq_some_iff.mpr
    ⟨word, fun keyword => ⟨white (counts keyword).1, (counts keyword).2⟩⟩

/-! ### The first place -/

theorem getLast?_cons_or (c : Char) (t : Text) (last : Option Char) :
    (c :: t).getLast?.or last = t.getLast?.or (some c) := by
  rw [List.getLast?_cons]
  cases t.getLast? <;> rfl

theorem cutFrom?_cons (p : Operator) (last : Option Char) (c : Char) (t : Text) :
    p.cutFrom? last (c :: t) =
      match p.afterToken? last (c :: t) with
      | some rest => some ([], rest)
      | none => (p.cutFrom? (some c) t).map fun (front, rest) => (c :: front, rest) := rfl

/-- The token counts where a text is cut. -/
theorem exists_of_cutFrom? {front : Text} (h : p.cutFrom? last t = some (front, rest)) :
    ∃ u, t = front ++ u ∧ p.afterToken? (front.getLast?.or last) u = some rest := by
  induction t generalizing last front with
  | nil => simp [cutFrom?] at h
  | cons c t ih =>
      rw [cutFrom?_cons] at h
      split at h
      · rename_i hr
        cases h
        exact ⟨c :: t, rfl, hr⟩
      · obtain ⟨⟨f, r⟩, hf, e⟩ := Option.map_eq_some_iff.mp h
        cases e
        obtain ⟨u, rfl, hu⟩ := ih hf
        exact ⟨u, rfl, by rw [getLast?_cons_or, hu]⟩

/-- Where the token counts a text is cut, or at a place before. -/
theorem exists_cutFrom? {a : Text} (h : p.afterToken? (a.getLast?.or last) u = some rest) :
    ∃ front r, p.cutFrom? last (a ++ u) = some (front, r) ∧ front.length ≤ a.length := by
  induction a generalizing last with
  | nil =>
      cases u with
      | nil => rw [afterToken?_nil] at h; cases h
      | cons c u =>
          change p.afterToken? last (c :: u) = some rest at h
          exact ⟨[], rest, by rw [List.nil_append, cutFrom?_cons, h], Nat.le_refl _⟩
  | cons c a ih =>
      rw [getLast?_cons_or] at h
      obtain ⟨front, r, e, le⟩ := ih h
      rw [List.cons_append, cutFrom?_cons, e]
      cases p.afterToken? last (c :: (a ++ u)) with
      | some r' => exact ⟨[], r', rfl, Nat.zero_le _⟩
      | none => exact ⟨c :: front, r, rfl, Nat.succ_le_succ le⟩

theorem cutFrom?_eq_none_iff :
    p.cutFrom? last t = none ↔
      ∀ a u, t = a ++ u → p.afterToken? (a.getLast?.or last) u = none := by
  constructor
  · rintro h a u rfl
    rw [Option.eq_none_iff_forall_ne_some]
    intro rest e
    obtain ⟨front, r, e', -⟩ := exists_cutFrom? e
    rw [h] at e'
    cases e'
  · intro h
    rw [Option.eq_none_iff_forall_ne_some]
    rintro ⟨front, rest⟩ e
    obtain ⟨u, e', hu⟩ := exists_of_cutFrom? e
    rw [h front u e'] at hu
    cases hu

/-- A place in a text is one of the longer text with something other than a letter or digit put
behind, or there is one before it. -/
theorem exists_cutFrom?_append {front : Text} (h : p.cutFrom? last t = some (front, rest))
    (hu : u.head?.any isWordChar = false) :
    ∃ front' rest', p.cutFrom? last (t ++ u) = some (front', rest') ∧
      front'.length ≤ front.length ∧ front.length < t.length := by
  obtain ⟨v, rfl, counts⟩ := exists_of_cutFrom? h
  have ne : v ≠ [] := by
    rintro rfl
    rw [afterToken?_nil] at counts
    cases counts
  have here := afterToken?_append counts hu
  obtain ⟨front', rest', e, le⟩ := exists_cutFrom? here
  rw [← List.append_assoc] at e
  refine ⟨front', rest', e, le, ?_⟩
  rw [List.length_append]
  exact Nat.lt_add_of_pos_right (List.length_pos_iff.mpr ne)

theorem front_ne_nil_of_isKeyword {front : Text} (keyword : p.isKeyword = true)
    (h : p.cut? t = some (front, rest)) : front ≠ [] := by
  rintro rfl
  obtain ⟨u, -, counts⟩ := exists_of_cutFrom? h
  have white := ((afterToken?_eq_some_iff.mp counts).2 keyword).1
  cases white

theorem afterToken?_eq_none_of_head {c : Char}
    (h : (p.token.head?.any fun d => Text.sameLetter d c) = false) :
    p.afterToken? last (c :: t) = none := by
  obtain ⟨d, w, e⟩ := List.exists_cons_of_ne_nil p.token_ne_nil
  have other : Text.sameLetter d c = false := by simpa [e] using h
  have nothing : Text.afterLetters? p.token (c :: t) = none := by
    rw [e, Text.afterLetters?, other, if_neg Bool.false_ne_true]
  rw [afterToken?, nothing]

/-- In a text without white space only symbols count, where their first character stands. -/
theorem cutFrom?_eq_none_of_solid (solid : ∀ c ∈ t, isWhiteSpace c = false)
    (before : last.any isWhiteSpace = false)
    (symbols : p.isKeyword = false → ∀ c ∈ t,
      (p.token.head?.any fun d => Text.sameLetter d c) = false) :
    p.cutFrom? last t = none := by
  rw [cutFrom?_eq_none_iff]
  rintro a u rfl
  cases u with
  | nil => exact afterToken?_nil
  | cons c u =>
      cases keyword : p.isKeyword with
      | false => exact afterToken?_eq_none_of_head (symbols keyword c (by simp))
      | true =>
          rw [Option.eq_none_iff_forall_ne_some]
          intro rest h
          have white := ((afterToken?_eq_some_iff.mp h).2 keyword).1
          rcases List.eq_nil_or_concat' a with rfl | ⟨a, x, rfl⟩
          · change last.any isWhiteSpace = true at white
            rw [before] at white
            cases white
          · rw [List.getLast?_concat, Option.some_or, Option.any_some, solid x (by simp)] at white
            cases white

/-- If no token that begins in the first of two texts ends in the second one, the places of both
together are the places of the one and of the other. -/
theorem cutFrom?_append {a b : Text} (hb : b.head?.any isWordChar = false)
    (apart : ∀ s t, a = s ++ t → t ≠ [] → t.length < p.token.length →
      p.afterToken? (s.getLast?.or last) (t ++ b) = none) :
    p.cutFrom? last (a ++ b) =
      ((p.cutFrom? last a).map fun (front, rest) => (front, rest ++ b)).or
        ((p.cutFrom? (a.getLast?.or last) b).map fun (front, rest) => (a ++ front, rest)) := by
  induction a generalizing last with
  | nil =>
      change p.cutFrom? last b = Option.map _ (p.cutFrom? last b)
      cases p.cutFrom? last b <;> rfl
  | cons c a ih =>
      have tail := @ih (some c) fun s t e ne short => by
        rw [← getLast?_cons_or, ← apart (c :: s) t (by rw [e]; rfl) ne short]
      rw [List.cons_append, cutFrom?_cons, cutFrom?_cons, tail, getLast?_cons_or]
      cases here : p.afterToken? last (c :: a) with
      | some rest =>
          have both := afterToken?_append here hb
          rw [List.cons_append] at both
          rw [both]
          rfl
      | none =>
          have both : p.afterToken? last (c :: (a ++ b)) = none := by
            by_cases fits : p.token.length ≤ (c :: a).length
            · rw [Option.eq_none_iff_forall_ne_some]
              intro rest e
              obtain ⟨r, e', -⟩ := afterToken?_of_append (t := c :: a) e fits
              rw [here] at e'
              cases e'
            · exact apart [] (c :: a) rfl (List.cons_ne_nil _ _) (by omega)
          rw [both]
          cases p.cutFrom? (some c) a with
          | some cut => rfl
          | none =>
              cases p.cutFrom? (a.getLast?.or (some c)) b <;> rfl

/-! ### Tokens at an edge -/

/-- The operators that are looked for before one. -/
def before (op : Operator) : List Operator :=
  scanOrder.takeWhile (· ≠ op)

theorem startsWith_mem_before {op : Operator} (h : op ≠ startsWith) : startsWith ∈ op.before := by
  cases op with
  | startsWith => exact absurd rfl h
  | _ => decide

/-- The operators that are found as another one after the word `NOT`. -/
def takesNot : Operator → Bool
  | like | isIn => true
  | _ => false

/-- The word `NOT`. -/
def notWord : Text :=
  "NOT".toList

theorem fits_of_afterToken? {c : Char} (h : p.afterToken? last (t ++ c :: u) = some rest)
    (hc : (p.token.all fun d => !Text.sameLetter d c) = true) : p.token.length ≤ t.length := by
  by_contra longer
  obtain ⟨hw, -⟩ := afterToken?_eq_some_iff.mp h
  rw [← Text.afterLetters?_eq_some_iff, Text.afterLetters?_append_of_ge (by omega)] at hw
  split at hw
  · obtain ⟨d, w, e⟩ := List.exists_cons_of_length_pos
      (l := p.token.drop t.length) (by rw [List.length_drop]; omega)
    rw [e, Text.afterLetters?] at hw
    have mem : d ∈ p.token := List.mem_of_mem_drop (e ▸ List.mem_cons_self)
    have other := List.all_eq_true.mp hc d mem
    rw [Bool.not_eq_true'] at other
    rw [other, if_neg Bool.false_ne_true] at hw
    cases hw
  · cases hw

theorem not_quote_of_token (p : Operator) :
    (p.token.all fun d => !Text.sameLetter d '\'') = true := by
  cases p <;> decide

/-- No token has a blank behind a letter with which a token ends. -/
theorem token_break {p q : Operator} {n : Nat} (hn : n < p.token.length)
    (h : ((p.token.drop n).head?.any fun d => Text.sameLetter d ' ') = true) :
    (p.token.take n).getLast?.map Char.toUpper ≠ q.token.getLast?.map Char.toUpper := by
  have all : ∀ p ∈ Operator.all, ∀ q ∈ Operator.all, ∀ n ∈ List.range p.token.length,
      ((p.token.drop n).head?.any fun d => Text.sameLetter d ' ') = true →
      (p.token.take n).getLast?.map Char.toUpper ≠ q.token.getLast?.map Char.toUpper := by
    decide +kernel
  exact all p (mem_all p) q (mem_all q) n (List.mem_range.mpr hn) h

/-- Only the word `NOT` can be made a longer token by a blank and a token. -/
theorem token_bridge {p q : Operator} {n : Nat} (hn : n < p.token.length) (pos : 0 < n)
    (h : (Text.afterLetters? (p.token.drop n) (' ' :: q.token)).isSome = true) :
    q.takesNot = true ∧ p.isKeyword = true ∧ p.token.take n = notWord := by
  have all : ∀ p ∈ Operator.all, ∀ q ∈ Operator.all, ∀ n ∈ List.range p.token.length, 0 < n →
      (Text.afterLetters? (p.token.drop n) (' ' :: q.token)).isSome = true →
      q.takesNot = true ∧ p.isKeyword = true ∧ p.token.take n = notWord := by
    decide +kernel
  exact all p (mem_all p) q (mem_all q) n (List.mem_range.mpr hn) pos h

/-- The operator that is found in the place of one after the word `NOT` is looked for before it. -/
theorem exists_of_takesNot {q : Operator} (h : q.takesNot = true) :
    ∃ p ∈ q.before, p.isKeyword = true ∧ p.token = notWord ++ ' ' :: q.token := by
  cases q with
  | like => exact ⟨notLike, by decide, rfl, rfl⟩
  | isIn => exact ⟨notIn, by decide, rfl, rfl⟩
  | _ => cases h

theorem cutFrom?_token_self (op : Operator) : op.cutFrom? (some ' ') op.token = some ([], []) := by
  cases op <;> decide

theorem cutFrom?_token_of_mem_before {p q : Operator} (h : p ∈ q.before) :
    p.cutFrom? (some ' ') q.token = none := by
  have all : ∀ q ∈ Operator.all, ∀ p ∈ q.before, p.cutFrom? (some ' ') q.token = none := by
    decide +kernel
  exact all q (mem_all q) p h

theorem cutFrom?_blank (p : Operator) (last : Option Char) (t : Text) :
    p.cutFrom? last (' ' :: t) =
      (p.cutFrom? (some ' ') t).map fun (front, rest) => (' ' :: front, rest) := by
  rw [cutFrom?_cons, afterToken?_eq_none_of_head (by cases p <;> decide)]

theorem cutFrom?_quote (p : Operator) (last : Option Char) (t : Text) :
    p.cutFrom? last ('\'' :: t) =
      (p.cutFrom? (some '\'') t).map fun (front, rest) => ('\'' :: front, rest) := by
  rw [cutFrom?_cons, afterToken?_eq_none_of_head (by cases p <;> decide)]

theorem cutFrom?_append_blank {q : Operator} {a : Text}
    (ha : a.getLast? = q.token.getLast?) (b : Text) :
    p.cutFrom? last (a ++ ' ' :: b) =
      ((p.cutFrom? last a).map fun (front, rest) => (front, rest ++ ' ' :: b)).or
        ((p.cutFrom? (a.getLast?.or last) (' ' :: b)).map fun (front, rest) => (a ++ front, rest)) := by
  refine cutFrom?_append rfl fun s t e ne short => ?_
  rw [Option.eq_none_iff_forall_ne_some]
  intro rest h
  obtain ⟨hw, -⟩ := afterToken?_eq_some_iff.mp h
  rw [← Text.afterLetters?_eq_some_iff, Text.afterLetters?_append_of_ge short.le] at hw
  split at hw
  · rename_i same
    obtain ⟨d, w, e'⟩ := List.exists_cons_of_length_pos
      (l := p.token.drop t.length) (by rw [List.length_drop]; omega)
    have blank : Text.sameLetter d ' ' = true := by
      by_contra other
      rw [e', Text.afterLetters?, if_neg other] at hw
      cases hw
    have last_t : t.getLast? = q.token.getLast? := by
      rw [← ha, e, List.getLast?_append_of_ne_nil _ ne]
    refine token_break short (by rw [e']; exact blank) ?_ (q := q)
    rw [← last_t, ← List.getLast?_map, ← List.getLast?_map, Text.sameLetters_iff.mp same]
  · cases hw

/-- The places of a text and of a token behind it, if the text does not end in `NOT`. -/
theorem cut?_append_token {c : Text} {q : Operator}
    (h : q.takesNot = true → Text.closesWith notWord c = false) :
    p.cut? (c ++ ' ' :: q.token) =
      ((p.cut? c).map fun (front, rest) => (front, rest ++ ' ' :: q.token)).or
        ((p.cutFrom? (some ' ') q.token).map fun (front, rest) => (c ++ ' ' :: front, rest)) := by
  rw [cut?, cut?, cutFrom?_append rfl, cutFrom?_blank, Option.map_map]
  · rfl
  · intro s t e ne short
    rw [Option.eq_none_iff_forall_ne_some]
    intro rest h'
    obtain ⟨hw, counts⟩ := afterToken?_eq_some_iff.mp h'
    rw [← Text.afterLetters?_eq_some_iff, Text.afterLetters?_append_of_ge short.le] at hw
    split at hw
    · rename_i same
      obtain ⟨negates, keyword, word⟩ := token_bridge short (List.length_pos_iff.mpr ne)
        (by rw [hw]; rfl)
      -- The word stands behind white space, so the text ends in it.
      have white := (counts keyword).1
      rw [Option.or_none, Option.any_eq_true] at white
      obtain ⟨x, hx, white⟩ := white
      obtain ⟨s, rfl⟩ := List.getLast?_eq_some_iff.mp hx
      have closes : Text.closesWith notWord c = true :=
        Text.closesWith_iff.mpr ⟨s, x, t, white, word ▸ same, by simp [e]⟩
      rw [h negates] at closes
      cases closes
    · cases hw

/-! ### Symbols and quotation marks -/

/-- The characters of the symbols. -/
def symbolChars : Text :=
  "=<>!".toList

theorem exists_of_symbol (symbol : p.isKeyword = false) (h : p.afterToken? last t = some rest) :
    ∃ c u, t = c :: u ∧ c ∈ symbolChars := by
  obtain ⟨⟨word, same, rfl⟩, -⟩ := afterToken?_eq_some_iff.mp h
  have first : ∃ a w, p.token = a :: w ∧ a ∈ symbolChars ∧ a.isAlpha = false := by
    cases p <;> first | exact ⟨_, _, rfl, by decide, by decide⟩ | cases symbol
  obtain ⟨a, w, token, mem, letter⟩ := first
  rw [token] at same
  cases word with
  | nil => cases same
  | cons c word =>
      rw [Text.sameLetters, Bool.and_eq_true] at same
      exact ⟨c, word ++ rest, rfl, Text.eq_of_sameLetter same.1 letter ▸ mem⟩

/-- An operator that counts nowhere in a text does not count in a part of it between quotation
marks. -/
theorem cut?_quoted_eq_none {a v b : Text} (h : p.cut? (a ++ v ++ b) = none)
    (hb : b.head?.any isWordChar = false) : p.cut? ('\'' :: v ++ ['\'']) = none := by
  have nowhere := cutFrom?_eq_none_iff.mp h
  refine cutFrom?_eq_none_iff.mpr fun f u whole => ?_
  rw [Option.eq_none_iff_forall_ne_some]
  intro rest counts
  have quote : (p.token.head?.any fun d => Text.sameLetter d '\'') = false := by
    cases p <;> decide
  cases f with
  | nil =>
      rw [← List.nil_append u, ← whole, List.cons_append,
        afterToken?_eq_none_of_head quote] at counts
      cases counts
  | cons c f =>
      obtain ⟨rfl, inner⟩ := List.cons.inj whole
      rcases List.eq_nil_or_concat' u with rfl | ⟨u, x, rfl⟩
      · rw [afterToken?_nil] at counts
        cases counts
      · change v ++ ['\''] = f ++ (u ++ [x]) at inner
        rw [← List.append_assoc] at inner
        obtain ⟨rfl, e⟩ := List.append_inj' inner rfl
        obtain rfl := List.head_eq_of_cons_eq e
        have fits := fits_of_afterToken? counts p.not_quote_of_token
        obtain ⟨r, inside, -⟩ := afterToken?_of_append counts fits
        have before : p.afterToken? ((a ++ f).getLast?.or none) u = some r := by
          refine afterToken?_of_last inside fun white => ?_
          rcases List.eq_nil_or_concat' f with rfl | ⟨f, y, rfl⟩
          · cases white
          · rw [← List.cons_append, List.getLast?_concat] at white
            rw [← List.append_assoc, List.getLast?_concat]
            exact white
        have there := afterToken?_append before hb
        rw [nowhere (a ++ f) (u ++ b) (by simp)] at there
        cases there

end Operator

end Tabular
