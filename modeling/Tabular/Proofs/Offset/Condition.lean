import Tabular.Proofs.Offset.Piece
import Tabular.Proofs.Operator.Place

/-! # Reading a condition by offsets

The token of an operator is looked for in the fragment in capital letters, and the offset at which
it counts there is used to cut the fragment itself.  Capital letters do not move the places of a
text.  Only occurrences of a keyword that do not overlap are looked at, but none that overlaps one
counts (`Operator.afterToken?_within`), so the place that is found is the first one
(`Operator.tokenOffset?_eq`) and the condition is the one of `Condition.parse?`
(`Condition.readAt_eq`). -/

namespace Tabular

open Unicode
open Utf8 (size)

/-- The offsets of the occurrences of a word that do not overlap; `passed` bytes stand in front of
the text, whose first `skip` characters belong to the last occurrence. -/
def Text.occurrences (word : Text) : (passed skip : Nat) → Text → List Nat
  | _, _, [] => []
  | passed, skip + 1, c :: t => occurrences word (passed + c.utf8Size) skip t
  | passed, 0, c :: t =>
    if (after? word (c :: t)).isSome then
      passed :: occurrences word (passed + c.utf8Size) (word.length - 1) t
    else occurrences word (passed + c.utf8Size) 0 t

namespace Operator

/-- The first of some occurrences of a word with white space before it and nothing behind it that
makes it longer. -/
def wholeOffset? (upper word : Text) : List Nat → Except Fault (Option Nat)
  | [] => return none
  | n :: rest => do
    let before := (← upper.pieceUpto n).getLast?
    let after := (← upper.pieceFrom (n + size word)).head?
    if before.any isWhiteSpace && !after.any isWordChar then return some n
    else wholeOffset? upper word rest

/-- The offset at which the token of an operator counts in a fragment in capital letters. -/
def tokenOffset? (upper : Text) (op : Operator) : Except Fault (Option Nat) :=
  let places := Text.occurrences op.token 0 0 upper
  if op.isKeyword then wholeOffset? upper op.token places else return places.head?

end Operator

namespace Condition

/-- The condition that some operators, one after the other, find in a trimmed fragment. -/
def findAt (t upper : Text) : List Operator → Except Fault (Option Condition)
  | [] => return none
  | op :: rest => do
    match ← Operator.tokenOffset? upper op with
    | none => findAt t upper rest
    | some n =>
      if n = 0 then findAt t upper rest
      else
        let column := Text.trim (← t.pieceUpto n)
        if column.isEmpty then return none
        else return some ⟨column, op, unquote (Text.trim (← t.pieceFrom (n + size op.token)))⟩

/-- The condition that a fragment of text says. -/
def readAt (fragment : Text) : Except Fault (Option Condition) :=
  let t := Text.trim fragment
  findAt t (t.map Char.toUpper) Operator.scanOrder

end Condition

/-! ### Capital letters -/

theorem Text.after?_map_toUpper (word t : Text) :
    after? (word.map Char.toUpper) (t.map Char.toUpper) =
      (afterLetters? word t).map (List.map Char.toUpper) := by
  induction word generalizing t with
  | nil => rfl
  | cons a word ih =>
      cases t with
      | nil => rfl
      | cons b t =>
          rw [List.map_cons, List.map_cons, after?, afterLetters?, ih]
          have iff : a.toUpper = b.toUpper ↔ sameLetter a b = true := beq_iff_eq.symm
          by_cases same : sameLetter a b = true
          · rw [if_pos (iff.mpr same), if_pos same]
          · rw [if_neg (mt iff.mp same), if_neg same]
            rfl

namespace Operator

variable {op : Operator} {last : Option Char} {t u rest x y : Text}

theorem isWordChar_toUpper (c : Char) : isWordChar c.toUpper = isWordChar c :=
  Text.toUpper_congr isWordChar (by decide) c

theorem token_map_toUpper (op : Operator) : op.token.map Char.toUpper = op.token := by
  cases op <;> decide

theorem isSome_after?_token (op : Operator) (t : Text) :
    (Text.after? op.token (t.map Char.toUpper)).isSome = (Text.afterLetters? op.token t).isSome := by
  have same := Text.after?_map_toUpper op.token t
  rw [token_map_toUpper] at same
  rw [same, Option.isSome_map]

/-! ### Occurrences -/

theorem occurrences_cons {c : Char} (other : Text.afterLetters? op.token (c :: t) = none)
    (passed : Nat) :
    Text.occurrences op.token passed 0 ((c :: t).map Char.toUpper) =
      Text.occurrences op.token (passed + size [c]) 0 (t.map Char.toUpper) := by
  have here := isSome_after?_token op (c :: t)
  rw [other, List.map_cons] at here
  rw [List.map_cons, Text.occurrences, here, if_neg (by simp), Utf8.utf8Size_toUpper,
    Utf8.size_cons, Utf8.size_nil, Nat.add_zero]

theorem occurrences_skip (word : Text) (passed : Nat) (x t : Text) :
    Text.occurrences word passed x.length (x.map Char.toUpper ++ t) =
      Text.occurrences word (passed + size x) 0 t := by
  induction x generalizing passed with
  | nil => rfl
  | cons c x ih =>
      rw [List.map_cons, List.cons_append, List.length_cons, Text.occurrences, ih,
        Utf8.utf8Size_toUpper, Utf8.size_cons, Nat.add_assoc]

theorem occurrences_token {word : Text} {c : Char} {passed : Nat}
    (same : Text.sameLetters op.token word = true) (e : c :: t = word ++ rest) :
    Text.occurrences op.token passed 0 ((c :: t).map Char.toUpper) =
      passed :: Text.occurrences op.token (passed + size word) 0 (rest.map Char.toUpper) := by
  have here := isSome_after?_token op (c :: t)
  rw [Text.afterLetters?_eq_some_iff.mpr ⟨word, same, e⟩, List.map_cons] at here
  cases word with
  | nil => exact absurd rfl (Text.ne_nil_of_sameLetters same op.token_ne_nil)
  | cons d word =>
      obtain ⟨rfl, rfl⟩ : c = d ∧ t = word ++ rest := List.cons.inj e
      have long : op.token.length - 1 = word.length := by
        rw [Text.length_of_sameLetters same, List.length_cons, Nat.add_sub_cancel]
      rw [List.map_cons, Text.occurrences, here, if_pos Option.isSome_some, long, List.map_append,
        occurrences_skip, Utf8.utf8Size_toUpper, Utf8.size_cons, Nat.add_assoc]

/-! ### Symbols -/

theorem head?_occurrences (symbol : op.isKeyword = false) (passed : Nat) :
    (Text.occurrences op.token passed 0 (t.map Char.toUpper)).head? =
      (op.cutFrom? last t).map fun places => passed + size places.1 := by
  induction t generalizing passed last with
  | nil => rfl
  | cons c t ih =>
      cases found : Text.afterLetters? op.token (c :: t) with
      | some rest =>
          obtain ⟨word, same, e⟩ := Text.afterLetters?_eq_some_iff.mp found
          have here : op.afterToken? last (c :: t) = some rest := by
            rw [afterToken?, found, symbol]
            rfl
          rw [occurrences_token same e, cutFrom?_cons, here]
          rfl
      | none =>
          have nothing : op.afterToken? last (c :: t) = none := by rw [afterToken?, found]
          have tail := @ih (some c) (passed + size [c])
          rw [occurrences_cons found, tail, cutFrom?_cons, nothing]
          dsimp only
          rw [Option.map_map]
          congr 1
          funext places
          simp [Nat.add_assoc]

/-! ### Keywords -/

/-- No part of a keyword that white space precedes begins like the keyword. -/
theorem token_overlap (keyword : op.isKeyword = true) {n : Nat} (pos : 0 < n)
    (short : n < op.token.length) (white : (op.token.take n).getLast?.any isWhiteSpace = true) :
    op.token.take (op.token.length - n) ≠ op.token.drop n := by
  have all : ∀ op ∈ Operator.all, op.isKeyword = true → ∀ n ∈ List.range op.token.length, 0 < n →
      (op.token.take n).getLast?.any isWhiteSpace = true →
      op.token.take (op.token.length - n) ≠ op.token.drop n := by decide +kernel
  exact all op (mem_all op) keyword n (List.mem_range.mpr short) pos white

theorem getLast?_any_map_toUpper (t : Text) :
    (t.map Char.toUpper).getLast?.any isWhiteSpace = t.getLast?.any isWhiteSpace := by
  rw [List.getLast?_map, Option.any_map]
  exact congrArg (t.getLast?.any ·) (funext Text.isWhiteSpace_toUpper)

theorem head?_any_map_toUpper (t : Text) :
    (t.map Char.toUpper).head?.any isWordChar = t.head?.any isWordChar := by
  rw [List.head?_map, Option.any_map]
  exact congrArg (t.head?.any ·) (funext isWordChar_toUpper)

/-- A keyword does not count within an occurrence of itself. -/
theorem afterToken?_within (keyword : op.isKeyword = true) (hx : x ≠ []) (hy : y ≠ [])
    (same : Text.sameLetters op.token (x ++ y) = true) (u : Text) :
    op.afterToken? x.getLast? (y ++ u) = none := by
  rw [Option.eq_none_iff_forall_ne_some]
  intro rest counts
  obtain ⟨⟨word, same', e⟩, counts⟩ := afterToken?_eq_some_iff.mp counts
  have long := Text.length_of_sameLetters same
  have long' := Text.length_of_sameLetters same'
  rw [List.length_append] at long
  have pos := List.length_pos_iff.mpr hx
  have pos' := List.length_pos_iff.mpr hy
  have whole : op.token = x.map Char.toUpper ++ y.map Char.toUpper := by
    rw [← List.map_append, ← Text.sameLetters_iff.mp same, token_map_toUpper]
  have whole' : op.token = word.map Char.toUpper := by
    rw [← Text.sameLetters_iff.mp same', token_map_toUpper]
  -- What stands at the end of the one occurrence stands at the front of the other.
  have front : y = word.take y.length := by
    have cut := congrArg (List.take y.length) e
    rwa [List.take_left, List.take_append_of_le_length (by omega)] at cut
  have left : op.token.take x.length = x.map Char.toUpper := by
    rw [whole, List.take_left' (List.length_map _)]
  have right : op.token.drop x.length = y.map Char.toUpper := by
    rw [whole, List.drop_left' (List.length_map _)]
  refine token_overlap keyword pos (by omega) ?_ ?_
  · rw [left, getLast?_any_map_toUpper]
    exact (counts keyword).1
  · rw [right, show op.token.length - x.length = y.length by omega, whole', ← List.map_take, ← front]

theorem afterToken?_of_keyword (keyword : op.isKeyword = true)
    (found : Text.afterLetters? op.token t = some rest) (last : Option Char) :
    op.afterToken? last t =
      if last.any isWhiteSpace && !rest.head?.any isWordChar then some rest else none := by
  rw [afterToken?, found, keyword]
  dsimp only
  cases last.any isWhiteSpace && !rest.head?.any isWordChar <;> rfl

/-- A keyword that does not count at an occurrence counts nowhere within this occurrence. -/
theorem afterToken?_in_occurrence (keyword : op.isKeyword = true) (hy : y ≠ [])
    (same : Text.sameLetters op.token (x ++ y) = true)
    (first : op.afterToken? last (x ++ y ++ u) = none) :
    op.afterToken? (x.getLast?.or last) (y ++ u) = none := by
  rcases List.eq_nil_or_concat' x with rfl | ⟨x, c, rfl⟩
  · exact first
  · have within := afterToken?_within keyword (by simp) hy same u
    rwa [List.getLast?_concat] at within ⊢

theorem wholeOffset?_cons {word : Text} (same : Text.sameLetters op.token word = true)
    (e : t = word ++ rest) (a : Text) (places : List Nat) :
    wholeOffset? ((a ++ t).map Char.toUpper) op.token (size a :: places) =
      if a.getLast?.any isWhiteSpace && !rest.head?.any isWordChar then .ok (some (size a))
      else wholeOffset? ((a ++ t).map Char.toUpper) op.token places := by
  have before : Text.pieceUpto ((a ++ t).map Char.toUpper) (size a) = .ok (a.map Char.toUpper) := by
    rw [List.map_append, ← Utf8.size_map_toUpper a, Text.pieceUpto_append]
  have after : Text.pieceFrom ((a ++ t).map Char.toUpper) (size a + size op.token) =
      .ok (rest.map Char.toUpper) := by
    rw [e, ← List.append_assoc, List.map_append, Utf8.size_of_sameLetters same,
      ← Utf8.size_append, ← Utf8.size_map_toUpper (a ++ word), Text.pieceFrom_append]
  rw [wholeOffset?, before, Fault.ok_bind, after, Fault.ok_bind]
  dsimp only
  rw [getLast?_any_map_toUpper, head?_any_map_toUpper]
  rfl

theorem cutFrom?_pass
    (nowhere : ∀ a b, x = a ++ b → b ≠ [] → op.afterToken? (a.getLast?.or last) (b ++ u) = none) :
    op.cutFrom? last (x ++ u) =
      (op.cutFrom? (x.getLast?.or last) u).map fun (front, rest) => (x ++ front, rest) := by
  induction x generalizing last with
  | nil =>
      change _ = (op.cutFrom? last u).map id
      rw [Option.map_id]
      rfl
  | cons c x ih =>
      have here : op.afterToken? last (c :: x ++ u) = none :=
        nowhere [] (c :: x) rfl (List.cons_ne_nil c x)
      have tail := @ih (some c) fun a b e ne => by
        rw [← getLast?_cons_or]
        exact nowhere (c :: a) b (by rw [e]; rfl) ne
      rw [List.cons_append] at here
      rw [List.cons_append, cutFrom?_cons, here, getLast?_cons_or, tail]
      dsimp only
      rw [Option.map_map]
      rfl

/-- Looking at the occurrences of a keyword succeeds, and finds the first place where it counts. -/
theorem wholeOffset?_occurrences (keyword : op.isKeyword = true) (a t : Text) :
    wholeOffset? ((a ++ t).map Char.toUpper) op.token
        (Text.occurrences op.token (size a) 0 (t.map Char.toUpper)) =
      .ok ((op.cutFrom? a.getLast? t).map fun places => size (a ++ places.1)) := by
  induction len : t.length using Nat.strong_induction_on generalizing a t with
  | _ n ih =>
  -- The search goes on behind a part in which the keyword counts nowhere.
  have beyond : ∀ x u, t = x ++ u → x ≠ [] →
      (∀ f b, x = f ++ b → b ≠ [] → op.afterToken? (f.getLast?.or a.getLast?) (b ++ u) = none) →
      wholeOffset? ((a ++ t).map Char.toUpper) op.token
          (Text.occurrences op.token (size a + size x) 0 (u.map Char.toUpper)) =
        .ok ((op.cutFrom? a.getLast? t).map fun places => size (a ++ places.1)) := by
    intro x u e ne nowhere
    have shorter : u.length < n := by
      rw [← len, e, List.length_append]
      exact Nat.lt_add_of_pos_left (List.length_pos_iff.mpr ne)
    have tail := ih u.length shorter (a ++ x) u rfl
    rw [e, cutFrom?_pass nowhere, Option.map_map, ← List.getLast?_append, ← Utf8.size_append,
      ← List.append_assoc, tail]
    congr 2
    funext places
    exact congrArg size (List.append_assoc a x places.1)
  cases t with
  | nil => rfl
  | cons c t =>
  cases found : Text.afterLetters? op.token (c :: t) with
  | none =>
      have nothing : op.afterToken? a.getLast? (c :: t) = none := by rw [afterToken?, found]
      rw [occurrences_cons found]
      refine beyond [c] t rfl (List.cons_ne_nil c []) fun f b e ne => ?_
      obtain ⟨rfl, rfl⟩ := (List.singleton_eq_append_iff.mp e).resolve_right fun h => ne h.2
      exact nothing
  | some rest =>
      obtain ⟨word, same, e⟩ := Text.afterLetters?_eq_some_iff.mp found
      have here := afterToken?_of_keyword keyword found a.getLast?
      rw [occurrences_token same e, wholeOffset?_cons same e]
      by_cases counts : (a.getLast?.any isWhiteSpace && !rest.head?.any isWordChar) = true
      · rw [if_pos counts] at here ⊢
        rw [cutFrom?_cons, here, Option.map_some, List.append_nil]
      · rw [if_neg counts] at here ⊢
        have ne := Text.ne_nil_of_sameLetters same op.token_ne_nil
        refine beyond word rest e ne fun f b whole ne' => ?_
        rw [whole] at same e
        rw [e] at here
        exact afterToken?_in_occurrence keyword ne' same here

/-- **Looking for the token of an operator succeeds**, and finds the offset of the first place where
it counts. -/
theorem tokenOffset?_eq (op : Operator) (t : Text) :
    tokenOffset? (t.map Char.toUpper) op = .ok ((op.cut? t).map fun places => size places.1) := by
  cases keyword : op.isKeyword with
  | true =>
      rw [tokenOffset?, keyword]
      exact wholeOffset?_occurrences keyword [] t
  | false =>
      have first := @head?_occurrences op none t keyword 0
      simp only [Nat.zero_add] at first
      rw [tokenOffset?, keyword, first]
      rfl

end Operator

namespace Condition

/-- A text that does not begin with white space is read by the operators as they are tried. -/
theorem findAt_eq {t : Text} (edge : t = [] ∨ Text.frontSolid t = true) (ops : List Operator) :
    findAt t (t.map Char.toUpper) ops =
      .ok (ops.findSome? fun op => (op.cut? t).bind (ofCut? op)) := by
  induction ops with
  | nil => rfl
  | cons op ops ih =>
      rw [findAt, Operator.tokenOffset?_eq, Fault.ok_bind, List.findSome?_cons]
      cases cut : op.cut? t with
      | none => exact ih
      | some places =>
          obtain ⟨front, rest⟩ := places
          cases front with
          | nil => exact ih
          | cons c front =>
              obtain ⟨u, whole, counts⟩ := Operator.exists_of_cutFrom? cut
              obtain ⟨⟨word, same, rfl⟩, -⟩ := Operator.afterToken?_eq_some_iff.mp counts
              have solid : Text.frontSolid (c :: front) = true := by
                refine Text.frontSolid_of_append (List.cons_ne_nil c front) (u := word ++ rest) ?_
                rw [← whole]
                refine edge.resolve_left ?_
                rintro rfl
                cases whole
              have column : (Text.trim (c :: front)).isEmpty = false :=
                List.isEmpty_eq_false_iff.mpr (Text.trim_ne_nil solid)
              have left : t.pieceUpto (size (c :: front)) = .ok (c :: front) := by
                rw [whole, Text.pieceUpto_append]
              have right : t.pieceFrom (size (c :: front) + size op.token) = .ok rest := by
                rw [whole, ← List.append_assoc, Utf8.size_of_sameLetters same, ← Utf8.size_append,
                  Text.pieceFrom_append]
              have pos := (Utf8.size_pos (List.cons_ne_nil c front)).ne'
              simp only [Option.map_some, if_neg pos, left, right, column, Fault.ok_bind]
              rfl

/-- **Reading a condition by offsets succeeds**, and gives the condition that the fragment says. -/
theorem readAt_eq (fragment : Text) : readAt fragment = .ok (parse? fragment) := by
  rw [readAt, findAt_eq, parse?]
  by_cases empty : Text.trim fragment = []
  · exact .inl empty
  · exact .inr (Text.frontSolid_trim empty)

end Condition

end Tabular
