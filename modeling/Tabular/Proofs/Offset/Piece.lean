import Tabular.Proofs.Text.Edges
import Tabular.Proofs.Text.Utf8

/-! # Pieces of a text by byte offsets

A place in a text is given by the number of bytes in front of it.  A piece between two such offsets
is there only if they are in range, in order, and between two characters; otherwise taking it is a
fault.  The offset of a place is the size of the text in front of it, so the piece from there on is
what follows (`pieceFrom_append`), and so on for the other pieces. -/

namespace Tabular

/-- What can go wrong in a search by offsets. -/
inductive Fault where
  /-- An end of a piece is out of range or inside a character. -/
  | piece
  /-- A search does not come to its end. -/
  | endless
  deriving DecidableEq, Repr

theorem Fault.ok_bind {α β : Type} (a : α) (f : α → Except Fault β) :
    (Except.ok a >>= f) = f a := rfl

/-! ### Sizes -/

namespace Utf8

@[simp] theorem size_nil : size [] = 0 := rfl

@[simp] theorem size_cons (c : Char) (t : Text) : size (c :: t) = c.utf8Size + size t := by
  rw [size, encode_cons, List.length_append, String.length_utf8EncodeChar, size]

@[simp] theorem size_append (t u : Text) : size (t ++ u) = size t + size u := by
  rw [size, encode_append, List.length_append, size, size]

theorem size_pos {t : Text} (ne : t ≠ []) : 0 < size t := by
  obtain ⟨c, t, rfl⟩ := List.exists_cons_of_ne_nil ne
  rw [size_cons]
  exact Nat.lt_of_lt_of_le c.utf8Size_pos (Nat.le_add_right _ _)

theorem utf8Size_toUpper (c : Char) : c.toUpper.utf8Size = c.utf8Size :=
  Text.toUpper_congr Char.utf8Size (by decide) c

@[simp] theorem size_map_toUpper (t : Text) : size (t.map Char.toUpper) = size t := by
  induction t with
  | nil => rfl
  | cons c t ih => rw [List.map_cons, size_cons, size_cons, utf8Size_toUpper, ih]

theorem size_of_sameLetters {s t : Text} (h : Text.sameLetters s t = true) : size s = size t := by
  rw [← size_map_toUpper s, Text.sameLetters_iff.mp h, size_map_toUpper]

end Utf8

namespace Text

open Utf8 (size)

/-! ### Pieces -/

/-- A text cut at an offset, if this is one between two characters. -/
def splitAt? : (offset : Nat) → Text → Option (Text × Text)
  | 0, t => some ([], t)
  | _ + 1, [] => none
  | n + 1, c :: t =>
    if c.utf8Size ≤ n + 1 then
      (splitAt? (n + 1 - c.utf8Size) t).map fun (front, rest) => (c :: front, rest)
    else none

/-- What stands in front of an offset. -/
def pieceUpto (t : Text) (stop : Nat) : Except Fault Text :=
  match splitAt? stop t with
  | some (front, _) => .ok front
  | none => .error .piece

/-- What stands from an offset on. -/
def pieceFrom (t : Text) (start : Nat) : Except Fault Text :=
  match splitAt? start t with
  | some (_, rest) => .ok rest
  | none => .error .piece

/-- What stands between two offsets. -/
def piece (t : Text) (start stop : Nat) : Except Fault Text := do
  pieceFrom (← pieceUpto t stop) start

variable (a b c : Text)

theorem splitAt?_append : splitAt? (size a) (a ++ b) = some (a, b) := by
  induction a with
  | nil => cases b <;> rfl
  | cons x a ih =>
      obtain ⟨n, e⟩ := Nat.exists_eq_succ_of_ne_zero (Nat.ne_of_gt (Utf8.size_pos (List.cons_ne_nil x a)))
      have rest : n + 1 - x.utf8Size = size a := by
        rw [Utf8.size_cons] at e
        omega
      have fits : x.utf8Size ≤ n + 1 := by
        rw [Utf8.size_cons] at e
        omega
      rw [e, List.cons_append, splitAt?, if_pos fits, rest, ih]
      rfl

theorem eq_of_splitAt? {t : Text} {n : Nat} (h : splitAt? n t = some (a, b)) :
    t = a ++ b ∧ size a = n := by
  induction t generalizing n a with
  | nil =>
      cases n with
      | zero =>
          cases h
          exact ⟨rfl, rfl⟩
      | succ n => cases h
  | cons x t ih =>
      cases n with
      | zero =>
          cases h
          exact ⟨rfl, rfl⟩
      | succ n =>
          rw [splitAt?] at h
          split at h
          · rename_i fits
            obtain ⟨⟨front, rest⟩, cut, e⟩ := Option.map_eq_some_iff.mp h
            cases e
            obtain ⟨rfl, same⟩ := ih _ cut
            refine ⟨rfl, ?_⟩
            rw [Utf8.size_cons, same]
            omega
          · cases h

theorem pieceUpto_append : pieceUpto (a ++ b) (size a) = .ok a := by
  rw [pieceUpto, splitAt?_append]

theorem pieceFrom_append : pieceFrom (a ++ b) (size a) = .ok b := by
  rw [pieceFrom, splitAt?_append]

theorem piece_append : piece (a ++ b ++ c) (size a) (size (a ++ b)) = .ok b := by
  rw [piece, pieceUpto_append]
  exact pieceFrom_append a b

theorem afterLetters?_eq_splitAt? (word t : Text) :
    afterLetters? word t = (splitAt? (size word) t).bind fun (front, rest) =>
      if sameLetters word front then some rest else none := by
  have at_front : ∀ front rest, t = front ++ rest → sameLetters word front = true →
      splitAt? (size word) t = some (front, rest) := by
    rintro front rest rfl same
    rw [Utf8.size_of_sameLetters same, splitAt?_append]
  cases found : afterLetters? word t with
  | some rest =>
      obtain ⟨front, same, e⟩ := afterLetters?_eq_some_iff.mp found
      rw [at_front front rest e same]
      exact (if_pos same).symm
  | none =>
      cases cut : splitAt? (size word) t with
      | none => rfl
      | some places =>
          obtain ⟨front, rest⟩ := places
          refine (if_neg fun same => ?_).symm
          rw [afterLetters?_eq_some_iff.mpr ⟨front, same, (eq_of_splitAt? _ _ cut).1⟩] at found
          cases found

/-! ### Searching for a character -/

/-- The offset of the first character of a kind. -/
def offsetOf? (kind : Char → Bool) : Text → Option Nat
  | [] => none
  | c :: t => if kind c then some 0 else (offsetOf? kind t).map (c.utf8Size + ·)

variable {kind : Char → Bool}

theorem offsetOf?_eq_none {t : Text} (other : ∀ c ∈ t, kind c = false) :
    offsetOf? kind t = none := by
  induction t with
  | nil => rfl
  | cons c t ih =>
      obtain ⟨first, rest⟩ := List.forall_mem_cons.mp other
      rw [offsetOf?, first, if_neg Bool.false_ne_true, ih rest]
      rfl

theorem offsetOf?_append {a : Text} (other : ∀ c ∈ a, kind c = false) {b : Text}
    (here : b.head?.any kind = true) : offsetOf? kind (a ++ b) = some (size a) := by
  induction a with
  | nil =>
      cases b with
      | nil => cases here
      | cons c b => exact if_pos here
  | cons c a ih =>
      obtain ⟨first, rest⟩ := List.forall_mem_cons.mp other
      rw [List.cons_append, offsetOf?, first, if_neg Bool.false_ne_true, ih rest, Utf8.size_cons]
      rfl

end Text

end Tabular
