import Tabular.Unicode.Classes

/-! # Text

Text is held as the list of its characters, so that cutting, searching and joining are operations
on lists.  This module has those that the other modules share: trimming, blank text, words, and
cutting at a character. -/

namespace Tabular

/-- A piece of text, character by character. -/
abbrev Text := List Char

/-- The content of a file, byte by byte. -/
abbrev Bytes := List UInt8

namespace Text

open Unicode

/-! ### Trimming -/

/-- Text without the white space at its front. -/
def trimStart (t : Text) : Text :=
  t.dropWhile isWhiteSpace

/-- Text without the white space at its end. -/
def trimEnd (t : Text) : Text :=
  (t.reverse.dropWhile isWhiteSpace).reverse

/-- Text without the white space around it. -/
def trim (t : Text) : Text :=
  trimEnd (trimStart t)

/-- Text with nothing in it but white space. -/
def isBlank (t : Text) : Bool :=
  t.all isWhiteSpace

/-! ### Letter case of ASCII letters -/

/-- Equality of characters up to the case of ASCII letters. -/
def sameLetter (a b : Char) : Bool :=
  a.toUpper == b.toUpper

/-- Equality of texts up to the case of ASCII letters. -/
def sameLetters : Text → Text → Bool
  | [], [] => true
  | a :: s, b :: t => sameLetter a b && sameLetters s t
  | _, _ => false

/-- The rest of a text that begins with `word` up to the case of ASCII letters. -/
def afterLetters? : (word t : Text) → Option Text
  | [], t => some t
  | _ :: _, [] => none
  | a :: word, b :: t => if sameLetter a b then afterLetters? word t else none

/-! ### Cutting and searching -/

/-- The rest of a text that begins with `head`. -/
def after? : (head t : Text) → Option Text
  | [], t => some t
  | _ :: _, [] => none
  | a :: head, b :: t => if a = b then after? head t else none

theorem append_of_after? {head t rest : Text} (h : after? head t = some rest) :
    head ++ rest = t := by
  induction head generalizing t with
  | nil => simpa [after?] using h.symm
  | cons a head ih =>
    cases t with
    | nil => simp [after?] at h
    | cons b t =>
      simp only [after?] at h
      split at h
      · subst_vars; simp [ih h]
      · simp at h

theorem after?_append (head rest : Text) : after? head (head ++ rest) = some rest := by
  induction head with
  | nil => rfl
  | cons a head ih => rw [List.cons_append, after?, if_pos rfl, ih]

/-- Whether `part` stands somewhere in a text. -/
def hasPart (part : Text) : Text → Bool
  | [] => part.isEmpty
  | c :: t => part.isPrefixOf (c :: t) || hasPart part t

/-- The pieces of a text between the occurrences of a character; one more than there are
occurrences. -/
def cutAt (sep : Char) : Text → List Text
  | [] => [[]]
  | c :: t =>
    if c = sep then [] :: cutAt sep t
    else
      match cutAt sep t with
      | [] => [[c]]
      | piece :: pieces => (c :: piece) :: pieces

/-- The pieces with `sep` between them. -/
def joinWith (sep : Text) : List Text → Text
  | [] => []
  | [piece] => piece
  | piece :: pieces => piece ++ sep ++ joinWith sep pieces

/-- The maximal stretches of white space and of other characters, in order. -/
def stretches : Text → List Text
  | [] => []
  | c :: t =>
    match stretches t with
    | (d :: s) :: rest =>
      if isWhiteSpace c = isWhiteSpace d then (c :: d :: s) :: rest else [c] :: (d :: s) :: rest
    | rest => [c] :: rest

/-- The stretches that are not white space. -/
def words (t : Text) : List Text :=
  (stretches t).filter fun s => !isBlank s

/-! ### Order -/

/-- The order of texts by code point, a shorter text before its continuations. -/
def before : Text → Text → Bool
  | _, [] => false
  | [], _ :: _ => true
  | a :: s, b :: t => a.toNat < b.toNat || (a == b && before s t)

end Text

end Tabular
