import Tabular.Proofs.Clause.Separator
import Tabular.Proofs.Offset.Piece

/-! # Cutting at a keyword by offsets

A scan goes over a text from one gap, which is a stretch of white space, to the next; it knows where
the part that it is in begins and where it goes on.  If the keyword and more white space follow a
gap, the part ends before the gap and the next one begins behind the separator; if not, the scan
goes on behind the gap.  Every turn of the scan succeeds and gets further on in the text
(`Scan.exists_turn`), so the scan comes to its end and finds the parts of `Clause.cutAtKeyword`
(`splitAtKeyword_eq`). -/

namespace Tabular

open Unicode
open Utf8 (size)

namespace Text

/-- The offsets of both ends of the first gap from an offset on. -/
def nextGap (t : Text) (start : Nat) : Except Fault (Option (Nat × Nat)) := do
  match offsetOf? isWhiteSpace (← t.pieceFrom start) with
  | none => return none
  | some n =>
    let opens := start + n
    let closes := match offsetOf? (fun c => !isWhiteSpace c) (← t.pieceFrom opens) with
      | some m => opens + m
      | none => size t
    return some (opens, closes)

/-- Whether a text begins with a keyword, in any letter case, and white space. -/
def opensAt (keyword t : Text) : Except Fault Bool :=
  if size keyword < size t && (splitAt? (size keyword) t).isSome then do
    let word ← t.pieceUpto (size keyword)
    if sameLetters keyword word then
      return (← t.pieceFrom (size keyword)).head?.any isWhiteSpace
    else return false
  else return false

end Text

/-- The offset at which the current part begins, and the one from which the next gap is looked
for. -/
structure Scan where
  start : Nat
  next : Nat

namespace Scan

/-- What comes of one turn of a scan. -/
inductive Turn where
  /-- There is no gap any more, so the last part goes up to the end. -/
  | last (part : Text)
  /-- A separator ends a part. -/
  | cut (part : Text) (s : Scan)
  /-- There is no separator at the gap. -/
  | pass (s : Scan)

/-- The scan after a turn. -/
def Turn.scan? : Turn → Option Scan
  | last _ => none
  | cut _ s | pass s => some s

/-- One turn of a scan. -/
def turn (keyword t : Text) (s : Scan) : Except Fault Turn := do
  match ← t.nextGap s.next with
  | none => return .last (← t.pieceFrom s.start)
  | some (opens, closes) =>
    if ← Text.opensAt keyword (← t.pieceFrom closes) then
      let part ← t.piece s.start opens
      let next := match ← t.nextGap (closes + size keyword) with
        | some (_, closes) => closes
        | none => size t
      return .cut part ⟨next, next⟩
    else return .pass { s with next := closes }

/-- Two places of a text, the second one not before the first one. -/
structure Places (t : Text) where
  front : Text
  part : Text
  rest : Text
  whole : t = front ++ part ++ rest

/-- The scan that stands at two places of a text. -/
def Places.scan {t : Text} (p : Places t) : Scan :=
  ⟨size p.front, size (p.front ++ p.part)⟩

/-- The parts that a scan finds in a number of turns. -/
def parts (keyword t : Text) : (turns : Nat) → Scan → Except Fault (List Text)
  | 0, _ => .error .endless
  | turns + 1, s => do
    match ← s.turn keyword t with
    | .last part => return [part]
    | .cut part s => return part :: (← parts keyword t turns s)
    | .pass s => parts keyword t turns s

end Scan

/-- The parts of a text between the separators made of a keyword.  There are not more turns than
places in the text. -/
def Text.splitAtKeyword (keyword t : Text) : Except Fault (List Text) :=
  Scan.parts keyword t (size t + 1) ⟨0, 0⟩

/-! ### Gaps -/

/-- White space in a text, of which there is no more on either side. -/
structure Text.Gap (t word gap rest : Text) : Prop where
  whole : t = word ++ gap ++ rest
  solid : ∀ c ∈ word, isWhiteSpace c = false
  gap_ne_nil : gap ≠ []
  blank : ∀ c ∈ gap, isWhiteSpace c = true
  ends : rest = [] ∨ frontSolid rest = true

namespace Text

variable {t word gap rest : Text}

theorem gap_of_cons {c : Char} (u : Text) (solid : ∀ c ∈ word, isWhiteSpace c = false)
    (white : isWhiteSpace c = true) :
    Gap (word ++ c :: u) word ((c :: u).takeWhile isWhiteSpace) (trimStart (c :: u)) where
  whole := by rw [List.append_assoc, trimStart, List.takeWhile_append_dropWhile]
  solid := solid
  gap_ne_nil := by
    rw [List.takeWhile_cons_of_pos white]
    exact List.cons_ne_nil _ _
  blank _ mem := List.mem_takeWhile_imp mem
  ends := by
    by_cases rest : trimStart (c :: u) = []
    · exact .inl rest
    · exact .inr (frontSolid_trimStart rest)

theorem exists_gap (t : Text) :
    (∀ c ∈ t, isWhiteSpace c = false) ∨ ∃ word gap rest, Gap t word gap rest := by
  have first : t.takeWhile (fun c => !isWhiteSpace c) ++ t.dropWhile (fun c => !isWhiteSpace c) = t :=
    List.takeWhile_append_dropWhile
  have solid : ∀ c ∈ t.takeWhile (fun c => !isWhiteSpace c), isWhiteSpace c = false :=
    fun c mem => by simpa using List.mem_takeWhile_imp mem
  cases e : t.dropWhile (fun c => !isWhiteSpace c) with
  | nil =>
      rw [e, List.append_nil] at first
      exact .inl (first ▸ solid)
  | cons c u =>
      have white : isWhiteSpace c = true := by
        have head := List.head?_dropWhile_not (fun c => !isWhiteSpace c) t
        rw [e] at head
        simpa using head
      rw [e] at first
      exact .inr ⟨_, _, _, first ▸ gap_of_cons u solid white⟩

theorem exists_gap_of_opensWith {keyword : Text} (solid : ∀ c ∈ keyword, isWhiteSpace c = false)
    (opens : opensWith keyword t = true) :
    ∃ word gap rest, Gap t word gap rest ∧ sameLetters keyword word = true := by
  obtain ⟨word, c, u, same, white, rfl⟩ := opensWith_iff.mp opens
  exact ⟨word, _, _, gap_of_cons u (isWhiteSpace_of_sameLetters same solid) white, same⟩

theorem Gap.isBlank (h : Gap t word gap rest) : isBlank gap = true :=
  List.all_eq_true.mpr h.blank

theorem Gap.edge (h : Gap t word gap rest) : word = [] ∨ backSolid word = true := by
  by_cases empty : word = []
  · exact .inl empty
  · exact .inr (solid_edges empty h.solid).2

theorem stretches_of_gap (h : Gap t word gap rest) :
    stretches t = stretches word ++ gap :: stretches rest := by
  rw [h.whole, List.append_assoc, stretches_append_gap h.edge h.gap_ne_nil h.isBlank,
    stretches_gap_append h.gap_ne_nil h.isBlank h.ends]

theorem nextGap_of_solid (a : Text) (solid : ∀ c ∈ t, isWhiteSpace c = false) :
    nextGap (a ++ t) (size a) = .ok none := by
  rw [nextGap, pieceFrom_append, Fault.ok_bind, offsetOf?_eq_none solid]
  rfl

theorem nextGap_of_gap (h : Gap t word gap rest) (a : Text) :
    nextGap (a ++ t) (size a) = .ok (some (size (a ++ word), size (a ++ word ++ gap))) := by
  obtain ⟨rfl, solid, ne, blank, ends⟩ := h
  obtain ⟨c, gap', e⟩ := List.exists_cons_of_ne_nil ne
  have white : (gap ++ rest).head?.any isWhiteSpace = true := by
    rw [e]
    exact blank c (e ▸ List.mem_cons_self)
  have opens : offsetOf? isWhiteSpace (word ++ gap ++ rest) = some (size word) := by
    rw [List.append_assoc]
    exact offsetOf?_append solid white
  have closes : offsetOf? (fun c => !isWhiteSpace c) (gap ++ rest) =
      if rest = [] then none else some (size gap) := by
    have inside : ∀ c ∈ gap, (fun c => !isWhiteSpace c) c = false := by simpa using blank
    rcases ends with rfl | front
    · rw [List.append_nil, offsetOf?_eq_none inside, if_pos rfl]
    · rw [offsetOf?_append inside front, if_neg]
      rintro rfl
      cases front
  have place : a ++ (word ++ gap ++ rest) = (a ++ word) ++ (gap ++ rest) := by simp
  rw [nextGap, pieceFrom_append, Fault.ok_bind, opens]
  dsimp only
  rw [← Utf8.size_append, place, pieceFrom_append, Fault.ok_bind, closes]
  by_cases last : rest = []
  · rw [if_pos last, last, List.append_nil]
    rfl
  · rw [if_neg last, Utf8.size_append (a ++ word) gap]
    rfl

/-! ### Keywords -/

variable {keyword : Text}

/-- Looking for a keyword succeeds, and tells whether it opens the text. -/
theorem opensAt_eq (keyword t : Text) : opensAt keyword t = .ok (opensWith keyword t) := by
  by_cases opens : opensWith keyword t = true
  · obtain ⟨word, c, u, same, white, rfl⟩ := opensWith_iff.mp opens
    have longer : size word < size (word ++ c :: u) := by
      rw [Utf8.size_append]
      exact Nat.lt_add_of_pos_right (Utf8.size_pos (List.cons_ne_nil c u))
    rw [opens, opensAt, Utf8.size_of_sameLetters same, splitAt?_append,
      if_pos (by simpa using longer), pieceUpto_append, Fault.ok_bind, if_pos same,
      pieceFrom_append, Fault.ok_bind, List.head?_cons, Option.any_some, white]
    rfl
  · rw [Bool.eq_false_iff.mpr opens, opensAt]
    split
    · rename_i cut
      rw [Bool.and_eq_true, Option.isSome_iff_exists] at cut
      obtain ⟨-, ⟨front, rest⟩, cut⟩ := cut
      obtain ⟨rfl, e⟩ := eq_of_splitAt? _ _ cut
      rw [← e, pieceUpto_append, Fault.ok_bind, pieceFrom_append, Fault.ok_bind]
      split
      · rename_i same
        cases rest with
        | nil => rfl
        | cons c u =>
            have other : isWhiteSpace c = false := Bool.eq_false_iff.mpr fun white =>
              opens (opensWith_iff.mpr ⟨front, c, u, same, white, rfl⟩)
            rw [List.head?_cons, Option.any_some, other]
            rfl
      · rfl
    · rfl

end Text

/-! ### The parts of a text -/

namespace Clause

open Text (Gap)

variable {keyword t word gap rest : Text}

/-- Parts with a text put in front of the first one. -/
def putFirst (a : Text) : List Text → List Text
  | [] => [a]
  | part :: parts => (a ++ part) :: parts

theorem putFirst_putFirst (a b : Text) (parts : List Text) :
    putFirst a (putFirst b parts) = putFirst (a ++ b) parts := by
  cases parts with
  | nil => rfl
  | cons part parts => rw [putFirst, putFirst, putFirst, List.append_assoc]

theorem putFirst_nil (keyword t : Text) :
    putFirst [] (cutAtKeyword keyword t) = cutAtKeyword keyword t := by
  obtain ⟨part, parts, e⟩ := List.exists_cons_of_ne_nil
    (cutStretches_ne_nil keyword (Text.stretches t))
  rw [cutAtKeyword, e]
  rfl

theorem map_flatten_putFront (s : Text) {parts : List (List Text)} :
    (putFront s parts).map List.flatten = putFirst s (parts.map List.flatten) := by
  cases parts with
  | nil => simp [putFront, putFirst]
  | cons part parts => simp [putFront, putFirst]

theorem cutAtKeyword_of_solid (keyword : Text) (solid : ∀ c ∈ t, isWhiteSpace c = false) :
    cutAtKeyword keyword t = [t] := by
  by_cases empty : t = []
  · rw [empty]
    rfl
  · rw [cutAtKeyword, Text.stretches_of_uniform empty solid]
    simp [cutStretches, putFront]

theorem cutStretches_word (keyword : Text) (solid : ∀ c ∈ word, isWhiteSpace c = false)
    (xs : List Text) :
    (cutStretches keyword (Text.stretches word ++ xs)).map List.flatten =
      putFirst word ((cutStretches keyword xs).map List.flatten) := by
  obtain ⟨part, parts, e⟩ := List.exists_cons_of_ne_nil (cutStretches_ne_nil keyword xs)
  by_cases empty : word = []
  · rw [empty, Text.stretches, List.nil_append, e]
    rfl
  · rw [Text.stretches_of_uniform empty solid, List.singleton_append, cutStretches_cons,
      map_flatten_putFront]
    intro w s' rest _ blank
    have back := (Text.solid_edges empty solid).2
    rw [Text.backSolid_of_isBlank blank] at back
    cases back

/-- A keyword between two gaps ends a part. -/
theorem cutAtKeyword_of_opens {keyword' gap' rest' : Text} (h : Gap t word gap rest)
    (h' : Gap rest keyword' gap' rest') (same : Text.sameLetters keyword keyword' = true)
    (ne : keyword' ≠ []) : cutAtKeyword keyword t = word :: cutAtKeyword keyword rest' := by
  rw [cutAtKeyword, Text.stretches_of_gap h, cutStretches_word keyword h.solid, Text.stretches_of_gap h',
    Text.stretches_of_uniform ne h'.solid, List.singleton_append, cutStretches,
    if_pos (by rw [h.isBlank, same]; rfl), List.map_cons, List.flatten_nil, putFirst,
    List.append_nil]
  rfl

/-- A gap that no keyword follows lies within a part. -/
theorem cutAtKeyword_of_gap (solid : ∀ c ∈ keyword, isWhiteSpace c = false)
    (h : Gap t word gap rest) (other : Text.opensWith keyword rest = false) :
    cutAtKeyword keyword t = putFirst (word ++ gap) (cutAtKeyword keyword rest) := by
  rw [cutAtKeyword, Text.stretches_of_gap h, cutStretches_word keyword h.solid, cutStretches_cons,
    map_flatten_putFront, putFirst_putFirst]
  · rfl
  · intro w s' r e _
    rw [Bool.eq_false_iff]
    intro same
    rw [Text.opensWith_of_stretches solid e same] at other
    cases other

end Clause

/-! ### Turns -/

namespace Scan

open Text (Gap)

variable {keyword a b c word gap rest : Text}

theorem turn_of_solid (keyword a b : Text) (solid : ∀ x ∈ c, isWhiteSpace x = false) :
    turn keyword (a ++ b ++ c) ⟨size a, size (a ++ b)⟩ = .ok (.last (b ++ c)) := by
  have rest : (a ++ b ++ c).pieceFrom (size a) = .ok (b ++ c) := by
    rw [List.append_assoc, Text.pieceFrom_append]
  rw [turn, Text.nextGap_of_solid (a ++ b) solid, Fault.ok_bind]
  dsimp only
  rw [rest]
  rfl

theorem turn_of_opens {word' gap' rest' : Text} (a b : Text) (h : Gap c word gap rest)
    (h' : Gap rest word' gap' rest') (same : Text.sameLetters keyword word' = true) :
    turn keyword (a ++ b ++ c) ⟨size a, size (a ++ b)⟩ =
      .ok (.cut (b ++ word) ⟨size (a ++ b ++ word ++ gap ++ word' ++ gap'),
        size (a ++ b ++ word ++ gap ++ word' ++ gap')⟩) := by
  have opens : Text.opensWith keyword rest = true := by
    obtain ⟨x, u, e⟩ := List.exists_cons_of_ne_nil h'.gap_ne_nil
    refine Text.opensWith_iff.mpr ⟨word', x, u ++ rest', same, h'.blank x (e ▸ List.mem_cons_self), ?_⟩
    rw [h'.whole, e, List.append_assoc, List.cons_append]
  have behind : (a ++ b ++ c).pieceFrom (size (a ++ b ++ word ++ gap)) = .ok rest := by
    have place : a ++ b ++ c = (a ++ b ++ word ++ gap) ++ rest := by rw [h.whole]; simp
    rw [place, Text.pieceFrom_append]
  have part : (a ++ b ++ c).piece (size a) (size (a ++ b ++ word)) = .ok (b ++ word) := by
    have place : a ++ b ++ c = a ++ (b ++ word) ++ (gap ++ rest) := by rw [h.whole]; simp
    rw [place, List.append_assoc a b word, Text.piece_append]
  have next : (a ++ b ++ c).nextGap (size (a ++ b ++ word ++ gap ++ word')) =
      .ok (some (size (a ++ b ++ word ++ gap ++ word'),
        size (a ++ b ++ word ++ gap ++ word' ++ gap'))) := by
    have place : a ++ b ++ c = (a ++ b ++ word ++ gap ++ word') ++ (gap' ++ rest') := by
      rw [h.whole, h'.whole]
      simp
    have here : Gap (gap' ++ rest') [] gap' rest' :=
      ⟨rfl, nofun, h'.gap_ne_nil, h'.blank, h'.ends⟩
    rw [place, Text.nextGap_of_gap here, List.append_nil]
  rw [turn, Text.nextGap_of_gap h, Fault.ok_bind]
  dsimp only
  rw [behind, Fault.ok_bind, Text.opensAt_eq, Fault.ok_bind, if_pos opens, part, Fault.ok_bind,
    Utf8.size_of_sameLetters same, ← Utf8.size_append, next]
  rfl

theorem turn_of_gap (a b : Text) (h : Gap c word gap rest)
    (other : Text.opensWith keyword rest = false) :
    turn keyword (a ++ b ++ c) ⟨size a, size (a ++ b)⟩ =
      .ok (.pass ⟨size a, size (a ++ b ++ word ++ gap)⟩) := by
  have behind : (a ++ b ++ c).pieceFrom (size (a ++ b ++ word ++ gap)) = .ok rest := by
    have place : a ++ b ++ c = (a ++ b ++ word ++ gap) ++ rest := by rw [h.whole]; simp
    rw [place, Text.pieceFrom_append]
  rw [turn, Text.nextGap_of_gap h, Fault.ok_bind]
  dsimp only
  rw [behind, Fault.ok_bind, Text.opensAt_eq, Fault.ok_bind, other]
  rfl

/-- **A turn gets further on.**  At two places of a text a turn succeeds, and if the scan goes on it
does so at two places of the text and looks for the next gap later. -/
theorem exists_turn (solid : ∀ x ∈ keyword, isWhiteSpace x = false) {t : Text} (p : Places t) :
    ∃ result, turn keyword t p.scan = .ok result ∧
      ∀ s ∈ result.scan?, ∃ q : Places t, s = q.scan ∧ p.scan.next < q.scan.next := by
  obtain ⟨a, b, c, rfl⟩ := p
  rcases Text.exists_gap c with none_left | ⟨word, gap, rest, h⟩
  · exact ⟨_, turn_of_solid keyword a b none_left, nofun⟩
  have wide := Utf8.size_pos h.gap_ne_nil
  by_cases opens : Text.opensWith keyword rest = true
  · obtain ⟨word', gap', rest', h', same⟩ := Text.exists_gap_of_opensWith solid opens
    refine ⟨_, turn_of_opens a b h h' same, fun s e => ?_⟩
    cases e
    refine ⟨⟨a ++ b ++ word ++ gap ++ word' ++ gap', [], rest', ?_⟩, ?_, ?_⟩
    · rw [h.whole, h'.whole]
      simp
    · simp [Places.scan]
    · simp only [Places.scan, Utf8.size_append]
      omega
  · refine ⟨_, turn_of_gap a b h (Bool.eq_false_iff.mpr opens), fun s e => ?_⟩
    cases e
    refine ⟨⟨a, b ++ word ++ gap, rest, ?_⟩, ?_, ?_⟩
    · rw [h.whole]
      simp
    · simp [Places.scan]
    · simp only [Places.scan, Utf8.size_append]
      omega

/-- The scan finds the parts of what is still to be read, the first of them with what stands in
front of it. -/
theorem parts_eq (solid : ∀ x ∈ keyword, isWhiteSpace x = false) (ne : keyword ≠ []) {turns : Nat}
    (enough : size c < turns) (a b : Text) :
    parts keyword (a ++ b ++ c) turns ⟨size a, size (a ++ b)⟩ =
      .ok (Clause.putFirst b (Clause.cutAtKeyword keyword c)) := by
  induction turns generalizing a b c with
  | zero => cases enough
  | succ turns ih =>
      rcases Text.exists_gap c with none_left | ⟨word, gap, rest, h⟩
      · rw [parts, turn_of_solid keyword a b none_left, Fault.ok_bind,
          Clause.cutAtKeyword_of_solid keyword none_left]
        rfl
      have wide := Utf8.size_pos h.gap_ne_nil
      by_cases opens : Text.opensWith keyword rest = true
      · obtain ⟨word', gap', rest', h', same⟩ := Text.exists_gap_of_opensWith solid opens
        have ne' := Text.ne_nil_of_sameLetters same ne
        have shorter : size rest' < turns := by
          rw [h.whole, h'.whole] at enough
          simp only [Utf8.size_append] at enough
          omega
        have place : a ++ b ++ c = (a ++ b ++ word ++ gap ++ word' ++ gap') ++ [] ++ rest' := by
          rw [h.whole, h'.whole]
          simp
        have tail := ih shorter (a ++ b ++ word ++ gap ++ word' ++ gap') []
        rw [← place, List.append_nil] at tail
        rw [parts, turn_of_opens a b h h' same, Fault.ok_bind]
        dsimp only
        rw [tail, Clause.cutAtKeyword_of_opens h h' same ne', Clause.putFirst_nil]
        rfl
      · have other := Bool.eq_false_iff.mpr opens
        have shorter : size rest < turns := by
          rw [h.whole] at enough
          simp only [Utf8.size_append] at enough
          omega
        have place : a ++ b ++ c = a ++ (b ++ word ++ gap) ++ rest := by
          rw [h.whole]
          simp
        have tail := ih shorter a (b ++ word ++ gap)
        rw [← place] at tail
        rw [parts, turn_of_gap a b h other, Fault.ok_bind, Clause.cutAtKeyword_of_gap solid h other,
          Clause.putFirst_putFirst, ← List.append_assoc b word gap, ← tail]
        simp only [List.append_assoc]

end Scan

/-- **Cutting by offsets succeeds**, and gives the parts of the text. -/
theorem Text.splitAtKeyword_eq (l : Logic) (t : Text) :
    splitAtKeyword l.token t = .ok (Clause.cutAtKeyword l.token t) := by
  have all := Scan.parts_eq l.token_solid l.token_ne_nil (Nat.lt_succ_self (size t)) [] []
  rw [Clause.putFirst_nil, List.append_nil, List.nil_append, Utf8.size_nil] at all
  exact all

/-- White space of several bytes belongs to the separator whole. -/
example : Text.splitAtKeyword Logic.and.token "é\u3000and\u2003ß".toList =
    .ok ["é".toList, "ß".toList] := by
  decide +kernel

end Tabular
