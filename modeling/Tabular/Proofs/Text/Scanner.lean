import Mathlib.Computability.Language
import Mathlib.Data.List.Infix
import Mathlib.Data.List.TakeWhile
import Tabular.Text

/-! # Scanners

A scanner takes a piece from the front of a text or fails.  Scanners are put together in order: one
behind the other (`andThen`), or the second one only where the first one fails (`orElse`).  No choice
is taken back once a scanner has succeeded, so what comes out need not be the longest piece of the
language that the scanner is meant for.

`TakesLongest` says that it is, and that the scanner fails only where no piece of the language
stands.  The combinations keep this under a condition on the two languages alone: a choice if no word
of the second language goes on behind a word of the first (`TakesLongest.orElse`), a sequence if no
word of the second begins with a character with which a word of the first can go on
(`TakesLongest.andThen`). -/

namespace Tabular

open scoped Computability

/-- A way to take a piece from the front of a text; the result is the piece and what follows it. -/
abbrev Scanner :=
  Text → Option (Text × Text)

namespace Scanner

/-- Takes a word. -/
def word (w : Text) : Scanner :=
  fun t => (Text.after? w t).map fun rest => (w, rest)

/-- Takes one character of a kind. -/
def one (kind : Char → Bool) : Scanner
  | [] => none
  | c :: t => if kind c then some ([c], t) else none

/-- Takes all characters of a kind that there are, none if need be. -/
def many (kind : Char → Bool) : Scanner :=
  fun t => some (t.takeWhile kind, t.dropWhile kind)

/-- Takes nothing. -/
def nothing : Scanner :=
  fun t => some ([], t)

/-- Takes a piece with one scanner and what follows it with the other one. -/
def andThen (s r : Scanner) : Scanner :=
  fun t => (s t).bind fun (w, rest) => (r rest).map fun (v, rest) => (w ++ v, rest)

/-- Takes a piece with one scanner or, if that fails, with the other one. -/
def orElse (s r : Scanner) : Scanner :=
  fun t => (s t).or (r t)

/-- Takes a piece with a scanner or, if that fails, nothing. -/
def optional (s : Scanner) : Scanner :=
  s.orElse nothing

variable {s r : Scanner} {t w rest : Text} {kind : Char → Bool} {c : Char}

theorem one_of_true (h : kind c = true) (t : Text) : one kind (c :: t) = some ([c], t) :=
  if_pos h

theorem one_of_false (h : kind c = false) (t : Text) : one kind (c :: t) = none := by
  rw [one, h, if_neg Bool.false_ne_true]

theorem andThen_of_none (h : s t = none) : s.andThen r t = none := by
  rw [andThen, h, Option.bind_none]

theorem andThen_of_some (h : s t = some (w, rest)) :
    s.andThen r t = (r rest).map fun (v, rest) => (w ++ v, rest) := by
  rw [andThen, h, Option.bind_some]

theorem orElse_of_none (h : s t = none) : s.orElse r t = r t := by
  rw [orElse, h, Option.none_or]

theorem orElse_of_some (h : s t = some (w, rest)) : s.orElse r t = some (w, rest) := by
  rw [orElse, h, Option.some_or]

theorem optional_of_none (h : s t = none) : s.optional t = some ([], t) :=
  orElse_of_none h

theorem optional_of_some (h : s t = some (w, rest)) : s.optional t = some (w, rest) :=
  orElse_of_some h

end Scanner

/-! ### Languages -/

/-- The words of one character of a kind. -/
def ofKind (kind : Char → Bool) : Language Char :=
  {w | ∃ c, kind c = true ∧ w = [c]}

/-- The words of a language are made of characters of a kind. -/
def IsOver (kind : Char → Bool) (l : Language Char) : Prop :=
  ∀ w ∈ l, ∀ c ∈ w, kind c = true

/-- Where a word of one language can go on, no word of the other one begins. -/
def EndsBefore (l m : Language Char) : Prop :=
  ∀ w c u, w ∈ l → w ++ c :: u ∈ l → ∀ v ∈ m, v.head? ≠ some c

section languages

variable {kind : Char → Bool} {l m : Language Char} {w : Text}

theorem mem_ofKind_mul : w ∈ ofKind kind * l ↔ ∃ c u, kind c = true ∧ u ∈ l ∧ w = c :: u := by
  constructor
  · rintro ⟨_, ⟨c, same, rfl⟩, u, mem, rfl⟩
    exact ⟨c, u, same, mem, rfl⟩
  · rintro ⟨c, u, same, mem, rfl⟩
    exact ⟨[c], ⟨c, same, rfl⟩, u, mem, rfl⟩

theorem mem_ofKind_kstar : w ∈ (ofKind kind)∗ ↔ ∀ c ∈ w, kind c = true := by
  rw [Language.mem_kstar]
  constructor
  · rintro ⟨ws, rfl, each⟩ c mem
    obtain ⟨v, mem_v, mem_c⟩ := List.mem_flatten.mp mem
    obtain ⟨d, hd, rfl⟩ := each v mem_v
    rwa [List.mem_singleton.mp mem_c]
  · intro each
    refine ⟨w.map ([·]), by rw [← List.flatMap_def, List.flatMap_singleton'], ?_⟩
    intro v mem
    obtain ⟨c, mem_c, rfl⟩ := List.mem_map.mp mem
    exact ⟨c, each c mem_c, rfl⟩

namespace IsOver

theorem ofKind {kind' : Char → Bool} (h : ∀ c, kind c = true → kind' c = true) :
    IsOver kind' (ofKind kind) := by
  rintro _ ⟨c, same, rfl⟩ d mem
  rw [List.mem_singleton.mp mem]
  exact h c same

theorem kstar {kind' : Char → Bool} (h : ∀ c, kind c = true → kind' c = true) :
    IsOver kind' (Tabular.ofKind kind)∗ :=
  fun _ mem c mem_c => h c (mem_ofKind_kstar.mp mem c mem_c)

theorem nothing : IsOver kind 1 := by
  rintro _ rfl c mem
  cases mem

theorem mul (hl : IsOver kind l) (hm : IsOver kind m) : IsOver kind (l * m) := by
  rintro _ ⟨w, mem, v, mem', rfl⟩ c mem_c
  exact (List.mem_append.mp mem_c).elim (hl w mem c) (hm v mem' c)

theorem add (hl : IsOver kind l) (hm : IsOver kind m) : IsOver kind (l + m) :=
  fun w mem => mem.elim (hl w) (hm w)

end IsOver

theorem endsBefore_of_ofKind (m : Language Char) : EndsBefore (ofKind kind) m := by
  rintro w c u ⟨d, -, rfl⟩ ⟨e, -, longer⟩
  simp at longer

/-- A language ends before another one if no word of that begins with a character that its own words
are made of. -/
theorem IsOver.endsBefore (h : IsOver kind l)
    (other : ∀ v ∈ m, ∀ c ∈ v.head?, kind c = false) : EndsBefore l m := by
  intro w c u _ longer v mem first
  have inside := h _ longer c (by simp)
  rw [other v mem c first] at inside
  cases inside

end languages

/-! ### The longest word -/

/-- The longest word of a language at the front of a text. -/
structure IsLongest (l : Language Char) (t w : Text) : Prop where
  mem : w ∈ l
  front : w <+: t
  longest : ∀ v ∈ l, v <+: t → v.length ≤ w.length

namespace IsLongest

variable {l m : Language Char} {t w v u : Text}

theorem prefix_of_mem (h : IsLongest l t w) (mem : v ∈ l) (front : v <+: t) : v <+: w :=
  List.prefix_of_prefix_length_le front h.front (h.longest v mem front)

theorem unique (h : IsLongest l t w) (h' : IsLongest l t v) : w = v :=
  (h'.prefix_of_mem h.mem h.front).eq_of_length_le (h.longest v h'.mem h'.front)

/-- A word of one language and one of another behind it stand at the front of a text only if the
first is the longest of its language, or if the second is empty. -/
theorem append_cases (h : IsLongest l t w) (ends : EndsBefore l m) (mem : v ∈ l) (mem' : u ∈ m)
    (front : v ++ u <+: t) : v = w ∨ u = [] ∧ v <+: w := by
  obtain ⟨more, e⟩ := h.prefix_of_mem mem ((List.prefix_append v u).trans front)
  cases more with
  | nil => exact .inl (by rw [← e, List.append_nil])
  | cons c more =>
      refine .inr ⟨?_, ⟨c :: more, e⟩⟩
      cases u with
      | nil => rfl
      | cons d u =>
          have longest := h.front
          rw [← e] at longest
          have both := List.prefix_or_prefix_of_prefix front longest
          rw [List.prefix_append_right_inj, List.prefix_append_right_inj, List.cons_prefix_cons,
            List.cons_prefix_cons] at both
          have same : d = c := both.elim And.left fun h => h.1.symm
          exact absurd (congrArg some same) (ends v c more mem (e ▸ h.mem) (d :: u) mem')

end IsLongest

/-- A scanner takes the longest word of a language, and fails only if there is none. -/
structure TakesLongest (s : Scanner) (l : Language Char) : Prop where
  takes : ∀ {t w rest}, s t = some (w, rest) → t = w ++ rest ∧ IsLongest l t w
  fails : ∀ {t}, s t = none → ∀ w ∈ l, ¬ w <+: t

namespace TakesLongest

variable {s r : Scanner} {l m : Language Char}

theorem eq_none_iff (h : TakesLongest s l) {t : Text} : s t = none ↔ ∀ w ∈ l, ¬ w <+: t := by
  refine ⟨h.fails, fun free => ?_⟩
  cases e : s t with
  | none => rfl
  | some found =>
      obtain ⟨-, longest⟩ := h.takes e
      exact absurd longest.front (free _ longest.mem)

theorem eq_some_iff (h : TakesLongest s l) {t w rest : Text} :
    s t = some (w, rest) ↔ t = w ++ rest ∧ IsLongest l t w := by
  refine ⟨h.takes, fun ⟨whole, longest⟩ => ?_⟩
  cases e : s t with
  | none => exact absurd longest.front (h.fails e w longest.mem)
  | some found =>
      obtain ⟨v, rest'⟩ := found
      obtain ⟨whole', longest'⟩ := h.takes e
      obtain rfl := longest.unique longest'
      rw [List.append_cancel_left (whole.symm.trans whole')]

protected theorem word (w : Text) : TakesLongest (Scanner.word w) {w} where
  takes e := by
    obtain ⟨rest, found, e⟩ := Option.map_eq_some_iff.mp e
    cases e
    have whole := Text.append_of_after? found
    refine ⟨whole.symm, rfl, ⟨_, whole⟩, ?_⟩
    rintro _ rfl -
    exact le_rfl
  fails e := by
    rintro v rfl ⟨rest, rfl⟩
    rw [Scanner.word, Text.after?_append] at e
    cases e

protected theorem one (kind : Char → Bool) : TakesLongest (Scanner.one kind) (ofKind kind) where
  takes {t _ _} e := by
    cases t with
    | nil => cases e
    | cons c t =>
        rw [Scanner.one, Option.ite_none_right_eq_some] at e
        obtain ⟨same, e⟩ := e
        cases e
        refine ⟨rfl, ⟨c, same, rfl⟩, ⟨_, rfl⟩, ?_⟩
        rintro _ ⟨d, -, rfl⟩ -
        exact le_rfl
  fails e := by
    rintro _ ⟨c, same, rfl⟩ ⟨rest, rfl⟩
    rw [List.singleton_append, Scanner.one_of_true same] at e
    cases e

protected theorem many (kind : Char → Bool) :
    TakesLongest (Scanner.many kind) (ofKind kind)∗ where
  takes e := by
    cases e
    refine ⟨List.takeWhile_append_dropWhile.symm, ?_, List.takeWhile_prefix kind, ?_⟩
    · exact mem_ofKind_kstar.mpr fun c mem => List.mem_takeWhile_imp mem
    · rintro v mem ⟨rest, rfl⟩
      rw [List.takeWhile_append_of_pos (mem_ofKind_kstar.mp mem), List.length_append]
      exact Nat.le_add_right _ _
  fails e := by cases e

protected theorem nothing : TakesLongest Scanner.nothing 1 where
  takes e := by
    cases e
    refine ⟨rfl, rfl, List.nil_prefix, ?_⟩
    rintro _ rfl -
    exact le_rfl
  fails e := by cases e

/-- Of two scanners in order the longest word is taken if no word of the second language goes on
behind one of the first. -/
theorem orElse (hs : TakesLongest s l) (hr : TakesLongest r m)
    (apart : ∀ w ∈ l, ∀ v ∈ m, w <+: v → v = w) : TakesLongest (s.orElse r) (l + m) where
  takes {t _ _} e := by
    cases first : s t with
    | some found =>
        rw [Scanner.orElse_of_some first] at e
        cases e
        obtain ⟨whole, longest⟩ := hs.takes first
        refine ⟨whole, .inl longest.mem, longest.front, ?_⟩
        rintro v (mem | mem) front
        · exact longest.longest v mem front
        · rcases List.prefix_or_prefix_of_prefix front longest.front with shorter | longer
          · exact shorter.length_le
          · rw [apart _ longest.mem v mem longer]
    | none =>
        rw [Scanner.orElse_of_none first] at e
        obtain ⟨whole, longest⟩ := hr.takes e
        refine ⟨whole, .inr longest.mem, longest.front, ?_⟩
        rintro v (mem | mem) front
        · exact absurd front (hs.fails first v mem)
        · exact longest.longest v mem front
  fails {t} e := by
    obtain ⟨first, second⟩ := Option.or_eq_none_iff.mp e
    rintro v (mem | mem)
    · exact hs.fails first v mem
    · exact hr.fails second v mem

theorem optional (hs : TakesLongest s l) : TakesLongest s.optional (l + 1) := by
  refine hs.orElse .nothing ?_
  rintro w - _ rfl front
  exact (List.prefix_nil.mp front).symm

/-- Of two scanners one behind the other the longest word is taken if the first language ends before
the second one. -/
theorem andThen (hs : TakesLongest s l) (hr : TakesLongest r m) (ends : EndsBefore l m) :
    TakesLongest (s.andThen r) (l * m) where
  takes e := by
    obtain ⟨⟨w, rest⟩, first, e⟩ := Option.bind_eq_some_iff.mp e
    obtain ⟨⟨v, _⟩, second, e⟩ := Option.map_eq_some_iff.mp e
    cases e
    obtain ⟨rfl, longest⟩ := hs.takes first
    obtain ⟨rfl, longest'⟩ := hr.takes second
    refine ⟨(List.append_assoc ..).symm, ⟨w, longest.mem, v, longest'.mem, rfl⟩, ?_, ?_⟩
    · rw [List.prefix_append_right_inj]
      exact List.prefix_append v _
    · rintro _ ⟨w', mem, v', mem', rfl⟩ front
      rcases longest.append_cases ends mem mem' front with rfl | ⟨rfl, shorter⟩
      · rw [List.prefix_append_right_inj] at front
        simpa using longest'.longest v' mem' front
      · simpa using Nat.le_add_right_of_le shorter.length_le
  fails {t} e := by
    rintro _ ⟨w', mem, v', mem', rfl⟩ front
    cases first : s t with
    | none => exact hs.fails first w' mem ((List.prefix_append w' v').trans front)
    | some found =>
        obtain ⟨w, rest⟩ := found
        rw [Scanner.andThen_of_some first, Option.map_eq_none_iff] at e
        obtain ⟨rfl, longest⟩ := hs.takes first
        rcases longest.append_cases ends mem mem' front with rfl | ⟨rfl, -⟩
        · rw [List.prefix_append_right_inj] at front
          exact hr.fails e v' mem' front
        · exact hr.fails e [] mem' List.nil_prefix

end TakesLongest

end Tabular
