import Tabular.Dataset
import Tabular.Proofs.Row
import Tabular.Proofs.Text.Edges
import Tabular.Proofs.Unicode.LowerCase

/-! # Matching a part of a cell

`LIKE`, `STARTS WITH`, `ENDS WITH` and the search compare lower-case forms, so whether they find a text
that stands in a cell as it is depends on the form that the text has there.  A text is found where
every `Σ` of it ends a word exactly if it does so in the text alone; at the front and at the end of a
cell it is found nowhere else.  The texts that are found in every cell in which they stand are those
that are `Settled` (`finds_literal_part`), among them all without `Σ`; of every other text there is a
cell in which it stands and is not found (`not_finds_front_of_word`). -/

namespace Tabular

open Unicode

/-! ### Parts of a text -/

theorem Text.hasPart_iff {part t : Text} : hasPart part t = true ↔ part <:+: t := by
  induction t with
  | nil => rw [hasPart, List.isEmpty_iff, List.infix_nil]
  | cons c t ih => rw [hasPart, Bool.or_eq_true, List.isPrefixOf_iff_prefix, ih, List.infix_cons_iff]

theorem Text.mentions_iff {t part : Text} :
    mentions t part = true ↔ lowerCase part <:+: lowerCase t :=
  hasPart_iff

/-- A text with a character in front has no other text of the same length in it that does not begin
with this character. -/
theorem not_infix_cons {l l' : Text} {x : Char} (length : l.length = l'.length) (other : l ≠ l')
    (head : l.head? ≠ some x) : ¬ l <:+: x :: l' := by
  intro inside
  rcases List.infix_cons_iff.mp inside with front | rest
  · cases l with
    | nil => exact other (List.length_eq_zero_iff.mp length.symm).symm
    | cons y l => exact head (congrArg some (List.cons_prefix_cons.mp front).1)
  · exact other (rest.eq_of_length length)

theorem not_infix_concat {l l' : Text} {x : Char} (length : l.length = l'.length) (other : l ≠ l')
    (last : l.getLast? ≠ some x) : ¬ l <:+: l' ++ [x] := by
  intro inside
  have turned : l.reverse <:+: x :: l'.reverse := by
    rw [← List.reverse_infix, List.reverse_append] at inside
    exact inside
  refine not_infix_cons ?_ ?_ ?_ turned
  · rw [List.length_reverse, List.length_reverse, length]
  · exact fun e => other (List.reverse_inj.mp e)
  · rwa [List.head?_reverse]

variable {a b d : Text}

/-! ### Where a text is found -/

theorem length_lowerCase_eq (a b d : Text) :
    (lowerCase b).length = (lowerCaseWithin a b d).length := by
  rw [lowerCase_eq, length_lowerCaseWithin]

namespace Text

theorem mentions_of_keepsCase (h : KeepsCase a b d) : mentions (a ++ b ++ d) b = true := by
  rw [mentions_iff, lowerCase_append_append, lowerCaseWithin_eq_lowerCase_iff.mpr h]
  exact List.infix_append _ _ _

theorem isPrefixOf_lowerCase_iff :
    (lowerCase b).isPrefixOf (lowerCase (b ++ d)) = true ↔ KeepsCase [] b d := by
  have whole := lowerCase_append_append [] b d
  rw [List.nil_append, List.append_assoc] at whole
  rw [List.isPrefixOf_iff_prefix, whole, ← lowerCaseWithin_eq_lowerCase_iff]
  change lowerCase b <+: lowerCaseWithin [] b d ++ _ ↔ _
  constructor
  · rintro ⟨rest, e⟩
    exact (List.append_inj e (length_lowerCase_eq [] b d)).1.symm
  · intro same
    rw [same]
    exact List.prefix_append _ _

theorem isSuffixOf_lowerCase_iff :
    (lowerCase b).isSuffixOf (lowerCase (a ++ b)) = true ↔ KeepsCase a b [] := by
  have whole := lowerCase_append_append a b []
  rw [List.append_nil, List.append_nil] at whole
  rw [List.isSuffixOf_iff_suffix, whole, ← lowerCaseWithin_eq_lowerCase_iff]
  change lowerCase b <:+ _ ++ lowerCaseWithin a b [] ++ [] ↔ _
  rw [List.append_nil]
  constructor
  · rintro ⟨front, e⟩
    exact (List.append_inj' e (length_lowerCase_eq a b [])).2.symm
  · intro same
    rw [same]
    exact List.suffix_append _ _

theorem exists_letter (c : Option Char) :
    ∃ x : Char, c ≠ some x ∧ meetsCased [x] = true ∧
      ∀ front back, lowerCaseWithin front [x] back = [x] := by
  by_cases same : c = some 'a'
  · exact ⟨'b', by rw [same]; decide, by decide +kernel, fun _ _ => rfl⟩
  · exact ⟨'a', same, by decide +kernel, fun _ _ => rfl⟩

/-- A text that is not settled stands in some text in which it is not found. -/
theorem exists_not_mentions (h : ¬ Settled b) : ∃ a d, mentions (a ++ b ++ d) b = false := by
  rcases not_keepsCase_of_not_settled h with front | back
  · obtain ⟨x, head, letter, form⟩ := exists_letter (lowerCase b).head?
    refine ⟨[x], [], ?_⟩
    rw [Bool.eq_false_iff, Ne, mentions_iff, lowerCase_append_append, form, List.append_assoc]
    change ¬ lowerCase b <:+: x :: (lowerCaseWithin [x] b [] ++ [])
    rw [List.append_nil]
    refine not_infix_cons (length_lowerCase_eq [x] b []) (fun same => ?_) head
    exact front x letter (lowerCaseWithin_eq_lowerCase_iff.mp same.symm)
  · obtain ⟨x, last, letter, form⟩ := exists_letter (lowerCase b).getLast?
    refine ⟨[], [x], ?_⟩
    rw [Bool.eq_false_iff, Ne, mentions_iff, lowerCase_append_append, form]
    refine not_infix_concat (length_lowerCase_eq [] b [x]) (fun same => ?_) last
    exact back x letter (lowerCaseWithin_eq_lowerCase_iff.mp same.symm)

theorem forall_mentions_iff : (∀ a d, mentions (a ++ b ++ d) b = true) ↔ Settled b := by
  constructor
  · intro always
    by_contra h
    obtain ⟨a, d, missed⟩ := exists_not_mentions h
    rw [always a d] at missed
    cases missed
  · intro settled a d
    exact mentions_of_keepsCase (settled.keepsCase a d)

end Text

/-! ### Searching -/

theorem mem_search_of_keepsCase {term column : Text} {rows : List Row} {row : Row}
    (mem : row ∈ rows) (cell : row.get? column = some (a ++ Text.trim term ++ d))
    (h : KeepsCase a (Text.trim term) d) : row ∈ search rows term := by
  unfold search
  split
  · exact mem
  · refine List.mem_filter.mpr ⟨mem, List.any_eq_true.mpr ?_⟩
    exact ⟨_, Row.mem_cells_iff.mpr cell, Text.mentions_of_keepsCase h⟩

/-- The terms for which the search keeps every row with a cell in which the term stands. -/
theorem forall_mem_search_iff {term : Text} :
    (∀ (rows : List Row) (row : Row) (column a d : Text), row ∈ rows →
      row.get? column = some (a ++ Text.trim term ++ d) → row ∈ search rows term) ↔
    Settled (Text.trim term) := by
  constructor
  · intro always
    by_contra h
    obtain ⟨a, d, missed⟩ := Text.exists_not_mentions h
    let row := Row.ofCells [([], a ++ Text.trim term ++ d)]
    have kept := always [row] row [] a d List.mem_cons_self rfl
    have solid : Text.isBlank term = false := by
      rw [Bool.eq_false_iff, Ne, ← Text.trim_eq_nil_iff]
      intro nil
      exact h (by rw [nil]; exact settled_of_notMem List.not_mem_nil)
    rw [search, solid, if_neg Bool.false_ne_true, List.mem_filter] at kept
    obtain ⟨cell, mem, found⟩ := List.any_eq_true.mp kept.2
    obtain rfl : cell = ([], a ++ Text.trim term ++ d) := List.mem_singleton.mp mem
    rw [missed] at found
    cases found
  · intro settled rows row column a d mem cell
    exact mem_search_of_keepsCase mem cell (settled.keepsCase a d)

namespace Operator

/-- **Matching what stands in a cell.**  A text that stands in a cell as it is is found there by
`LIKE` and by the search, and not by `NOT LIKE`, where every `Σ` of it ends a word exactly if it does
so in the text alone; at the front and at the end of a cell, by `STARTS WITH` and `ENDS WITH`, it is
found exactly there.  It is found by `LIKE`, by the search and not by `NOT LIKE` wherever it stands
exactly if it is settled; a text without `Σ` is. -/
theorem finds_literal_part (b : Text) :
    (∀ a d : Text, KeepsCase a b d →
      like.holds (a ++ b ++ d) b = true ∧ notLike.holds (a ++ b ++ d) b = false ∧
      ∀ (term column : Text) (rows : List Row) (row : Row), Text.trim term = b → row ∈ rows →
        row.get? column = some (a ++ b ++ d) → row ∈ search rows term) ∧
    (∀ d : Text, startsWith.holds (b ++ d) b = true ↔ KeepsCase [] b d) ∧
    (∀ a : Text, endsWith.holds (a ++ b) b = true ↔ KeepsCase a b []) ∧
    ((∀ a d : Text, like.holds (a ++ b ++ d) b = true) ↔ Settled b) ∧
    ((∀ a d : Text, notLike.holds (a ++ b ++ d) b = false) ↔ Settled b) ∧
    (∀ term : Text, Text.trim term = b →
      ((∀ (rows : List Row) (row : Row) (column a d : Text), row ∈ rows →
        row.get? column = some (a ++ b ++ d) → row ∈ search rows term) ↔ Settled b)) ∧
    (Settled b → ∀ a d : Text, KeepsCase a b d) ∧
    ('Σ' ∉ b → Settled b) := by
  refine ⟨?_, fun d => Text.isPrefixOf_lowerCase_iff, fun a => Text.isSuffixOf_lowerCase_iff,
    Text.forall_mentions_iff, ?_, ?_, fun settled => settled.keepsCase, settled_of_notMem⟩
  · intro a d keeps
    have found := Text.mentions_of_keepsCase keeps
    refine ⟨found, ?_, ?_⟩
    · change (!Text.mentions (a ++ b ++ d) b) = false
      rw [found]
      rfl
    · rintro term column rows row rfl mem cell
      exact mem_search_of_keepsCase mem cell keeps
  · rw [← Text.forall_mentions_iff]
    simp only [holds, Bool.not_eq_false']
  · rintro term rfl
    exact forall_mem_search_iff

/-- A word that is found as a word of its own, and a part of a word that is known to go on. -/
theorem finds_literal_part_word :
    let a := "Η ".toList
    let b := "ΟΔΟΣ".toList
    let d := "\t5".toList
    let row := Row.ofCells [("n".toList, a ++ b ++ d)]
    (KeepsCase a b d ∧ Text.trim " ΟΔΟΣ".toList = b ∧ row ∈ [row] ∧
      row.get? "n".toList = some (a ++ b ++ d)) ∧ Settled "ΟΣΗ".toList ∧
    like.holds (a ++ b ++ d) b = true ∧ notLike.holds (a ++ b ++ d) b = false ∧
    row ∈ search [row] " ΟΔΟΣ".toList ∧ like.holds "ΑΟΣΗΣ".toList "ΟΣΗ".toList = true := by
  intro a b d row
  have keeps : KeepsCase a b d := lowerCaseWithin_eq_lowerCase_iff.mp (by decide +kernel)
  have settled : Settled "ΟΣΗ".toList := by
    intro u w e
    obtain rfl : w = "Η".toList := by
      match u, e with
      | [], e => simp at e
      | [_], e => exact (List.cons.inj (List.cons.inj e).2).2.symm
      | [_, _], e => simp at e
      | _ :: _ :: _ :: u, e => simp at e
    exact .inl (by decide +kernel)
  have term : Text.trim " ΟΔΟΣ".toList = b := by decide
  have cell : row.get? "n".toList = some (a ++ b ++ d) := rfl
  obtain ⟨found, lost, searched⟩ := (finds_literal_part b).1 a d keeps
  obtain ⟨-, -, -, always, -⟩ := finds_literal_part "ΟΣΗ".toList
  exact ⟨⟨keeps, term, List.mem_cons_self, cell⟩, settled, found, lost,
    searched _ _ _ _ term List.mem_cons_self cell,
    always.mpr settled "Α".toList "Σ".toList⟩

/-- The front of a word that ends in `Σ` by itself, and a `Σ` that ends a word. -/
theorem not_finds_front_of_word :
    let row := Row.ofCells [("n".toList, "ΑΣΑ".toList)]
    like.holds "ΑΣΑ".toList "ΑΣ".toList = false ∧ notLike.holds "ΑΣΑ".toList "ΑΣ".toList = true ∧
    startsWith.holds "ΑΣΑ".toList "ΑΣ".toList = false ∧
    endsWith.holds "ΑΣ".toList "Σ".toList = false ∧ row ∉ search [row] "ΑΣ".toList := by
  intro row
  refine ⟨by decide +kernel, by decide +kernel, by decide +kernel, by decide +kernel, ?_⟩
  have empty : (search [row] "ΑΣ".toList).length = 0 := by decide +kernel
  rw [List.length_eq_zero_iff.mp empty]
  exact List.not_mem_nil

end Operator

end Tabular
