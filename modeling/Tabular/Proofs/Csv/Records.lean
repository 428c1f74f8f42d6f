import Tabular.Csv.Records
import Tabular.Proofs.Text.Utf8

/-! # Records that are written and read

What is written of some records is read as the same records, whatever is in their fields
(`read_records`).  The reader keeps count of lines and bytes for its errors; as long as only fields
matter it does what `fieldsFrom` does, which keeps no count.  A field in front of a comma or the end
of a line is read off in three steps: up to its end the reader stands in a plain field, behind a
closing quotation mark or, if nothing is written of the field, where it began (`read_fieldText`), and
in each of these places the byte that follows ends the field. -/

namespace Tabular.Csv

open Utf8 (encode)

/-! ### Reading without places -/

/-- The fields of the records from some place on. -/
def fieldsFrom (fields : List Bytes) (field : Bytes) (place : Place) : Bytes → List (List Bytes)
  | [] => if place = .recordStart then [] else [(field.reverse :: fields).reverse]
  | b :: rest =>
    match place.move b with
    | .drop next => fieldsFrom fields field next rest
    | .keep next => fieldsFrom fields (b :: field) next rest
    | .endField => fieldsFrom (field.reverse :: fields) [] .fieldStart rest
    | .endRecord => (field.reverse :: fields).reverse :: fieldsFrom [] [] .recordStart rest

theorem map_fields_recordsFrom (u : Unfinished) (place : Place) (bytes : Bytes) :
    (recordsFrom u place bytes).map Record.fields = fieldsFrom u.fields u.field place bytes := by
  induction bytes generalizing u place with
  | nil =>
      rw [recordsFrom, fieldsFrom]
      split <;> rfl
  | cons b rest ih =>
      rw [recordsFrom, fieldsFrom]
      cases place.move b with
      | drop next => exact ih _ _
      | keep next => exact ih _ _
      | endField => exact ih _ _
      | endRecord => exact congrArg _ (ih _ _)

theorem map_fields_records {bytes : Bytes} (unmarked : Utf8.byteOrderMark.isPrefixOf bytes = false) :
    (records bytes).map Record.fields = fieldsFrom [] [] .recordStart bytes := by
  rw [records, if_neg (by rw [unmarked]; exact Bool.false_ne_true), map_fields_recordsFrom]
  rfl

/-! ### Bytes of the content -/

variable {fs : List Bytes} {f bs rest : Bytes} {place : Place}

theorem read_kept (h : ∀ b ∈ bs, place.move b = .keep place) :
    fieldsFrom fs f place (bs ++ rest) = fieldsFrom fs (bs.reverse ++ f) place rest := by
  induction bs generalizing f with
  | nil => rfl
  | cons b bs ih =>
      rw [List.cons_append, fieldsFrom, h b List.mem_cons_self]
      dsimp only
      rw [ih fun c hc => h c (List.mem_cons_of_mem _ hc), List.reverse_cons, List.append_assoc]
      rfl

theorem ne_of_mem_encodeChar {x : Char} {b c : UInt8} (mem : b ∈ String.utf8EncodeChar x)
    (low : c.toNat < 128) (other : x.toNat ≠ c.toNat) : b ≠ c := by
  rintro rfl
  exact other (Utf8.toNat_of_mem_encodeChar mem low).symm

theorem move_plain_of_mem {x : Char} (h : needsQuotes x = false) {b : UInt8}
    (mem : b ∈ String.utf8EncodeChar x) : moveUnquoted b = .keep .plain ∧ b ≠ quote ∧
      isRecordEnd b = false := by
  simp only [needsQuotes, Bool.or_eq_false_iff, beq_eq_false_iff_ne] at h
  obtain ⟨⟨⟨not_comma, not_quote⟩, not_feed⟩, not_return⟩ := h
  have apart : ∀ c : Char, x ≠ c → x.toNat ≠ c.toNat := fun c other same =>
    other (Char.toNat_inj.mp same)
  have h₁ : b ≠ comma := ne_of_mem_encodeChar mem (by decide) (apart ',' not_comma)
  have h₂ : b ≠ quote := ne_of_mem_encodeChar mem (by decide) (apart '"' not_quote)
  have h₃ : b ≠ lineFeed := ne_of_mem_encodeChar mem (by decide) (apart '\n' not_feed)
  have h₄ : b ≠ 0x0D := ne_of_mem_encodeChar mem (by decide) (apart '\r' not_return)
  have inside : isRecordEnd b = false := by simp [isRecordEnd, h₃, h₄]
  refine ⟨?_, h₂, inside⟩
  rw [moveUnquoted, if_neg h₁, inside, if_neg Bool.false_ne_true]

theorem move_quoted_of_mem {x : Char} (h : x ≠ '"') {b : UInt8}
    (mem : b ∈ String.utf8EncodeChar x) : Place.quoted.move b = .keep .quoted := by
  have other : b ≠ quote := ne_of_mem_encodeChar mem (by decide) fun same =>
    h (Char.toNat_inj.mp same)
  exact if_neg other

/-- Between quotation marks what is written of a text is read as the text. -/
theorem read_doubleQuotes (t : Text) :
    fieldsFrom fs f .quoted (encode (doubleQuotes t) ++ rest) =
      fieldsFrom fs ((encode t).reverse ++ f) .quoted rest := by
  induction t generalizing f with
  | nil => rfl
  | cons x t ih =>
      rw [doubleQuotes]
      by_cases h : x = '"'
      · subst h
        have twice : encode ('"' :: '"' :: doubleQuotes t) =
            quote :: quote :: encode (doubleQuotes t) := rfl
        have once : encode ('"' :: t) = quote :: encode t := rfl
        rw [if_pos rfl, twice, once, List.cons_append, List.cons_append]
        change fieldsFrom fs (quote :: f) .quoted _ = _
        rw [ih, List.reverse_cons, List.append_assoc]
        rfl
      · rw [if_neg h, Utf8.encode_cons, Utf8.encode_cons, List.append_assoc,
          read_kept fun b hb => move_quoted_of_mem h hb, ih, List.reverse_append, List.append_assoc]

/-! ### Fields -/

/-- The place of the reader behind a written field that began at `start`. -/
def placeAfter (start : Place) (t : Text) : Place :=
  if t.any needsQuotes then .quoteSeen else if t.isEmpty then start else .plain

theorem move_start {b : UInt8} (start : place = .recordStart ∨ place = .fieldStart)
    (inside : isRecordEnd b = false) : place.move b = moveFieldStart b := by
  rcases start with rfl | rfl
  · rw [Place.move, inside, if_neg Bool.false_ne_true]
  · rfl

/-- What is written of a field is read as the field. -/
theorem read_fieldText (start : place = .recordStart ∨ place = .fieldStart) (t : Text) :
    fieldsFrom fs [] place (encode (fieldText t) ++ rest) =
      fieldsFrom fs (encode t).reverse (placeAfter place t) rest := by
  rw [fieldText, placeAfter]
  cases quoted : t.any needsQuotes with
  | true =>
      have written : encode ('"' :: doubleQuotes t ++ ['"']) ++ rest =
          quote :: (encode (doubleQuotes t) ++ quote :: rest) := by
        rw [Utf8.encode_append, List.append_assoc]
        rfl
      rw [if_pos rfl, if_pos rfl, written, fieldsFrom, move_start start rfl]
      change fieldsFrom fs [] .quoted _ = _
      rw [read_doubleQuotes, List.append_nil]
      rfl
  | false =>
      rw [if_neg Bool.false_ne_true, if_neg Bool.false_ne_true]
      have plain : ∀ b ∈ encode t, moveUnquoted b = .keep .plain ∧ b ≠ quote ∧
          isRecordEnd b = false := fun b hb => by
        obtain ⟨x, hx, mem⟩ := List.mem_flatMap.mp hb
        have free := List.any_eq_false.mp quoted x hx
        exact move_plain_of_mem (Bool.eq_false_iff.mpr free) mem
      cases t with
      | nil => rfl
      | cons x t =>
          -- The first byte leads into the field, and the others stay there.
          obtain ⟨b, bs, e⟩ := List.exists_cons_of_ne_nil
            (mt Utf8.encode_eq_nil_iff.mp (List.cons_ne_nil x t))
          rw [e] at plain ⊢
          obtain ⟨keeps, not_quote, inside⟩ := plain b List.mem_cons_self
          have first : place.move b = .keep .plain := by
            rw [move_start start inside, moveFieldStart, if_neg not_quote, keeps]
          have kept : ∀ c ∈ bs, Place.plain.move c = .keep .plain := fun c hc =>
            (plain c (List.mem_cons_of_mem _ hc)).1
          rw [List.cons_append, fieldsFrom, first]
          change fieldsFrom fs [b] .plain (bs ++ rest) = _
          rw [read_kept kept, List.reverse_cons]
          rfl

theorem read_field_comma (start : place = .recordStart ∨ place = .fieldStart) (t : Text) :
    fieldsFrom fs [] place (encode (fieldText t) ++ comma :: rest) =
      fieldsFrom (encode t :: fs) [] .fieldStart rest := by
  have ends : (placeAfter place t).move comma = .endField := by
    rw [placeAfter]
    split
    · rfl
    · split
      · rw [move_start start rfl]
        rfl
      · rfl
  rw [read_fieldText start, fieldsFrom, ends]
  dsimp only
  rw [List.reverse_reverse]

theorem read_field_lineFeed {t : Text} (start : place = .recordStart ∧ t ≠ [] ∨ place = .fieldStart) :
    fieldsFrom fs [] place (encode (fieldText t) ++ lineFeed :: rest) =
      (encode t :: fs).reverse :: fieldsFrom [] [] .recordStart rest := by
  have ends : (placeAfter place t).move lineFeed = .endRecord := by
    rw [placeAfter]
    split
    · rfl
    · rcases start with ⟨rfl, ne⟩ | rfl
      · rw [if_neg (by simpa using ne)]
        rfl
      · split <;> rfl
  rw [read_fieldText (start.imp And.left id), fieldsFrom, ends]
  dsimp only
  rw [List.reverse_reverse]

/-! ### Records -/

/-- The rest of a record from one of its fields on. -/
theorem read_joined (t : Text) (ts : List Text)
    (start : place = .recordStart ∧ (t ≠ [] ∨ ts ≠ []) ∨ place = .fieldStart) :
    fieldsFrom fs [] place
        (encode (Text.joinWith [','] ((t :: ts).map fieldText)) ++ lineFeed :: rest) =
      (fs.reverse ++ (t :: ts).map encode) :: fieldsFrom [] [] .recordStart rest := by
  induction ts generalizing t fs place with
  | nil =>
      have start' : place = .recordStart ∧ t ≠ [] ∨ place = .fieldStart :=
        start.imp_left fun h => ⟨h.1, h.2.resolve_right (fun ne => ne rfl)⟩
      change fieldsFrom fs [] place (encode (fieldText t) ++ lineFeed :: rest) = _
      rw [read_field_lineFeed start', List.reverse_cons]
      rfl
  | cons t' ts ih =>
      have written : encode (Text.joinWith [','] ((t :: t' :: ts).map fieldText)) ++
          lineFeed :: rest = encode (fieldText t) ++ comma ::
            (encode (Text.joinWith [','] ((t' :: ts).map fieldText)) ++ lineFeed :: rest) := by
        change encode (fieldText t ++ [','] ++ Text.joinWith [','] ((t' :: ts).map fieldText)) ++
          _ = _
        rw [Utf8.encode_append, Utf8.encode_append, List.append_assoc, List.append_assoc]
        rfl
      rw [written, read_field_comma (start.imp And.left id), ih t' (.inr rfl), List.reverse_cons,
        List.append_assoc]
      rfl

theorem fieldText_eq_nil_iff {t : Text} : fieldText t = [] ↔ t = [] := by
  rw [fieldText]
  split
  · rename_i quoted
    refine iff_of_false (by simp) ?_
    rintro rfl
    cases quoted
  · rfl

theorem joined_eq_nil_iff {t : Text} {ts : List Text} :
    Text.joinWith [','] ((t :: ts).map fieldText) = [] ↔ t = [] ∧ ts = [] := by
  cases ts with
  | nil =>
      change fieldText t = [] ↔ _
      rw [fieldText_eq_nil_iff]
      simp
  | cons t' ts =>
      change fieldText t ++ [','] ++ Text.joinWith [','] ((t' :: ts).map fieldText) = [] ↔ _
      simp

/-- What is written of a record is read as the record. -/
theorem read_recordText {fields : List Text} (ne : fields ≠ []) :
    fieldsFrom [] [] .recordStart (encode (recordText fields) ++ rest) =
      fields.map encode :: fieldsFrom [] [] .recordStart rest := by
  obtain ⟨t, ts, rfl⟩ := List.exists_cons_of_ne_nil ne
  have ending : encode (recordText (t :: ts)) ++ rest =
      encode (fieldsText (t :: ts)) ++ lineFeed :: rest := by
    rw [recordText, Utf8.encode_append, List.append_assoc]
    rfl
  rw [ending, fieldsText]
  split
  · -- An empty field alone is written between quotation marks.
    rename_i nothing
    obtain ⟨rfl, rfl⟩ := joined_eq_nil_iff.mp nothing
    rfl
  · rename_i something
    have start : t ≠ [] ∨ ts ≠ [] := by
      cases t with
      | nil => exact .inr fun alone => something (joined_eq_nil_iff.mpr ⟨rfl, alone⟩)
      | cons c t => exact .inl (List.cons_ne_nil c t)
    exact read_joined t ts (.inl ⟨rfl, start⟩)

/-! ### Marks -/

theorem head?_of_mark {t : Text} (h : Utf8.byteOrderMark.isPrefixOf (encode t) = true) :
    t.head? = some '\uFEFF' := by
  obtain ⟨rest, e⟩ := List.isPrefixOf_iff_prefix.mp h
  cases t with
  | nil => cases e
  | cons x t =>
      rw [Utf8.encode_cons] at e
      rcases Utf8.encodeChar_cases x with ⟨a, ha, same, low⟩ | ⟨a, b, ha, -, high, -⟩ |
        ⟨a, b, c, ha, -, -, -, -, read⟩ | ⟨a, b, c, d, ha, low, -⟩
      all_goals
        rw [ha] at e
        simp only [Utf8.byteOrderMark, List.cons_append, List.nil_append, List.cons.injEq] at e
      · rw [← e.1] at same
        change 239 = x.toNat at same
        omega
      · rw [← e.1] at high
        cases (show ¬ 239 ≤ 223 by omega) high
      · obtain ⟨rfl, rfl, rfl, -⟩ := e
        exact read.symm.trans (by decide)
      · rw [← e.1] at low
        cases (show ¬ 240 ≤ 239 by omega) low

theorem head?_recordText {t rest : Text} {ts : List Text} {c : Char}
    (h : (recordText (t :: ts) ++ rest).head? = some c) :
    c = '"' ∨ c = ',' ∨ t.head? = some c := by
  have joined : ∃ more, Text.joinWith [','] ((t :: ts).map fieldText) = fieldText t ++ more ∧
      ∀ x ∈ more.head?, x = ',' := by
    cases ts with
    | nil => exact ⟨[], (List.append_nil _).symm, by simp⟩
    | cons t' ts =>
        refine ⟨[','] ++ Text.joinWith [','] ((t' :: ts).map fieldText), ?_, by simp⟩
        rw [← List.append_assoc]
        rfl
  obtain ⟨more, e, comma_first⟩ := joined
  rw [recordText, fieldsText] at h
  split at h
  · exact .inl (Option.some.inj h).symm
  · rename_i something
    rw [e, fieldText] at h
    rw [e] at something
    split at h
    · exact .inl (Option.some.inj h).symm
    · cases t with
      | cons x t => exact .inr (.inr h)
      | nil =>
          cases more with
          | nil => exact absurd rfl something
          | cons x more =>
              have first : x = c := Option.some.inj h
              exact .inr (.inl (first ▸ comma_first x rfl))

/-- **Written records.**  What is written of records with at least one field each is read as the
same records. -/
theorem read_records {rs : List (List Text)} (ne : ∀ fields ∈ rs, fields ≠ []) :
    fieldsFrom [] [] .recordStart (encode (rs.flatMap recordText)) = rs.map (·.map encode) := by
  induction rs with
  | nil => rfl
  | cons fields rs ih =>
      rw [List.flatMap_cons, Utf8.encode_append, read_recordText (ne fields List.mem_cons_self),
        ih fun r hr => ne r (List.mem_cons_of_mem _ hr)]
      rfl

end Tabular.Csv
