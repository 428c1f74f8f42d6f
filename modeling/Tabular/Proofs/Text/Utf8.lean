import Tabular.Text.Utf8

/-! # Text as bytes and back

What `encode` writes is read back by `decode` (`decode_encode`).  A byte below 128 stands for one
character by itself, and no other character has such a byte (`toNat_of_mem_encodeChar`), so what a
reader of bytes does at a comma or a quotation mark it does at these characters alone. -/

namespace Tabular.Utf8

/-! ### Bytes by their numbers -/

theorem toNat_ofNat {n : Nat} (h : n < 256) : (UInt8.ofNat n).toNat = n :=
  UInt8.toNat_ofNat_of_lt' h

theorem not_lt_of_le_toNat {b : UInt8} (h : 128 ≤ b.toNat) : ¬ b < 0x80 := by
  rw [UInt8.lt_iff_toNat_lt]
  exact Nat.not_lt.mpr h

theorem isTail_iff {b : UInt8} : isTail b = true ↔ 128 ≤ b.toNat ∧ b.toNat ≤ 191 := by
  rw [isTail, Bool.and_eq_true, decide_eq_true_eq, decide_eq_true_eq, UInt8.le_iff_toNat_le,
    UInt8.le_iff_toNat_le]
  rfl

theorem opensLonger_of_three {a b : UInt8} (ha : 224 ≤ a.toNat ∧ a.toNat ≤ 239)
    (hb : 128 ≤ b.toNat ∧ b.toNat ≤ 191) (large : a.toNat = 224 → 160 ≤ b.toNat)
    (sound : a.toNat = 237 → b.toNat ≤ 159) : opensLonger a b = true := by
  simp only [opensLonger, isTail, Bool.or_eq_true, Bool.and_eq_true, beq_iff_eq, bne_iff_ne, ne_eq,
    decide_eq_true_eq, ← UInt8.toNat_inj, UInt8.le_iff_toNat_le, UInt8.reduceToNat]
  omega

theorem opensLonger_of_four {a b : UInt8} (ha : 240 ≤ a.toNat ∧ a.toNat ≤ 244)
    (hb : 128 ≤ b.toNat ∧ b.toNat ≤ 191) (large : a.toNat = 240 → 144 ≤ b.toNat)
    (small : a.toNat = 244 → b.toNat ≤ 143) : opensLonger a b = true := by
  simp only [opensLonger, isTail, Bool.or_eq_true, Bool.and_eq_true, beq_iff_eq, bne_iff_ne, ne_eq,
    decide_eq_true_eq, ← UInt8.toNat_inj, UInt8.le_iff_toNat_le, UInt8.reduceToNat]
  omega

/-! ### One character -/

section one

variable {a b c d : UInt8} {v : Nat}

theorem two?_eq_some (ha : a.toNat = v / 64 % 32 + 192) (hb : b.toNat = v % 64 + 128)
    (low : 128 ≤ v) (high : v < 2048) : two? a b = some (Char.ofNat v) := by
  have first : 0xC2 ≤ a ∧ a ≤ 0xDF := by
    rw [UInt8.le_iff_toNat_le, UInt8.le_iff_toNat_le, ha]
    change 194 ≤ _ ∧ _ ≤ 223
    omega
  have tail : isTail b = true := by
    rw [isTail_iff, hb]
    omega
  have value : (a.toNat - 192) * 64 + (b.toNat - 128) = v := by omega
  have counts : (0xC2 ≤ a && a ≤ 0xDF && isTail b) = true := by simp [first, tail]
  unfold two? tailBits
  rw [if_pos counts, value]

theorem two?_eq_none (h : 224 ≤ a.toNat) : two? a b = none := by
  have beyond : ¬ a ≤ 0xDF := by
    rw [UInt8.le_iff_toNat_le]
    change ¬ a.toNat ≤ 223
    omega
  rw [two?, if_neg (by simp [beyond])]

theorem three?_eq_some (ha : a.toNat = v / 4096 % 16 + 224) (hb : b.toNat = v / 64 % 64 + 128)
    (hc : c.toNat = v % 64 + 128) (low : 2048 ≤ v) (high : v < 65536)
    (sound : v < 55296 ∨ 57343 < v) : three? a b c = some (Char.ofNat v) := by
  have first : a ≤ 0xEF := by
    rw [UInt8.le_iff_toNat_le, ha]
    change _ ≤ 239
    omega
  have opens : opensLonger a b = true := by
    apply opensLonger_of_three <;> omega
  have tail : isTail c = true := by
    rw [isTail_iff, hc]
    omega
  have value : (a.toNat - 224) * 4096 + (b.toNat - 128) * 64 + (c.toNat - 128) = v := by omega
  have counts : (a ≤ 0xEF && opensLonger a b && isTail c) = true := by simp [first, opens, tail]
  unfold three? tailBits
  rw [if_pos counts, value]

theorem three?_eq_none (h : 240 ≤ a.toNat) : three? a b c = none := by
  have beyond : ¬ a ≤ 0xEF := by
    rw [UInt8.le_iff_toNat_le]
    change ¬ a.toNat ≤ 239
    omega
  rw [three?, if_neg (by simp [beyond])]

theorem four?_eq_some (ha : a.toNat = v / 262144 % 8 + 240) (hb : b.toNat = v / 4096 % 64 + 128)
    (hc : c.toNat = v / 64 % 64 + 128) (hd : d.toNat = v % 64 + 128) (low : 65536 ≤ v)
    (high : v < 1114112) : four? a b c d = some (Char.ofNat v) := by
  have first : 0xF0 ≤ a := by
    rw [UInt8.le_iff_toNat_le, ha]
    change 240 ≤ _
    omega
  have opens : opensLonger a b = true := by
    apply opensLonger_of_four <;> omega
  have tail : isTail c = true := by
    rw [isTail_iff, hc]
    omega
  have tail' : isTail d = true := by
    rw [isTail_iff, hd]
    omega
  have value : (a.toNat - 240) * 262144 + (b.toNat - 128) * 4096 + (c.toNat - 128) * 64 +
      (d.toNat - 128) = v := by omega
  have counts : (0xF0 ≤ a && opensLonger a b && isTail c && isTail d) = true := by
    simp [first, opens, tail, tail']
  unfold four? tailBits
  rw [if_pos counts, value]

end one

/-- A character is written as one byte below 128 or as two, three or four bytes from there on. -/
theorem encodeChar_cases (x : Char) :
    (∃ a : UInt8, String.utf8EncodeChar x = [a] ∧ a.toNat = x.toNat ∧ x.toNat < 128) ∨
    (∃ a b : UInt8, String.utf8EncodeChar x = [a, b] ∧ 192 ≤ a.toNat ∧ a.toNat ≤ 223 ∧
      128 ≤ b.toNat ∧ two? a b = some x) ∨
    (∃ a b c : UInt8, String.utf8EncodeChar x = [a, b, c] ∧ 224 ≤ a.toNat ∧ a.toNat ≤ 239 ∧
      128 ≤ b.toNat ∧ 128 ≤ c.toNat ∧ three? a b c = some x) ∨
    (∃ a b c d : UInt8, String.utf8EncodeChar x = [a, b, c, d] ∧ 240 ≤ a.toNat ∧
      128 ≤ b.toNat ∧ 128 ≤ c.toNat ∧ 128 ≤ d.toNat ∧ four? a b c d = some x) := by
  have valid : x.toNat < 55296 ∨ 57343 < x.toNat ∧ x.toNat < 1114112 := x.valid
  have same : Char.ofNat x.toNat = x := Char.ofNat_toNat x
  have number : x.val.toNat = x.toNat := rfl
  rw [String.utf8EncodeChar, number]
  generalize hv : x.toNat = v at *
  by_cases one : v ≤ 127
  · refine .inl ⟨UInt8.ofNat v, ?_, toNat_ofNat (by omega), by omega⟩
    simp only [if_pos one]
  by_cases two : v ≤ 2047
  · have ha := toNat_ofNat (n := v / 64 % 32 + 192) (by omega)
    have hb := toNat_ofNat (n := v % 64 + 128) (by omega)
    refine .inr (.inl ⟨UInt8.ofNat (v / 64 % 32 + 192), UInt8.ofNat (v % 64 + 128), ?_, by omega,
      by omega, by omega, ?_⟩)
    · simp only [if_neg one, if_pos two]
    · rw [two?_eq_some ha hb (by omega) (by omega), same]
  by_cases three : v ≤ 65535
  · have ha := toNat_ofNat (n := v / 4096 % 16 + 224) (by omega)
    have hb := toNat_ofNat (n := v / 64 % 64 + 128) (by omega)
    have hc := toNat_ofNat (n := v % 64 + 128) (by omega)
    refine .inr (.inr (.inl ⟨UInt8.ofNat (v / 4096 % 16 + 224), UInt8.ofNat (v / 64 % 64 + 128),
      UInt8.ofNat (v % 64 + 128), ?_, by omega, by omega, by omega, by omega, ?_⟩))
    · simp only [if_neg one, if_neg two, if_pos three]
    · rw [three?_eq_some ha hb hc (by omega) (by omega) (by omega), same]
  · have ha := toNat_ofNat (n := v / 262144 % 8 + 240) (by omega)
    have hb := toNat_ofNat (n := v / 4096 % 64 + 128) (by omega)
    have hc := toNat_ofNat (n := v / 64 % 64 + 128) (by omega)
    have hd := toNat_ofNat (n := v % 64 + 128) (by omega)
    refine .inr (.inr (.inr ⟨UInt8.ofNat (v / 262144 % 8 + 240), UInt8.ofNat (v / 4096 % 64 + 128),
      UInt8.ofNat (v / 64 % 64 + 128), UInt8.ofNat (v % 64 + 128), ?_, by omega, by omega, by omega,
      by omega, ?_⟩))
    · simp only [if_neg one, if_neg two, if_neg three]
    · rw [four?_eq_some ha hb hc hd (by omega) (by omega), same]

/-! ### Texts -/

/-- What is read of the bytes of a character and those behind them. -/
theorem decodeAfter_encodeChar (passed : Nat) (x : Char) (rest : Bytes) :
    decodeAfter passed (String.utf8EncodeChar x ++ rest) =
      (x :: ·) <$> decodeAfter (passed + (String.utf8EncodeChar x).length) rest := by
  rcases encodeChar_cases x with ⟨a, e, ha, low⟩ | ⟨a, b, e, ha, -, -, hx⟩ |
    ⟨a, b, c, e, ha, -, -, -, hx⟩ | ⟨a, b, c, d, e, ha, -, -, -, hx⟩
  · have single : a < 0x80 := by
      rw [UInt8.lt_iff_toNat_lt]
      change a.toNat < 128
      omega
    have same : Char.ofNat a.toNat = x := by rw [ha, Char.ofNat_toNat]
    rw [e, List.singleton_append, decodeAfter.eq_def]
    simp only [if_pos single, same, List.length_cons, List.length_nil]
  · have longer := not_lt_of_le_toNat (b := a) (by omega)
    rw [e, List.cons_append, List.singleton_append, decodeAfter.eq_def]
    simp only [if_neg longer, hx, List.length_cons, List.length_nil]
  · have longer := not_lt_of_le_toNat (b := a) (by omega)
    have not_two : two? a b = none := two?_eq_none (by omega)
    rw [e, List.cons_append, List.cons_append, List.singleton_append, decodeAfter.eq_def]
    simp only [if_neg longer, not_two, hx, List.length_cons, List.length_nil]
  · have longer := not_lt_of_le_toNat (b := a) (by omega)
    have not_two : two? a b = none := two?_eq_none (by omega)
    have not_three : three? a b c = none := three?_eq_none ha
    rw [e, List.cons_append, List.cons_append, List.cons_append, List.singleton_append,
      decodeAfter.eq_def]
    simp only [if_neg longer, not_two, not_three, hx, List.length_cons, List.length_nil]

@[simp] theorem encode_nil : encode [] = [] := rfl

theorem encode_cons (x : Char) (t : Text) : encode (x :: t) = String.utf8EncodeChar x ++ encode t :=
  rfl

theorem encode_append (t u : Text) : encode (t ++ u) = encode t ++ encode u :=
  List.flatMap_append

theorem decodeAfter_encode (passed : Nat) (t : Text) : decodeAfter passed (encode t) = .ok t := by
  induction t generalizing passed with
  | nil => rfl
  | cons x t ih =>
      rw [encode_cons, decodeAfter_encodeChar, ih]
      rfl

/-- What is written of a text is read as the text. -/
theorem decode_encode (t : Text) : decode (encode t) = .ok t :=
  decodeAfter_encode 0 t

/-! ### Characters of one byte -/

/-- A byte below 128 is the one of its character. -/
theorem toNat_of_mem_encodeChar {x : Char} {b : UInt8} (mem : b ∈ String.utf8EncodeChar x)
    (low : b.toNat < 128) : b.toNat = x.toNat := by
  rcases encodeChar_cases x with ⟨a, e, ha, -⟩ | ⟨a, b', e, ha, -, hb, -⟩ |
    ⟨a, b', c, e, ha, -, hb, hc, -⟩ | ⟨a, b', c, d, e, ha, hb, hc, hd, -⟩
  all_goals
    rw [e] at mem
    simp only [List.mem_cons, List.not_mem_nil, or_false] at mem
  · rw [mem, ha]
  · rcases mem with rfl | rfl <;> omega
  · rcases mem with rfl | rfl | rfl <;> omega
  · rcases mem with rfl | rfl | rfl | rfl <;> omega

theorem encode_eq_nil_iff {t : Text} : encode t = [] ↔ t = [] := by
  cases t with
  | nil => simp
  | cons x t => simp [encode_cons]

end Tabular.Utf8
