import Tabular.Format
import Tabular.Settings.Json

/-! # JSON that is written is read

What is written for a character in a JSON string is read as that character, whatever follows it
(`stringFrom_jsonChar`), so a text between quotation marks is read back (`string?_text`).  `Reads`
says that a text is read as a setting with any text behind it; a string has this (`reads_text`),
and an object has it if the values of its members do (`reads_object`).  The steps that the reader
is given are as many as the text has characters, and every part takes no more than its own. -/

namespace Tabular.Settings.Json

open Text (jsonChar jsonString hexDigit joinWith)
open View (jsonMember jsonObject)

/-! ### Characters -/

theorem digitValue?_hexDigit {n : Nat} (h : n < 16) :
    Number.digitValue? (hexDigit n) = some n := by
  have all : ∀ n < 16, Number.digitValue? (hexDigit n) = some n := by decide
  exact all n h

theorem unicode?_control {n : Nat} (h : n < 0x20) (rest : Text) :
    unicode? ('0' :: '0' :: hexDigit (n / 16) :: hexDigit (n % 16) :: rest) =
      some (Char.ofNat n, rest) := by
  have zero : Number.digitValue? '0' = some 0 := by decide
  have unit : unit? ('0' :: '0' :: hexDigit (n / 16) :: hexDigit (n % 16) :: rest) =
      some (n, rest) := by
    simp only [unit?, Number.hexNumber?, zero, digitValue?_hexDigit (show n / 16 < 16 by omega),
      digitValue?_hexDigit (show n % 16 < 16 by omega), Option.bind_some]
    congr 2
    omega
  rw [unicode?, unit]
  dsimp only
  rw [if_neg (by simp; omega), if_neg (by simp; omega)]

theorem stringFrom_escaped {steps : Nat} {d x : Char} (known : escaped? d = some x) (rest : Text) :
    stringFrom (steps + 1) ('\\' :: d :: rest) =
      (stringFrom steps rest).map fun (more, rest) => (x :: more, rest) := by
  have not_u : d ≠ 'u' := by
    rintro rfl
    cases known
  rw [stringFrom.eq_def]
  dsimp only
  rw [if_neg (by decide), if_neg (by decide), if_pos rfl]
  split
  · rename_i e
    exact absurd (List.cons.inj e).1 not_u
  · rename_i e
    obtain ⟨rfl, rfl⟩ := List.cons.inj e
    rw [known]
    exact (Option.map_eq_bind ..).symm
  · rename_i e
    cases e

/-- What stands for a character is read as it. -/
theorem stringFrom_jsonChar (steps : Nat) (c : Char) (rest : Text) :
    stringFrom (steps + 1) (jsonChar c ++ rest) =
      (stringFrom steps rest).map fun (more, rest) => (c :: more, rest) := by
  unfold jsonChar
  split
  · rename_i mark
    rw [Bool.or_eq_true, decide_eq_true_eq, decide_eq_true_eq] at mark
    refine stringFrom_escaped ?_ rest
    rcases mark with rfl | rfl <;> rfl
  split
  · rename_i e
    exact e ▸ stringFrom_escaped rfl rest
  split
  · rename_i e
    exact e ▸ stringFrom_escaped rfl rest
  split
  · rename_i e
    exact e ▸ stringFrom_escaped rfl rest
  split
  · rename_i e
    exact e ▸ stringFrom_escaped rfl rest
  split
  · rename_i e
    exact e ▸ stringFrom_escaped rfl rest
  split
  · rename_i control
    have read := unicode?_control control rest
    rw [Char.ofNat_toNat] at read
    change stringFrom (steps + 1) ('\\' :: 'u' :: '0' :: '0' :: hexDigit (c.toNat / 16) ::
      hexDigit (c.toNat % 16) :: rest) = _
    rw [stringFrom, if_neg (by decide), if_neg (by decide), if_pos rfl]
    dsimp only
    rw [read]
    exact (Option.map_eq_bind ..).symm
  · rename_i mark _ _ _ _ _ plain
    rw [Bool.or_eq_true, decide_eq_true_eq, decide_eq_true_eq, not_or] at mark
    rw [List.singleton_append, stringFrom.eq_def]
    dsimp only
    rw [if_neg mark.1, if_neg plain, if_neg mark.2]
    exact (Option.map_eq_bind ..).symm

/-! ### Strings -/

theorem stringFrom_text {steps : Nat} {t : Text} (enough : t.length < steps) (rest : Text) :
    stringFrom steps (t.flatMap jsonChar ++ '"' :: rest) = some (t, rest) := by
  induction t generalizing steps with
  | nil =>
      obtain ⟨steps, rfl⟩ := Nat.exists_eq_succ_of_ne_zero (Nat.ne_of_gt enough)
      rfl
  | cons c t ih =>
      obtain ⟨steps, rfl⟩ := Nat.exists_eq_succ_of_ne_zero (Nat.ne_of_gt (Nat.zero_lt_of_lt enough))
      rw [List.flatMap_cons, List.append_assoc, stringFrom_jsonChar,
        ih (Nat.lt_of_succ_lt_succ enough)]
      rfl

theorem length_le_flatMap (t : Text) : t.length ≤ (t.flatMap jsonChar).length := by
  induction t with
  | nil => exact Nat.le_refl _
  | cons c t ih =>
      have one : 1 ≤ (jsonChar c).length := by
        unfold jsonChar
        repeat' split
        all_goals simp
      rw [List.flatMap_cons, List.length_append, List.length_cons]
      omega

/-- A text between quotation marks is read back. -/
theorem string?_text (t rest : Text) :
    string? (t.flatMap jsonChar ++ '"' :: rest) = some (t, rest) := by
  refine stringFrom_text ?_ rest
  have := length_le_flatMap t
  rw [List.length_append, List.length_cons]
  omega

/-! ### Values -/

/-- Whether a text is read as a setting, whatever follows it. -/
def Reads (depth : Nat) (t : Text) (v : Setting) : Prop :=
  ∀ steps rest, t.length ≤ steps → value? steps depth (t ++ rest) = some (v, rest)

theorem jsonString_append (t rest : Text) :
    jsonString t ++ rest = '"' :: (t.flatMap jsonChar ++ '"' :: rest) := by
  simp [jsonString]

theorem reads_text (depth : Nat) (t : Text) : Reads depth (jsonString t) (.text t) := by
  intro steps rest enough
  obtain ⟨steps, rfl⟩ : ∃ n, steps = n + 1 := by
    refine Nat.exists_eq_succ_of_ne_zero ?_
    rintro rfl
    simp [jsonString] at enough
  rw [jsonString_append, value?.eq_def]
  change (string? (t.flatMap jsonChar ++ '"' :: rest)).map _ = _
  rw [string?_text]
  rfl

/-- A name and a value as a member of an object, and what the value is read as. -/
structure Member where
  name : Text
  value : Text
  setting : Setting

/-- A member as it is written. -/
def Member.text (m : Member) : Text :=
  jsonMember m.name m.value

theorem Member.text_append (m : Member) (rest : Text) :
    m.text ++ rest = '"' :: (m.name.flatMap jsonChar ++ '"' :: ':' :: (m.value ++ rest)) := by
  rw [text, jsonMember, List.append_assoc, jsonString_append]
  rfl

theorem members?_comma {depth steps : Nat} {m : Member} (reads : Reads depth m.value m.setting)
    (enough : m.value.length ≤ steps) (rest : Text) :
    members? (steps + 1) depth (m.text ++ ',' :: rest) =
      (members? steps depth rest).map fun (vs, rest) => ((m.name, m.setting) :: vs, rest) := by
  rw [m.text_append, members?.eq_def]
  change (string? (m.name.flatMap jsonChar ++ '"' :: ':' :: (m.value ++ ',' :: rest))).bind _ = _
  rw [string?_text]
  change (value? steps depth (m.value ++ ',' :: rest)).bind _ = _
  rw [reads steps _ enough]
  exact (Option.map_eq_bind ..).symm

theorem members?_brace {depth steps : Nat} {m : Member} (reads : Reads depth m.value m.setting)
    (enough : m.value.length ≤ steps) (rest : Text) :
    members? (steps + 1) depth (m.text ++ '\x7d' :: rest) =
      some ([(m.name, m.setting)], rest) := by
  rw [m.text_append, members?.eq_def]
  change (string? (m.name.flatMap jsonChar ++ '"' :: ':' :: (m.value ++ '\x7d' :: rest))).bind _ = _
  rw [string?_text]
  change (value? steps depth (m.value ++ '\x7d' :: rest)).bind _ = _
  rw [reads steps _ enough]
  rfl

theorem Member.length_value_lt (m : Member) : m.value.length < m.text.length := by
  simp only [text, jsonMember, List.length_append, List.length_cons]
  omega

/-- The members of an object are read up to its closing brace. -/
theorem members?_joined {depth steps : Nat} {ms : List Member} (ne : ms ≠ [])
    (reads : ∀ m ∈ ms, Reads depth m.value m.setting)
    (enough : (joinWith [','] (ms.map Member.text)).length ≤ steps) (rest : Text) :
    members? steps depth (joinWith [','] (ms.map Member.text) ++ '\x7d' :: rest) =
      some (ms.map fun m => (m.name, m.setting), rest) := by
  induction ms generalizing steps with
  | nil => exact absurd rfl ne
  | cons m ms ih =>
      obtain ⟨first, others⟩ := List.forall_mem_cons.mp reads
      have short := m.length_value_lt
      cases ms with
      | nil =>
          rw [List.map_singleton, joinWith] at enough ⊢
          obtain ⟨steps, rfl⟩ := Nat.exists_eq_succ_of_ne_zero (n := steps) (by omega)
          exact members?_brace first (by omega) rest
      | cons m' ms =>
          have joined : joinWith [','] ((m :: m' :: ms).map Member.text) =
              m.text ++ ',' :: joinWith [','] ((m' :: ms).map Member.text) := by
            simp [joinWith]
          rw [joined, List.length_append, List.length_cons] at enough
          obtain ⟨steps, rfl⟩ := Nat.exists_eq_succ_of_ne_zero (n := steps) (by omega)
          rw [joined, List.append_assoc, List.cons_append, members?_comma first (by omega),
            ih (List.cons_ne_nil _ _) others (by omega)]
          rfl

theorem exists_joined_append (m : Member) (ms : List Member) (rest : Text) :
    ∃ more, joinWith [','] ((m :: ms).map Member.text) ++ rest = '"' :: more := by
  obtain ⟨others, e⟩ : ∃ others, joinWith [','] ((m :: ms).map Member.text) = m.text ++ others := by
    cases ms with
    | nil => exact ⟨[], (List.append_nil _).symm⟩
    | cons m' ms => exact ⟨_, List.append_assoc ..⟩
  rw [e, List.append_assoc]
  exact ⟨_, m.text_append _⟩

/-- An object is read back if the values of its members are. -/
theorem reads_object {depth : Nat} {ms : List Member}
    (reads : ∀ m ∈ ms, Reads (depth + 1) m.value m.setting) :
    Reads (depth + 2) (jsonObject (ms.map Member.text))
      (.table (ms.map fun m => (m.name, m.setting))) := by
  intro steps rest enough
  have written : jsonObject (ms.map Member.text) ++ rest =
      '\x7b' :: (joinWith [','] (ms.map Member.text) ++ '\x7d' :: rest) := by
    simp [jsonObject]
  rw [jsonObject, List.length_append, List.length_cons, List.length_singleton] at enough
  obtain ⟨steps, rfl⟩ := Nat.exists_eq_succ_of_ne_zero (n := steps) (by omega)
  rw [written, value?.eq_def]
  cases ms with
  | nil => rfl
  | cons m ms =>
      have short : (joinWith [','] ((m :: ms).map Member.text)).length ≤ steps := by omega
      have members := members?_joined (List.cons_ne_nil m ms) reads short rest
      obtain ⟨more, e⟩ := exists_joined_append m ms ('\x7d' :: rest)
      rw [e] at members ⊢
      change (members? steps (depth + 1) ('"' :: more)).map _ = _
      rw [members]
      rfl

theorem read_append {t w : Text} {v : Setting} (reads : Reads depthLimit t v)
    (blank : skipSpace w = []) : read (t ++ w) = .ok v := by
  rw [read, reads _ w (by rw [List.length_append]; omega)]
  dsimp only
  rw [blank]
  rfl

end Tabular.Settings.Json
