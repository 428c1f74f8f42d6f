import Tabular.Builder.Load
import Tabular.Proofs.Builder.Edits
import Tabular.Proofs.Job

/-! # Loading a list of conditions

An entry of a list means a draft, which has the fields of the entry and those of a new draft where
the entry leaves them out.  It is not enough that this draft can be kept: the draft is made by adding
a new one and editing it field by field, so the new one must be kept as well, and with it the new one
on the column of the entry (`Entry.Loads`).  The draft that has the operator too is kept if the whole
one is, and the join is never refused.

A builder is loaded exactly if every entry is; it then holds the drafts that the entries mean, in
their order and numbered from zero, and otherwise the first entry that is not loaded is named
(`load_run`).  It is one of the builders that calls make (`exists_run_of_ofEntries`). -/

namespace Tabular

namespace Builder

/-! ### Drafts of entries -/

namespace Entry

/-- The draft that an entry means on the columns that begin with `column`. -/
def draft? (e : Entry) (id : Nat) (column : Text) : Option Draft := do
  let operator ← e.operator.elim (some .eq) Operator.ofText?
  let value ← e.value.elim (some []) fun v => (scalarText v).toOption
  let logic ← e.logic.elim (some .and) Logic.ofText?
  return ⟨id, e.column.getD column, operator, value, logic⟩

/-- Whether an entry means a draft that can be kept. -/
def Writable (column : Text) (e : Entry) : Prop :=
  ∃ d, e.draft? 0 column = some d ∧ d.refusal? = none

/-- Whether an entry is loaded. -/
structure Loads (column : Text) (e : Entry) : Prop where
  writable : e.Writable column
  /-- A new draft is kept. -/
  added : (newDraft 0 column).refusal? = none
  /-- A new draft on the column of the entry is kept. -/
  placed : (newDraft 0 (e.column.getD column)).refusal? = none

end Entry

/-! ### One draft by itself -/

/-- The draft, if it can be kept. -/
def checked (d : Draft) : Except EntryError Draft :=
  match d.refusal? with
  | some refusal => .error (.builder (.refused refusal))
  | none => .ok d

/-- The draft after an edit, if there is one. -/
def editedIf (d : Draft) : Option Edit → Except EntryError Draft
  | none => .ok d
  | some edit => checked (edit.apply d)

/-- The operator that an entry names. -/
def operatorOf (t : Text) : Except EntryError Operator :=
  (Operator.ofText? t).elim (.error (.operator t)) Except.ok

/-- The join that an entry names. -/
def logicOf (t : Text) : Except EntryError Logic :=
  (Logic.ofText? t).elim (.error (.logic t)) Except.ok

/-- The draft of an entry, checked after each of its fields. -/
def Entry.build (e : Entry) (id : Nat) (column : Text) : Except EntryError Draft := do
  let d ← checked (newDraft id column)
  let d ← editedIf d (e.column.map .column)
  let operator ← e.operator.mapM operatorOf
  let d ← editedIf d (operator.map .operator)
  let value ← e.value.mapM scalarText
  let d ← editedIf d (value.map .value)
  let logic ← e.logic.mapM logicOf
  editedIf d (logic.map .logic)

variable {b : Builder} {d d' : Draft}

theorem checked_eq_ok_iff : checked d = .ok d' ↔ d' = d ∧ d.refusal? = none := by
  unfold checked
  cases d.refusal? <;> simp [eq_comm]

theorem id_of_checked (h : checked d = .ok d') : d'.id = d.id := by
  rw [(checked_eq_ok_iff.mp h).1]

theorem id_of_editedIf {edit : Option Edit} (h : editedIf d edit = .ok d') : d'.id = d.id := by
  cases edit with
  | none =>
      cases h
      rfl
  | some edit => rw [id_of_checked h, edit.apply_id]

/-! ### Fields that may be left out -/

section fields

variable {α β ε : Type} {f : α → Except ε β} {x : Option α} {preset : β}

theorem value_of_mapM {y : Option β} (h : x.mapM f = .ok y) :
    x.elim (some preset) (fun a => (f a).toOption) = some (y.getD preset) := by
  cases x with
  | none =>
      cases h
      rfl
  | some a =>
      obtain ⟨b, hb, e⟩ := except_bind_eq_ok.mp h
      cases e
      rw [Option.elim_some, hb]
      rfl

theorem exists_of_value {b : β} (h : x.elim (some preset) (fun a => (f a).toOption) = some b) :
    ∃ y, x.mapM f = .ok y ∧ y.getD preset = b := by
  cases x with
  | none =>
      cases h
      exact ⟨none, rfl, rfl⟩
  | some a =>
      rw [Option.elim_some] at h
      cases hb : f a with
      | error e =>
          rw [hb] at h
          cases h
      | ok c =>
          rw [hb] at h
          cases h
          exact ⟨some b, except_bind_eq_ok.mpr ⟨b, hb, rfl⟩, rfl⟩

theorem toOption_elim (o : Option β) (e : ε) : (o.elim (.error e) Except.ok).toOption = o := by
  cases o <;> rfl

end fields

theorem Entry.draft?_eq_some_iff {e : Entry} {id : Nat} {column : Text} :
    e.draft? id column = some d ↔ ∃ operator value logic,
      e.operator.mapM operatorOf = .ok operator ∧ e.value.mapM scalarText = .ok value ∧
      e.logic.mapM logicOf = .ok logic ∧
      d = ⟨id, e.column.getD column, operator.getD .eq, value.getD [], logic.getD .and⟩ := by
  have operators : Operator.ofText? = fun t => (operatorOf t).toOption :=
    funext fun t => (toOption_elim _ _).symm
  have logics : Logic.ofText? = fun t => (logicOf t).toOption :=
    funext fun t => (toOption_elim _ _).symm
  simp only [draft?, operators, logics, Option.bind_eq_bind, Option.bind_eq_some_iff,
    Option.pure_def, Option.some.injEq]
  constructor
  · rintro ⟨operator, hoperator, value, hvalue, logic, hlogic, rfl⟩
    obtain ⟨o, ho, rfl⟩ := exists_of_value hoperator
    obtain ⟨v, hv, rfl⟩ := exists_of_value hvalue
    obtain ⟨l, hl, rfl⟩ := exists_of_value hlogic
    exact ⟨o, v, l, ho, hv, hl, rfl⟩
  · rintro ⟨o, v, l, ho, hv, hl, rfl⟩
    exact ⟨_, value_of_mapM ho, _, value_of_mapM hv, _, value_of_mapM hl, rfl⟩

theorem Entry.draft?_of_id {e : Entry} {id id' : Nat} {column : Text}
    (means : e.draft? id column = some d) : e.draft? id' column = some { d with id := id' } := by
  obtain ⟨o, v, l, ho, hv, hl, rfl⟩ := Entry.draft?_eq_some_iff.mp means
  exact Entry.draft?_eq_some_iff.mpr ⟨o, v, l, ho, hv, hl, rfl⟩

theorem Entry.Writable.refusal? {e : Entry} {id : Nat} {column : Text} (h : e.Writable column)
    (means : e.draft? id column = some d) : d.refusal? = none := by
  obtain ⟨d', means', kept⟩ := h
  have same := means.symm.trans (Entry.draft?_of_id means')
  rw [Option.some.injEq] at same
  rw [same]
  exact kept

theorem editedIf_map_eq_ok_iff (kept : d.refusal? = none) {γ : Type} {f : γ → Edit} {g : γ → Draft}
    {preset : γ} (sets : ∀ a, (f a).apply d = g a) (own : g preset = d) {x : Option γ} :
    editedIf d (x.map f) = .ok d' ↔ d' = g (x.getD preset) ∧ d'.refusal? = none := by
  cases x with
  | none =>
      rw [Option.getD_none, own]
      constructor
      · intro h
        cases h
        exact ⟨rfl, kept⟩
      · rintro ⟨rfl, -⟩
        rfl
  | some a =>
      rw [Option.getD_some, ← sets, Option.map_some, editedIf, checked_eq_ok_iff]
      exact and_congr_right fun e => by rw [e]

/-- An entry is built exactly if it is loaded, and then to the draft that it means. -/
theorem Entry.build_eq_ok_iff {e : Entry} {id : Nat} {column : Text} :
    e.build id column = .ok d ↔ e.Loads column ∧ e.draft? id column = some d := by
  -- Each step begins with a draft that has been checked.
  have step₁ : ∀ {d₁}, (newDraft id column).refusal? = none →
      (editedIf (newDraft id column) (e.column.map .column) = .ok d₁ ↔
        d₁ = newDraft id (e.column.getD column) ∧ d₁.refusal? = none) := fun kept =>
    editedIf_map_eq_ok_iff kept (g := newDraft id) (fun _ => rfl) rfl
  have step₂ : ∀ {d₂ c} {o : Option Operator}, (newDraft id c).refusal? = none →
      (editedIf (newDraft id c) (o.map .operator) = .ok d₂ ↔
        d₂ = ⟨id, c, o.getD .eq, [], .and⟩ ∧ d₂.refusal? = none) := fun kept =>
    editedIf_map_eq_ok_iff kept (g := fun o => ⟨id, _, o, [], .and⟩) (fun _ => rfl) rfl
  have step₃ : ∀ {d₃ c o} {v : Option Text}, (Draft.mk id c o [] .and).refusal? = none →
      (editedIf ⟨id, c, o, [], .and⟩ (v.map .value) = .ok d₃ ↔
        d₃ = ⟨id, c, o, v.getD [], .and⟩ ∧ d₃.refusal? = none) := fun kept =>
    editedIf_map_eq_ok_iff kept (g := fun v => ⟨id, _, _, v, .and⟩) (fun _ => rfl) rfl
  have step₄ : ∀ {d₄ c o v} {l : Option Logic}, (Draft.mk id c o v .and).refusal? = none →
      (editedIf ⟨id, c, o, v, .and⟩ (l.map .logic) = .ok d₄ ↔
        d₄ = ⟨id, c, o, v, l.getD .and⟩ ∧ d₄.refusal? = none) := fun kept =>
    editedIf_map_eq_ok_iff kept (g := fun l => ⟨id, _, _, _, l⟩) (fun _ => rfl) rfl
  simp only [build, except_bind_eq_ok]
  constructor
  · rintro ⟨d₀, h₀, d₁, h₁, o, ho, d₂, h₂, v, hv, d₃, h₃, l, hl, h₄⟩
    obtain ⟨rfl, added⟩ := checked_eq_ok_iff.mp h₀
    obtain ⟨rfl, placed⟩ := (step₁ added).mp h₁
    obtain ⟨rfl, compared⟩ := (step₂ placed).mp h₂
    obtain ⟨rfl, filled⟩ := (step₃ compared).mp h₃
    obtain ⟨rfl, joined⟩ := (step₄ filled).mp h₄
    have means : ∀ id, e.draft? id column =
        some ⟨id, e.column.getD column, o.getD .eq, v.getD [], l.getD .and⟩ := fun id =>
      Entry.draft?_eq_some_iff.mpr ⟨o, v, l, ho, hv, hl, rfl⟩
    exact ⟨⟨⟨_, means 0, joined⟩, added, placed⟩, means id⟩
  · rintro ⟨⟨writable, added, placed⟩, means⟩
    have kept := writable.refusal? means
    obtain ⟨o, v, l, ho, hv, hl, rfl⟩ := Entry.draft?_eq_some_iff.mp means
    have compared := Draft.refusal?_withoutValue kept
    exact ⟨_, checked_eq_ok_iff.mpr ⟨rfl, added⟩, _, (step₁ added).mpr ⟨rfl, placed⟩,
      o, ho, _, (step₂ placed).mpr ⟨rfl, compared⟩, v, hv, _, (step₃ compared).mpr ⟨rfl, kept⟩,
      l, hl, (step₄ kept).mpr ⟨rfl, kept⟩⟩

/-! ### Entries in a builder -/

theorem add_eq_checked {column : Text} {more : List Text} (headers : b.headers = column :: more) :
    b.add.mapError .builder =
      (checked (newDraft b.nextId column)).map fun d => (b.nextId, b.extend d) := by
  rw [add, headers]
  dsimp only
  unfold checked
  cases (newDraft b.nextId column).refusal? <;> rfl

theorem updateIf_extend (sound : b.Sound) (last : d.id = b.nextId) (edit : Option Edit) :
    (b.extend d).updateIf b.nextId edit = (editedIf d edit).map b.extend := by
  cases edit with
  | none => rfl
  | some edit =>
      have nodup : (b.extend d).ids.Nodup := by
        change ((b.drafts ++ [d]).map (·.id)).Nodup
        rw [List.map_append, List.map_singleton, last, List.nodup_append]
        refine ⟨sound.nodup, List.pairwise_singleton _ _, fun id hid other hother => ?_⟩
        rw [List.mem_singleton.mp hother]
        exact Nat.ne_of_lt (sound.below id hid)
      have split : (b.extend d).drafts = b.drafts ++ d :: [] := rfl
      rw [updateIf, ← last, update_eq_of_split split nodup, editedIf, checked]
      cases (edit.apply d).refusal? <;> rfl

theorem updateIf_extend_bind (sound : b.Sound) (last : d.id = b.nextId) {edit : Option Edit}
    {f : Builder → Except EntryError Builder} {g : Draft → Except EntryError Draft}
    (after : ∀ d' : Draft, d'.id = b.nextId → f (b.extend d') = (g d').map b.extend) :
    ((b.extend d).updateIf b.nextId edit >>= f) = (editedIf d edit >>= g).map b.extend := by
  rw [updateIf_extend sound last]
  cases h : editedIf d edit with
  | error e => rfl
  | ok d' => exact after d' ((id_of_editedIf h).trans last)

theorem bind_eq_map_extend {α : Type} {x : Except EntryError α}
    {f : α → Except EntryError Builder} {g : α → Except EntryError Draft}
    (after : ∀ a, f a = (g a).map b.extend) : (x >>= f) = (x >>= g).map b.extend := by
  cases x with
  | error e => rfl
  | ok a => exact after a

/-- A builder takes an entry by building its draft. -/
theorem addEntry_eq_build {column : Text} {more : List Text} (sound : b.Sound)
    (headers : b.headers = column :: more) (e : Entry) :
    b.addEntry e = (e.build b.nextId column).map b.extend := by
  rw [addEntry, add_eq_checked headers, Entry.build]
  cases h₀ : checked (newDraft b.nextId column) with
  | error err => rfl
  | ok d₀ =>
      have id₀ : d₀.id = b.nextId := id_of_checked h₀
      exact updateIf_extend_bind sound id₀ fun d₁ id₁ => bind_eq_map_extend fun o =>
        updateIf_extend_bind sound id₁ fun d₂ id₂ => bind_eq_map_extend fun v =>
          updateIf_extend_bind sound id₂ fun d₃ id₃ => bind_eq_map_extend fun l =>
            updateIf_extend sound id₃ (l.map .logic)

/-! ### Lists of entries -/

/-- What is true of the result of taking entries, which are counted from `place` on: the builder
has the drafts of all of them behind its own, or the error names the first one that is not
loaded. -/
def Taken (b : Builder) (column : Text) (place : Nat) (entries : List Entry) :
    Except (Nat × EntryError) Builder → Prop
  | .ok b' => (∀ e ∈ entries, e.Loads column) ∧ b'.headers = b.headers ∧ b'.Sound ∧
      b'.nextId = b.nextId + entries.length ∧
      b'.drafts.map some =
        b.drafts.map some ++ entries.mapIdx fun i e => e.draft? (b.nextId + i) column
  | .error (n, err) => ∃ front e back, entries = front ++ e :: back ∧
      (∀ x ∈ front, x.Loads column) ∧ ¬ e.Loads column ∧ n = place + front.length ∧
      e.build (b.nextId + front.length) column = .error err

theorem taken_addEntries {column : Text} {more : List Text} (sound : b.Sound)
    (headers : b.headers = column :: more) (place : Nat) (entries : List Entry) :
    b.Taken column place entries (b.addEntries place entries) := by
  induction entries generalizing b place with
  | nil => exact ⟨by simp, rfl, sound, rfl, by simp⟩
  | cons e rest ih =>
      rw [addEntries, addEntry_eq_build sound headers]
      cases built : e.build b.nextId column with
      | error err =>
          refine ⟨[], e, rest, rfl, by simp, fun loads => ?_, rfl, built⟩
          obtain ⟨d, means, -⟩ := loads.writable
          have means' : e.draft? b.nextId column = some _ := Entry.draft?_of_id means
          have ok := Entry.build_eq_ok_iff.mpr ⟨loads, means'⟩
          rw [built] at ok
          cases ok
      | ok d =>
          obtain ⟨loads, means⟩ := Entry.build_eq_ok_iff.mp built
          have last : d.id = b.nextId := by
            obtain ⟨o, v, l, -, -, -, rfl⟩ := Entry.draft?_eq_some_iff.mp means
            rfl
          have sound' := sound.extend last (loads.writable.refusal? means)
          have taken := ih sound' headers (place + 1)
          change Taken b column place (e :: rest) ((b.extend d).addEntries (place + 1) rest)
          cases h : (b.extend d).addEntries (place + 1) rest with
          | ok b' =>
              rw [h] at taken
              obtain ⟨all, headers', sound'', next, drafts⟩ := taken
              refine ⟨List.forall_mem_cons.mpr ⟨loads, all⟩, headers', sound'', ?_, ?_⟩
              · rw [next, List.length_cons]
                change b.nextId + 1 + rest.length = _
                omega
              · have shift : ∀ i, b.nextId + 1 + i = b.nextId + (i + 1) := fun i => by omega
                rw [drafts, List.mapIdx_cons, Nat.add_zero, means]
                change (b.drafts ++ [d]).map some ++
                  rest.mapIdx (fun i e => e.draft? (b.nextId + 1 + i) column) = _
                simp only [shift, List.map_append, List.append_assoc, List.map_singleton,
                  List.singleton_append]
          | error error =>
              rw [h] at taken
              obtain ⟨front, e', back, rfl, all, refused, n, err⟩ := taken
              refine ⟨e :: front, e', back, rfl, List.forall_mem_cons.mpr ⟨loads, all⟩, refused, ?_, ?_⟩
              · rw [n, List.length_cons]
                omega
              · have shift : b.nextId + (e :: front).length = b.nextId + 1 + front.length := by
                  rw [List.length_cons]
                  omega
                rw [shift]
                exact err

/-! ### Loading as a run -/

theorem exists_run_of_updateIf {id : Nat} {edit : Option Edit} {b' : Builder}
    (h : b.updateIf id edit = .ok b') : ∃ commands, (b.run commands).1 = b' := by
  cases edit with
  | none =>
      cases h
      exact ⟨[], rfl⟩
  | some edit =>
      have updated : b.update id edit = .ok b' := except_mapError_eq_ok.mp h
      exact ⟨[.update id edit], by simp only [run, call, updated]⟩

theorem exists_run_of_addEntry {e : Entry} {b' : Builder} (h : b.addEntry e = .ok b') :
    ∃ commands, (b.run commands).1 = b' := by
  simp only [addEntry, except_bind_eq_ok] at h
  obtain ⟨⟨id, b₁⟩, h₁, b₂, h₂, _, -, b₃, h₃, _, -, b₄, h₄, _, -, h₅⟩ := h
  have added : b.add = .ok (id, b₁) := except_mapError_eq_ok.mp h₁
  obtain ⟨c₁, rfl⟩ : ∃ commands, (b.run commands).1 = b₁ :=
    ⟨[.add], by simp only [run, call, added]⟩
  obtain ⟨c₂, rfl⟩ := exists_run_of_updateIf h₂
  obtain ⟨c₃, rfl⟩ := exists_run_of_updateIf h₃
  obtain ⟨c₄, rfl⟩ := exists_run_of_updateIf h₄
  obtain ⟨c₅, rfl⟩ := exists_run_of_updateIf h₅
  exact ⟨c₁ ++ c₂ ++ c₃ ++ c₄ ++ c₅, by simp only [run_append]⟩

theorem exists_run_of_addEntries {place : Nat} {entries : List Entry} {b' : Builder}
    (h : b.addEntries place entries = .ok b') : ∃ commands, (b.run commands).1 = b' := by
  induction entries generalizing b place with
  | nil =>
      cases h
      exact ⟨[], rfl⟩
  | cons e rest ih =>
      rw [addEntries] at h
      obtain ⟨b₁, first, others⟩ := except_bind_eq_ok.mp h
      obtain ⟨c, rfl⟩ := exists_run_of_addEntry (except_mapError_eq_ok.mp first)
      obtain ⟨cs, rfl⟩ := ih others
      exact ⟨c ++ cs, run_append _ _ _⟩

/-- **Loading is a run.**  A builder that is loaded is one that calls make, so what is true after any
calls is true of it. -/
theorem exists_run_of_ofEntries {headers : List Text} {entries : List Entry}
    (h : ofEntries headers entries = .ok b) : ∃ commands, ((new headers).run commands).1 = b :=
  exists_run_of_addEntries h

/-! ### Files -/

section files

variable {w : Workspace} {path : Text} {bytes : Bytes} {t : Text} {entries : List Entry}

theorem runOn_readText (file : w.files.read path = .ok (.ok bytes))
    (text : Utf8.decode bytes = .ok t) : (readText path).runOn w = (.ok t, w) := by
  have opened : (Job.request (.read path)).runOn w = (.ok (.ok (.ok bytes)), w) := by
    rw [Job.runOn_request]
    exact Prod.ext (congrArg Except.ok file) rfl
  rw [readText, Job.runOn_bind_ok opened, Job.runOn_bind_ok (Job.runOn_ofIo _ w),
    Job.runOn_bind_ok (Job.runOn_ofIo _ w), text]
  rfl

theorem runOn_load (headers : List Text) (file : w.files.read path = .ok (.ok bytes))
    (text : Utf8.decode bytes = .ok t) (decoded : Entry.listOfText t = .ok entries) :
    (load headers path).runOn w =
      ((ofEntries headers entries).mapError fun (place, e) =>
        .rule s!"Error in condition {place} of {Path.quoted path}: {e.message}", w) := by
  have parsed : (Job.ofExcept ((Entry.listOfText t).mapError fun e =>
      Failure.of (.conditions e.message))).runOn w = (.ok entries, w) := by
    rw [decoded, Job.runOn_ofExcept]
    rfl
  rw [load, Job.runOn_bind_ok (Job.runOn_within_ok (runOn_readText file text)),
    Job.runOn_bind_ok (Job.runOn_within_ok parsed)]
  cases ofEntries headers entries with
  | ok b => rfl
  | error e => rfl

/-- **Loading a list of conditions.**  A builder is loaded from a file that is read as some entries
exactly if every entry is loaded: the draft that it means can be kept, and so can a new draft and a
new draft on its column.  The builder then holds the drafts that the entries mean in their order,
numbered from zero; otherwise the failure names the place of the first entry that is not loaded,
counted from one.  Files stay as they are. -/
theorem load_run (column : Text) (more : List Text)
    (file : w.files.read path = .ok (.ok bytes)) (text : Utf8.decode bytes = .ok t)
    (decoded : Entry.listOfText t = .ok entries) :
    let result := (load (column :: more) path).runOn w
    result.2 = w ∧
    ((∃ b, result.1 = .ok b) ↔ ∀ e ∈ entries, e.Loads column) ∧
    (∀ b, result.1 = .ok b → b.headers = column :: more ∧
      b.drafts.map some = entries.mapIdx (fun i e => e.draft? i column) ∧
      b.nextId = entries.length ∧ b.clauseText = Draft.clauseText b.drafts) ∧
    ∀ f, result.1 = .error f → ∃ front e back err, entries = front ++ e :: back ∧
      (∀ x ∈ front, x.Loads column) ∧ ¬ e.Loads column ∧
      e.build front.length column = .error err ∧
      f = .rule s!"Error in condition {front.length + 1} of {Path.quoted path}: {err.message}" := by
  intro result
  have run : result = _ := runOn_load (column :: more) file text decoded
  have taken := taken_addEntries (sound_new (column :: more)) rfl 1 entries
  change Taken _ column 1 entries (ofEntries (column :: more) entries) at taken
  cases h : ofEntries (column :: more) entries with
  | ok b =>
      rw [h] at taken run
      obtain ⟨all, headers, sound, next, drafts⟩ := taken
      rw [run]
      refine ⟨rfl, iff_of_true ⟨b, rfl⟩ all, fun b' same => ?_, fun f other => by cases other⟩
      cases same
      refine ⟨headers, ?_, ?_, sound.text⟩
      · rw [drafts]
        simp [new]
      · rw [next]
        exact Nat.zero_add _
  | error error =>
      obtain ⟨n, err⟩ := error
      rw [h] at taken run
      obtain ⟨front, e, back, split, all, refused, place, built⟩ := taken
      rw [run]
      refine ⟨rfl, iff_of_false ?_ ?_, fun b other => (by cases other), fun f same => ?_⟩
      · rintro ⟨b, other⟩
        cases other
      · intro every
        exact refused (every e (split ▸ List.mem_append_right _ List.mem_cons_self))
      · cases same
        refine ⟨front, e, back, err, split, all, refused, ?_, by rw [place, Nat.add_comm]⟩
        rw [← built]
        exact congrArg (e.build · column) (Nat.zero_add _).symm

end files

/-- Two entries that leave fields out, and a number that is not written as a text. -/
theorem load_run_two_entries :
    let yaml := "- column: Amount\n  operator: '>'\n  value: 40000\n- logic: or\n  value: x\n".toList
    let path := "conditions.yaml".toList
    let w : Workspace := ⟨⟨[([path], .file (Utf8.encode yaml))], []⟩, []⟩
    let headers := ["Status".toList, "Amount".toList]
    w.files.read path = .ok (.ok (Utf8.encode yaml)) ∧ Utf8.decode (Utf8.encode yaml) = .ok yaml ∧
    ∃ entries b, Entry.listOfText yaml = .ok entries ∧ ((load headers path).runOn w).1 = .ok b ∧
      (∀ e ∈ entries, e.Loads "Status".toList) ∧
      b.drafts.map some = entries.mapIdx (fun i e => e.draft? i "Status".toList) ∧
      b.clauseText = "WHERE Amount > 40000 OR Status = 'x'".toList := by
  intro yaml path w headers
  have file : w.files.read path = .ok (.ok (Utf8.encode yaml)) := by decide +kernel
  have text : Utf8.decode (Utf8.encode yaml) = .ok yaml := by decide +kernel
  have two : (Entry.listOfText yaml).toOption.map List.length = some 2 := by decide +kernel
  obtain ⟨entries, decoded, -⟩ := exists_of_toOption_map two
  have loaded : (((load headers path).runOn w).1.toOption.map Builder.clauseText) =
      some "WHERE Amount > 40000 OR Status = 'x'".toList := by decide +kernel
  obtain ⟨b, ok, clause⟩ := exists_of_toOption_map loaded
  obtain ⟨-, succeeds, holds, -⟩ := load_run "Status".toList ["Amount".toList] file text decoded
  exact ⟨file, text, entries, b, decoded, ok, succeeds.mp ⟨b, ok⟩, (holds b ok).2.1, clause⟩

/-- An entry that means a draft that can be kept, and is not loaded: the column is set while the
operator is still the one of a new draft. -/
theorem load_symbol_in_column :
    let yaml := "- column: a=b\n  operator: LIKE\n  value: x\n".toList
    let path := "conditions.yaml".toList
    let w : Workspace := ⟨⟨[([path], .file (Utf8.encode yaml))], []⟩, []⟩
    let headers := ["name".toList, "a=b".toList]
    let d : Draft := ⟨0, "a=b".toList, .like, "x".toList, .and⟩
    d.refusal? = none ∧
    (∃ entries, Entry.listOfText yaml = .ok entries ∧
      entries.map (·.draft? 0 "name".toList) = [some d] ∧
      ∀ e ∈ entries, e.Writable "name".toList) ∧
    ∃ f, ((load headers path).runOn w).1 = .error f := by
  intro yaml path w headers d
  have kept : d.refusal? = none := by decide
  have one : (Entry.listOfText yaml).toOption.map (·.map (·.draft? 0 "name".toList)) =
      some [some d] := by decide +kernel
  obtain ⟨entries, decoded, means⟩ := exists_of_toOption_map one
  have refused : ((load headers path).runOn w).1.toOption = none := by decide +kernel
  refine ⟨kept, ⟨entries, decoded, means, fun e he => ⟨d, ?_, kept⟩⟩, ?_⟩
  · have mem := List.mem_map_of_mem (f := (·.draft? 0 "name".toList)) he
    rw [means, List.mem_singleton] at mem
    exact mem
  · cases h : ((load headers path).runOn w).1 with
    | ok b =>
        rw [h] at refused
        cases refused
    | error f => exact ⟨f, rfl⟩

end Builder

end Tabular
