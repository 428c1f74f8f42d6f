import Tabular.Builder
import Tabular.Proofs.Draft.Blocks
import Tabular.Proofs.Draft.Reading

/-! # Runs of a builder

A run is any sequence of calls of a builder, refused ones included.  What every call keeps is
`Builder.Sound`: the clause text is the one of the drafts, every draft can be written and the
numbers of the drafts increase and were given out before.  The numbers that a run gave out outlive
the drafts, so that none comes twice is a fact about the run and not about the builder that it
leaves; `range_run` says which numbers they are.  `run_of_new` puts this together for the runs of a
builder that begins without drafts.

A builder says which rows it keeps in two ways, by its clause text and by its drafts.  The text says
what is read of it, `Draft.reading`, and that is the clause of the drafts exactly if there is no
seam (`filter_run`).  Drafts with a seam are written although every one of them can be written
alone, and the two ways then part: the draft before the seam takes the keyword `OR` into its operand
and the draft behind it loses the front of its column (`filter_run_seam`).  Two clauses that differ
may still hold of the same rows, as the two of `AND IS NULL OR AND IS NULL` do, so the rows are
compared by what the reading says and not by the seams alone. -/

namespace Tabular

namespace Builder

/-- A call of a builder. -/
inductive Command where
  | add
  | update (id : Nat) (edit : Edit)
  | remove (id : Nat)
  | clear
  | switch (headers : List Text)
  deriving DecidableEq, Repr

/-- The builder after a call, and the number that the call gave out.  A call that is refused leaves
the builder as it was. -/
def call (b : Builder) : Command → Builder × Option Nat
  | .add =>
    match b.add with
    | .ok (id, b') => (b', some id)
    | .error _ => (b, none)
  | .update id edit =>
    match b.update id edit with
    | .ok b' => (b', none)
    | .error _ => (b, none)
  | .remove id => (b.remove id, none)
  | .clear => (b.clear, none)
  | .switch headers => (b.switch headers, none)

/-- The builder after some calls, and the numbers that they gave out in their order. -/
def run (b : Builder) : List Command → Builder × List Nat
  | [] => (b, [])
  | c :: cs =>
    let after := (b.call c).1.run cs
    (after.1, (b.call c).2.toList ++ after.2)

theorem run_append (b : Builder) (cs cs' : List Command) :
    (b.run (cs ++ cs')).1 = ((b.run cs).1.run cs').1 := by
  induction cs generalizing b with
  | nil => rfl
  | cons c cs ih => exact ih (b.call c).1

/-- The numbers of the drafts. -/
def ids (b : Builder) : List Nat :=
  b.drafts.map (·.id)

/-- What holds of a builder after every call. -/
structure Sound (b : Builder) : Prop where
  text : b.clauseText = Draft.clauseText b.drafts
  kept : ∀ d ∈ b.drafts, d.refusal? = none
  sorted : b.ids.Pairwise (· < ·)
  below : ∀ id ∈ b.ids, id < b.nextId

variable {b b' : Builder}

/-- A builder with one more draft, which has the next number. -/
def extend (b : Builder) (d : Draft) : Builder :=
  { b.withDrafts (b.drafts ++ [d]) with nextId := b.nextId + 1 }

/-! ### What a call that is not refused does -/

theorem add_eq_ok {id : Nat} (h : b.add = .ok (id, b')) :
    ∃ column, (newDraft b.nextId column).refusal? = none ∧ id = b.nextId ∧
      b' = b.extend (newDraft b.nextId column) := by
  unfold add at h
  split at h
  · cases h
  · rename_i column _ _
    dsimp only at h
    split at h
    · cases h
    · rename_i accepted
      cases h
      exact ⟨column, accepted, rfl, rfl⟩

theorem update_eq_ok {id : Nat} {edit : Edit} (h : b.update id edit = .ok b') :
    ∃ d ∈ b.drafts, (edit.apply d).refusal? = none ∧
      b' = b.withDrafts (replace (edit.apply d) b.drafts) := by
  unfold update at h
  split at h
  · cases h
  · rename_i d found
    split at h
    · cases h
    · rename_i accepted
      cases h
      exact ⟨d, List.mem_of_find?_eq_some found, accepted, rfl⟩

theorem ids_replace (d : Draft) (ds : List Draft) :
    (replace d ds).map (·.id) = ds.map (·.id) := by
  rw [replace, List.map_map]
  refine List.map_congr_left fun other _ => ?_
  by_cases same : other.id = d.id
  · simp [same]
  · simp [same]

/-! ### What every call keeps -/

theorem sound_new (headers : List Text) : (new headers).Sound :=
  ⟨rfl, by simp [new], by simp [new, ids], by simp [new, ids]⟩

namespace Sound

theorem extend {d : Draft} (sound : b.Sound) (last : d.id = b.nextId) (kept : d.refusal? = none) :
    (b.extend d).Sound := by
  have ids : (b.extend d).ids = b.ids ++ [b.nextId] := by
    change (b.drafts ++ [d]).map (·.id) = _
    rw [List.map_append, List.map_singleton, last]
    rfl
  refine ⟨rfl, ?_, ?_, ?_⟩
  · intro d' hd'
    rcases List.mem_append.mp hd' with hd' | hd'
    · exact sound.kept d' hd'
    · rw [List.mem_singleton.mp hd', kept]
  · rw [ids, List.pairwise_append]
    refine ⟨sound.sorted, List.pairwise_singleton _ _, fun id hid other hother => ?_⟩
    rw [List.mem_singleton.mp hother]
    exact sound.below id hid
  · intro id hid
    rw [ids, List.mem_append, List.mem_singleton] at hid
    change id < b.nextId + 1
    rcases hid with hid | rfl
    · exact Nat.lt_succ_of_lt (sound.below id hid)
    · exact Nat.lt_succ_self _

theorem add {id : Nat} (h : b.Sound) (e : b.add = .ok (id, b')) : b'.Sound := by
  obtain ⟨column, accepted, rfl, rfl⟩ := add_eq_ok e
  exact h.extend rfl accepted

theorem update {id : Nat} {edit : Edit} (h : b.Sound) (e : b.update id edit = .ok b') :
    b'.Sound := by
  obtain ⟨d, -, accepted, rfl⟩ := update_eq_ok e
  have ids : (b.withDrafts (replace (edit.apply d) b.drafts)).ids = b.ids :=
    ids_replace (edit.apply d) b.drafts
  refine ⟨rfl, fun other hother => ?_, ?_, ?_⟩
  · obtain ⟨old, hold, rfl⟩ := List.mem_map.mp hother
    split
    · exact accepted
    · exact h.kept old hold
  · rw [ids]
    exact h.sorted
  · rw [ids]
    exact h.below

theorem withDrafts (h : b.Sound) {ds : List Draft} (fewer : ds.Sublist b.drafts) :
    (b.withDrafts ds).Sound := by
  have ids : (b.withDrafts ds).ids.Sublist b.ids := fewer.map _
  exact ⟨rfl, fun d hd => h.kept d (fewer.subset hd), h.sorted.sublist ids,
    fun id hid => h.below id (ids.subset hid)⟩

theorem remove (h : b.Sound) (id : Nat) : (b.remove id).Sound := by
  unfold Builder.remove
  split
  · exact h.withDrafts List.filter_sublist
  · exact h

theorem clear (h : b.Sound) : b.clear.Sound :=
  h.withDrafts (List.nil_sublist _)

theorem switch (h : b.Sound) (headers : List Text) : (b.switch headers).Sound :=
  clear ⟨h.text, h.kept, h.sorted, h.below⟩

/-- Every call keeps a builder sound, whether it is refused or not. -/
theorem call (h : b.Sound) (c : Command) : (b.call c).1.Sound := by
  cases c with
  | add =>
      rw [Builder.call]
      split
      · rename_i e
        exact h.add e
      · exact h
  | update id edit =>
      rw [Builder.call]
      split
      · rename_i e
        exact h.update e
      · exact h
  | remove id => exact h.remove id
  | clear => exact h.clear
  | switch headers => exact h.switch headers

theorem run (h : b.Sound) (cs : List Command) : (b.run cs).1.Sound := by
  induction cs generalizing b with
  | nil => exact h
  | cons c cs ih => exact ih (h.call c)

end Sound

/-! ### Numbers -/

theorem range_call (b : Builder) (c : Command) :
    List.range (b.call c).1.nextId = List.range b.nextId ++ (b.call c).2.toList := by
  cases c with
  | add =>
      rw [call]
      split
      · rename_i id b' e
        obtain ⟨column, -, rfl, rfl⟩ := add_eq_ok e
        exact List.range_succ
      · exact (List.append_nil _).symm
  | update id edit =>
      rw [call]
      split
      · rename_i e
        obtain ⟨d, -, -, rfl⟩ := update_eq_ok e
        exact (List.append_nil _).symm
      · exact (List.append_nil _).symm
  | remove id =>
      have same : (b.remove id).nextId = b.nextId := by
        unfold remove
        split <;> rfl
      simp [call, same]
  | clear => exact (List.append_nil _).symm
  | switch headers => exact (List.append_nil _).symm

/-- The numbers that a run gives out are the ones between the next number before it and after it,
each of them once. -/
theorem range_run (b : Builder) (cs : List Command) :
    List.range (b.run cs).1.nextId = List.range b.nextId ++ (b.run cs).2 := by
  induction cs generalizing b with
  | nil => exact (List.append_nil _).symm
  | cons c cs ih => rw [run, ih, range_call, List.append_assoc]

theorem length_given_le (b : Builder) (cs : List Command) :
    (b.run cs).2.length ≤ cs.count .add := by
  induction cs generalizing b with
  | nil => exact Nat.le_refl 0
  | cons c cs ih =>
      have one : (b.call c).2.toList.length ≤ [c].count .add := by
        cases c with
        | add => cases h : (b.call .add).2 <;> simp
        | update id edit => rw [call]; split <;> simp
        | remove id => simp [call]
        | clear => simp [call]
        | switch headers => simp [call]
      rw [run, List.length_append, ← List.singleton_append, List.count_append]
      exact Nat.add_le_add one (ih _)

end Builder

/-! ### What the text depends on -/

namespace Draft

/-- What was typed into a draft. -/
def content (d : Draft) : Text × Operator × Text × Logic :=
  (d.column, d.operator, d.value, d.logic)

variable {d e : Draft} {ds es : List Draft}

theorem fragment_congr (h : d.content = e.content) : d.fragment = e.fragment := by
  cases d
  cases e
  cases h
  rfl

theorem condition_congr (h : d.content = e.content) : d.condition = e.condition := by
  cases d
  cases e
  cases h
  rfl

theorem logic_congr (h : d.content = e.content) : d.logic = e.logic :=
  congrArg (·.2.2.2) h

theorem joinedText_congr (h : ds.map content = es.map content) :
    joinedText ds = joinedText es := by
  induction ds generalizing es with
  | nil => rw [List.map_eq_nil_iff.mp h.symm]
  | cons d ds ih =>
      obtain ⟨e, es, rfl, head, tail⟩ := List.map_eq_cons_iff.mp h.symm
      rw [joinedText, joinedText, logic_congr head, fragment_congr head, ih tail.symm]

theorem clauseText_congr (h : ds.map content = es.map content) :
    clauseText ds = clauseText es := by
  cases ds with
  | nil => rw [List.map_eq_nil_iff.mp h.symm]
  | cons d ds =>
      obtain ⟨e, es, rfl, head, tail⟩ := List.map_eq_cons_iff.mp h.symm
      rw [clauseText_cons, clauseText_cons, fragment_congr head, joinedText_congr tail.symm]

theorem clauseOf_congr (h : ds.map content = es.map content) : clauseOf ds = clauseOf es := by
  induction ds generalizing es with
  | nil => rw [List.map_eq_nil_iff.mp h.symm]
  | cons d ds ih =>
      obtain ⟨e, es, rfl, head, tail⟩ := List.map_eq_cons_iff.mp h.symm
      have rest := ih tail.symm
      cases ds with
      | nil =>
          obtain rfl := List.map_eq_nil_iff.mp tail
          rw [clauseOf_singleton, clauseOf_singleton, condition_congr head]
      | cons d' ds =>
          obtain ⟨e', es, rfl, head', -⟩ := List.map_eq_cons_iff.mp tail
          cases hl : d'.logic with
          | and =>
              have hl' : e'.logic = .and := (logic_congr head').trans hl
              rw [clauseOf_cons_and d hl, clauseOf_cons_and e hl', rest, condition_congr head]
          | or =>
              have hl' : e'.logic = .or := (logic_congr head').trans hl
              rw [clauseOf_cons_or d hl, clauseOf_cons_or e hl', rest, condition_congr head]

end Draft

namespace Builder

/-- **Runs of a new builder.**  After any calls with fewer than 2^64 additions the clause text is
the one of the drafts, every draft can be written, the numbers of the drafts increase and are below
the next number, which fits 64 bits, and no number was given out twice.  A run that ends in drafts
with the same contents ends in the same clause text and the same clause. -/
theorem run_of_new (headers : List Text) (commands : List Command)
    (few : commands.count .add < 2 ^ 64) :
    let b := ((new headers).run commands).1
    let given := ((new headers).run commands).2
    b.clauseText = Draft.clauseText b.drafts ∧
    (∀ d ∈ b.drafts, d.refusal? = none) ∧
    b.ids.Pairwise (· < ·) ∧ (∀ id ∈ b.ids, id < b.nextId) ∧ b.nextId < 2 ^ 64 ∧
    given = List.range b.nextId ∧ given.Nodup ∧
    ∀ headers' commands',
      let b' := ((new headers').run commands').1
      b'.drafts.map Draft.content = b.drafts.map Draft.content →
        b'.clauseText = b.clauseText ∧ b'.clause = b.clause := by
  intro b given
  have sound : b.Sound := (sound_new headers).run commands
  have numbers : given = List.range b.nextId := (range_run (new headers) commands).symm
  have bound : b.nextId ≤ commands.count .add := by
    have length := length_given_le (new headers) commands
    change given.length ≤ _ at length
    rwa [numbers, List.length_range] at length
  refine ⟨sound.text, sound.kept, sound.sorted, sound.below, Nat.lt_of_le_of_lt bound few, numbers,
    ?_, ?_⟩
  · rw [numbers]
    exact List.nodup_range
  · intro headers' commands' b' same
    have sound' : b'.Sound := (sound_new headers').run commands'
    refine ⟨?_, Draft.clauseOf_congr same⟩
    rw [sound'.text, sound.text, Draft.clauseText_congr same]

theorem run_of_new_two_datasets :
    let commands : List Command := [.add, .add, .remove 0, .update 0 (.value "x".toList), .clear,
      .add, .switch [], .add, .switch ["B".toList], .add, .update 3 (.logic .or),
      .update 3 (.value "x or y".toList), .add]
    let b := ((new ["A".toList]).run commands).1
    let given := ((new ["A".toList]).run commands).2
    commands.count .add < 2 ^ 64 ∧ b.clauseText = "WHERE B = '' AND B = ''".toList ∧
    b.ids = [3, 4] ∧ given = [0, 1, 2, 3, 4] ∧ given.Nodup := by
  intro commands b given
  have few : commands.count .add < 2 ^ 64 := by decide
  obtain ⟨text, -, -, -, -, numbers, nodup, -⟩ := run_of_new ["A".toList] commands few
  refine ⟨few, ?_, by decide, ?_, nodup⟩
  · exact text.trans (by decide)
  · exact numbers.trans (by decide)

/-! ### Filtering by text and by drafts -/

section filtering

variable {b : Builder}

theorem Sound.filter_clauseText (h : b.Sound) (rows : List Row) :
    Clause.filter rows b.clauseText =
      .ok (rows.filter (Clause.holds (Draft.reading b.drafts))) := by
  rw [h.text, Draft.filter_clauseText h.kept]

/-- The text and the drafts keep the same rows of every list exactly if they say the same of every
row. -/
theorem Sound.filter_eq_iff (h : b.Sound) :
    (∀ rows, Clause.filter rows b.clauseText = .ok (rows.filter b.holds)) ↔
      ∀ row, Clause.holds (Draft.reading b.drafts) row = b.holds row := by
  constructor
  · intro same row
    have one := same [row]
    rw [h.filter_clauseText, Except.ok.injEq] at one
    cases hr : Clause.holds (Draft.reading b.drafts) row <;> cases hb : b.holds row <;>
      simp_all
  · intro same rows
    rw [h.filter_clauseText, List.filter_congr fun row _ => same row]

/-- **Filtering by text and by drafts.**  After any calls the clause text is accepted and keeps the
rows of which the reading of the drafts holds; so text and drafts agree on every list of rows
exactly if the reading and the drafts say the same of every row.  The reading is the clause of the
drafts exactly if no draft after the first is joined by `OR` to a column that is `AND` or begins
with `AND` and white space, and then they agree. -/
theorem filter_run (headers : List Text) (commands : List Command) :
    let b := ((new headers).run commands).1
    (∀ rows, Clause.filter rows b.clauseText =
      .ok (rows.filter (Clause.holds (Draft.reading b.drafts)))) ∧
    ((∀ rows, Clause.filter rows b.clauseText = .ok (rows.filter b.holds)) ↔
      ∀ row, Clause.holds (Draft.reading b.drafts) row = b.holds row) ∧
    (Draft.reading b.drafts = b.clause ↔ ∀ d ∈ b.drafts.tail, d.opensSeam = false) ∧
    ((∀ d ∈ b.drafts.tail, d.opensSeam = false) →
      ∀ rows, Clause.filter rows b.clauseText = .ok (rows.filter b.holds)) := by
  intro b
  have sound : b.Sound := (sound_new headers).run commands
  have meaning := Draft.reading_eq_clauseOf_iff sound.kept
  refine ⟨sound.filter_clauseText, sound.filter_eq_iff, meaning, fun seamless => ?_⟩
  have meant : Draft.reading b.drafts = b.clause := meaning.mpr seamless
  refine sound.filter_eq_iff.mpr fun row => ?_
  rw [meant]
  rfl

/-- Two drafts with a seam: the text keeps no row although the drafts hold of one. -/
theorem filter_run_seam :
    let headers := ["A".toList, "AND x".toList]
    let commands : List Command := [.add, .update 0 (.value "x".toList), .add,
      .update 1 (.column "AND x".toList), .update 1 (.value "v".toList), .update 1 (.logic .or)]
    let b := ((new headers).run commands).1
    let row := Row.ofCells [("A".toList, "x".toList), ("AND x".toList, "w".toList)]
    b.clauseText = "WHERE A = 'x' OR AND x = 'v'".toList ∧
    Clause.filter [row] b.clauseText = .ok [] ∧ [row].filter b.holds = [row] := by
  intro headers commands b row
  have text : b.clauseText = "WHERE A = 'x' OR AND x = 'v'".toList := by decide
  have read : Clause.holds (Draft.reading b.drafts) row = false := by decide
  have meant : b.holds row = true := by decide
  have sound : b.Sound := (sound_new headers).run commands
  refine ⟨text, ?_, ?_⟩
  · rw [sound.filter_clauseText, List.filter_singleton, read]
    rfl
  · rw [List.filter_singleton, meant]
    rfl

end filtering

end Builder

end Tabular
