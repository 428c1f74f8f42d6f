import Tabular.Proofs.Builder.Edits

/-! # Calls in place

`add`, `update` and `remove` give the builder after a call.  Here the same calls are made on one
builder that is written step by step: an addition writes the next number, the drafts and the clause
text one after the other, an edit writes over one place of the list, and a refusal takes no step
back.  That a refused call changes nothing is then a fact about the order of the steps, namely that
every check comes before the first write.

An edit looks at one draft and writes over it alone, so what it finds is not changed by an edit of
another draft (`edited_replace`), and two such edits can be exchanged (`exchange`).  All of it is in
`calls_in_place`. -/

namespace Tabular

/-- Whether a draft is another one in which the field that an edit names has the new content. -/
structure Edit.Changes (edit : Edit) (d d' : Draft) : Prop where
  id : d'.id = d.id
  column : d'.column = match edit with
    | .column c => c
    | _ => d.column
  operator : d'.operator = match edit with
    | .operator op => op
    | _ => d.operator
  value : d'.value = match edit with
    | .value v => v
    | _ => d.value
  logic : d'.logic = match edit with
    | .logic l => l
    | _ => d.logic

theorem Edit.changes_apply (edit : Edit) (d : Draft) : edit.Changes d (edit.apply d) := by
  cases edit <;> exact ⟨rfl, rfl, rfl, rfl, rfl⟩

namespace Builder

/-! ### Steps -/

/-- A call on a builder that is written in place.  A refusal takes back none of the steps before
it. -/
abbrev Steps (α : Type) :=
  ExceptT BuilderError (StateM Builder) α

namespace Steps

variable {α β : Type}

/-- What a call gives, or why it is refused, and the builder that it leaves. -/
def on (steps : Steps α) (b : Builder) : Except BuilderError α × Builder :=
  StateT.run (ExceptT.run steps) b

@[simp] theorem on_pure (a : α) (b : Builder) : on (pure a) b = (.ok a, b) := rfl

@[simp] theorem on_throw (e : BuilderError) (b : Builder) :
    on (throw e : Steps α) b = (.error e, b) := rfl

@[simp] theorem on_get (b : Builder) : on get b = (.ok b, b) := rfl

@[simp] theorem on_modify (write : Builder → Builder) (b : Builder) :
    on (modify write) b = (.ok (), write b) := rfl

@[simp] theorem on_bind (steps : Steps α) (f : α → Steps β) (b : Builder) :
    on (steps >>= f) b =
      match steps.on b with
      | (.ok a, b') => (f a).on b'
      | (.error e, b') => (.error e, b') := by
  change StateT.run (ExceptT.run steps >>= ExceptT.bindCont f) b = _
  rw [StateT.run_bind]
  change _ = match StateT.run (ExceptT.run steps) b with
    | (.ok a, b') => (f a).on b'
    | (.error e, b') => (.error e, b')
  rcases StateT.run (ExceptT.run steps) b with ⟨_ | _, _⟩
  · rfl
  · rfl

end Steps

/-- Writes the clause text of the drafts. -/
def regenerate : Steps Unit :=
  modify fun b => { b with clauseText := Draft.clauseText b.drafts }

/-- Refuses a draft that cannot be kept. -/
def check (d : Draft) : Steps Unit :=
  match d.refusal? with
  | some refusal => throw (.refused refusal)
  | none => pure ()

/-- Adds a draft in place and gives its number. -/
def addInPlace : Steps Nat := do
  let b ← get
  match b.headers with
  | [] => throw .noColumns
  | column :: _ =>
    let d := newDraft b.nextId column
    check d
    modify fun b => { b with nextId := b.nextId + 1 }
    modify fun b => { b with drafts := b.drafts ++ [d] }
    regenerate
    return d.id

/-- Changes the first draft with a number in place. -/
def updateInPlace (id : Nat) (edit : Edit) : Steps Unit := do
  let b ← get
  let place := b.drafts.findIdx (·.id = id)
  match b.drafts[place]? with
  | none => throw (.unknownCondition id)
  | some d =>
    check (edit.apply d)
    modify fun b => { b with drafts := b.drafts.set place (edit.apply d) }
    regenerate

/-- Takes out the drafts with a number in place and gives whether there were any. -/
def removeInPlace (id : Nat) : Steps Bool := do
  let before := (← get).drafts.length
  modify fun b => { b with drafts := b.drafts.filter (·.id ≠ id) }
  let removed := (← get).drafts.length != before
  if removed then regenerate
  return removed

variable {b : Builder} {d : Draft} {front back : List Draft}

@[simp] theorem on_check (d : Draft) (b : Builder) :
    (check d).on b = (match d.refusal? with
      | some refusal => .error (.refused refusal)
      | none => .ok (), b) := by
  rw [check]
  cases d.refusal? with
  | some refusal => exact Steps.on_throw _ b
  | none => exact Steps.on_pure () b

/-! ### Additions -/

theorem on_addInPlace (b : Builder) : addInPlace.on b = (b.add.map (·.1), (b.call .add).1) := by
  rw [addInPlace, call, add, Steps.on_bind, Steps.on_get]
  dsimp only
  cases b.headers with
  | nil => rfl
  | cons column _ =>
      dsimp only
      rw [Steps.on_bind, on_check]
      cases (newDraft b.nextId column).refusal? with
      | some refusal => rfl
      | none => rfl

theorem add_unchanged_of_error {e : BuilderError} (refused : (addInPlace.on b).1 = .error e) :
    (addInPlace.on b).2 = b := by
  rw [on_addInPlace] at refused ⊢
  rw [call]
  cases h : b.add with
  | error _ => rfl
  | ok _ =>
      rw [h] at refused
      cases refused

/-! ### Edits -/

/-- The draft that an edit puts in the place of the one with a number, or why it is refused. -/
def edited (drafts : List Draft) (id : Nat) (edit : Edit) : Except BuilderError Draft :=
  match drafts.find? (·.id = id) with
  | none => .error (.unknownCondition id)
  | some d =>
    match (edit.apply d).refusal? with
    | some refusal => .error (.refused refusal)
    | none => .ok (edit.apply d)

/-- What an edit of a builder gives, and the builder that it leaves. -/
def editedTo (b : Builder) : Except BuilderError Draft → Except BuilderError Unit × Builder
  | .ok d => (.ok (), b.withDrafts (replace d b.drafts))
  | .error e => (.error e, b)

theorem edited_eq_ok {drafts : List Draft} {id : Nat} {edit : Edit}
    (h : edited drafts id edit = .ok d) :
    ∃ old, drafts.find? (·.id = id) = some old ∧ old.id = id ∧ d = edit.apply old ∧
      d.refusal? = none := by
  rw [edited] at h
  split at h
  · cases h
  · rename_i old found
    split at h
    · cases h
    · rename_i accepted
      cases h
      obtain ⟨same, -⟩ := List.find?_eq_some_iff_append.mp found
      exact ⟨old, found, of_decide_eq_true same, rfl, accepted⟩

theorem id_of_edited {drafts : List Draft} {id : Nat} {edit : Edit}
    (h : edited drafts id edit = .ok d) : d.id = id := by
  obtain ⟨old, -, same, rfl, -⟩ := edited_eq_ok h
  exact (edit.apply_id old).trans same

theorem unchanged_of_editedTo_error {result : Except BuilderError Draft} {e : BuilderError}
    (refused : (b.editedTo result).1 = .error e) : (b.editedTo result).2 = b := by
  cases result with
  | error _ => rfl
  | ok _ => cases refused

/-- An accepted edit writes over one draft, which keeps its place and its number. -/
theorem exists_split_of_editedTo_ok (nodup : b.ids.Nodup) {id : Nat} {edit : Edit}
    (accepted : (b.editedTo (edited b.drafts id edit)).1 = .ok ()) :
    ∃ front d d' back, b.drafts = front ++ d :: back ∧ d.id = id ∧ edit.Changes d d' ∧
      d'.refusal? = none ∧
      (b.editedTo (edited b.drafts id edit)).2 = b.withDrafts (front ++ d' :: back) := by
  cases h : edited b.drafts id edit with
  | error _ =>
      rw [h] at accepted
      cases accepted
  | ok d' =>
      obtain ⟨d, found, rfl, rfl, kept⟩ := edited_eq_ok h
      obtain ⟨front, back, split⟩ := List.append_of_mem (List.mem_of_find?_eq_some found)
      refine ⟨front, d, edit.apply d, back, split, rfl, edit.changes_apply d, kept, ?_⟩
      rw [ids, split] at nodup
      rw [editedTo, split, replace_of_split nodup (edit.apply_id d)]

theorem update_eq_edited (b : Builder) (id : Nat) (edit : Edit) :
    ((b.update id edit).map fun _ => (), (b.call (.update id edit)).1) =
      b.editedTo (edited b.drafts id edit) := by
  rw [call, update, edited]
  cases b.drafts.find? (·.id = id) with
  | none => rfl
  | some d =>
      dsimp only
      cases (edit.apply d).refusal? with
      | some refusal => rfl
      | none => rfl

theorem findIdx_of_split (before : ∀ other ∈ front, other.id ≠ d.id) :
    (front ++ d :: back).findIdx (·.id = d.id) = front.length := by
  induction front with
  | nil => simp [List.findIdx_cons]
  | cons other front ih =>
      obtain ⟨ne, before⟩ := List.forall_mem_cons.mp before
      simp [List.findIdx_cons, ne, ih before]

theorem on_updateInPlace (nodup : b.ids.Nodup) (id : Nat) (edit : Edit) :
    (updateInPlace id edit).on b = b.editedTo (edited b.drafts id edit) := by
  rw [updateInPlace, edited, Steps.on_bind, Steps.on_get]
  dsimp only
  cases found : b.drafts.find? (·.id = id) with
  | none =>
      have nowhere : b.drafts.findIdx (·.id = id) = b.drafts.length :=
        List.findIdx_eq_length.mpr fun other mem => by
          simpa using List.find?_eq_none.mp found other mem
      rw [nowhere, List.getElem?_length]
      rfl
  | some d =>
      obtain ⟨same, front, back, split, before⟩ := List.find?_eq_some_iff_append.mp found
      obtain rfl : d.id = id := of_decide_eq_true same
      have place : b.drafts.findIdx (·.id = d.id) = front.length := by
        rw [split]
        exact findIdx_of_split fun other mem => by simpa using before other mem
      have here : b.drafts[front.length]? = some d := by
        rw [split, List.getElem?_append_right (Nat.le_refl _), Nat.sub_self]
        rfl
      have written : b.drafts.set front.length (edit.apply d) =
          replace (edit.apply d) b.drafts := by
        rw [ids, split] at nodup
        rw [split, replace_of_split nodup (edit.apply_id d),
          List.set_append_right _ _ (Nat.le_refl _), Nat.sub_self]
        rfl
      rw [place, here]
      dsimp only
      rw [Steps.on_bind, on_check]
      cases (edit.apply d).refusal? with
      | some refusal => rfl
      | none =>
          rw [editedTo, ← written]
          rfl

/-! ### Edits of two drafts -/

variable {d' : Draft} {ds : List Draft}

theorem find?_replace_of_ne {id : Nat} (h : d.id ≠ id) :
    (replace d ds).find? (·.id = id) = ds.find? (·.id = id) := by
  induction ds with
  | nil => rfl
  | cons other ds ih =>
      change ((if other.id = d.id then d else other) :: replace d ds).find? _ = _
      by_cases same : other.id = d.id
      · rw [if_pos same, List.find?_cons_of_neg (by simpa using h), ih,
          List.find?_cons_of_neg (by simpa [same] using h)]
      · rw [if_neg same, List.find?_cons, List.find?_cons, ih]

/-- What an edit puts in does not depend on a draft with another number. -/
theorem edited_replace {id : Nat} (h : d.id ≠ id) (edit : Edit) :
    edited (replace d ds) id edit = edited ds id edit := by
  rw [edited, find?_replace_of_ne h, edited]

theorem replace_comm (h : d.id ≠ d'.id) :
    replace d (replace d' ds) = replace d' (replace d ds) := by
  simp only [replace, List.map_map]
  refine List.map_congr_left fun other _ => ?_
  by_cases same : other.id = d.id
  · simp [same, h]
  · by_cases same' : other.id = d'.id
    · simp [same', h.symm]
    · simp [same, same']

theorem ids_editedTo (b : Builder) (result : Except BuilderError Draft) :
    (b.editedTo result).2.ids = b.ids := by
  cases result with
  | ok d => exact ids_replace d b.drafts
  | error e => rfl

/-- Two edits with different numbers give the same in either order. -/
theorem exchange {id id' : Nat} (other : id ≠ id') (edit edit' : Edit) :
    let first := b.editedTo (edited b.drafts id edit)
    let second := first.2.editedTo (edited first.2.drafts id' edit')
    let first' := b.editedTo (edited b.drafts id' edit')
    let second' := first'.2.editedTo (edited first'.2.drafts id edit)
    first.1 = second'.1 ∧ second.1 = first'.1 ∧ second.2 = second'.2 := by
  cases h : edited b.drafts id edit with
  | error e =>
      cases h' : edited b.drafts id' edit' with
      | error e' => simp only [editedTo, h, h', and_self]
      | ok d' =>
          have apart : d'.id ≠ id := fun same => other (same.symm.trans (id_of_edited h'))
          simp only [editedTo, h', withDrafts, edited_replace apart, h, and_self]
  | ok d =>
      have apart : d.id ≠ id' := fun same => other ((id_of_edited h).symm.trans same)
      cases h' : edited b.drafts id' edit' with
      | error e' => simp only [editedTo, withDrafts, edited_replace apart, h, h', and_self]
      | ok d' =>
          have apart' : d'.id ≠ id := fun same => other (same.symm.trans (id_of_edited h'))
          have swap : replace d' (replace d b.drafts) = replace d (replace d' b.drafts) :=
            replace_comm fun same => apart (same.symm.trans (id_of_edited h'))
          simp only [editedTo, withDrafts, edited_replace apart, edited_replace apart', h, h', swap,
            and_self]

/-! ### Removals -/

theorem length_without_bne (ds : List Draft) (id : Nat) :
    ((ds.filter (·.id ≠ id)).length != ds.length) = ds.any (·.id = id) := by
  rw [Bool.eq_iff_iff, bne_iff_ne]
  constructor
  · intro shorter
    by_contra none
    refine shorter (congrArg List.length (List.filter_eq_self.mpr fun d mem => ?_))
    rw [decide_eq_true_iff]
    intro same
    exact none (List.any_eq_true.mpr ⟨d, mem, decide_eq_true same⟩)
  · intro some
    obtain ⟨d, mem, same⟩ := List.any_eq_true.mp some
    refine Nat.ne_of_lt (List.length_filter_lt_length_iff_exists.mpr ⟨d, mem, ?_⟩)
    simpa using same

theorem on_removeInPlace (b : Builder) (id : Nat) :
    (removeInPlace id).on b = (.ok (b.has id), b.remove id) := by
  have told : ((b.drafts.filter (·.id ≠ id)).length != b.drafts.length) = b.has id :=
    length_without_bne b.drafts id
  simp only [removeInPlace, Steps.on_bind, Steps.on_get, Steps.on_modify, told]
  cases live : b.has id with
  | true =>
      rw [remove, if_pos live]
      rfl
  | false =>
      have all : b.drafts.filter (·.id ≠ id) = b.drafts := by
        refine List.filter_eq_self.mpr fun d mem => decide_eq_true fun same => ?_
        exact Bool.false_ne_true (live.symm.trans
          (List.any_eq_true.mpr ⟨d, mem, decide_eq_true same⟩))
      rw [remove, live, all]
      rfl

/-! ### Calls -/

/-- **Calls in place.**  On a builder whose drafts have different numbers the steps of an addition,
an edit and a removal come to what `add`, `update` and `remove` give.  An addition or an edit that
is refused leaves the builder as it was, the next number and the clause text included.  An edit that
is accepted changes the field that it names in the draft with the number; the drafts in front of it
and behind it stay, and so does everything else but the clause text, which is the one of the new
drafts.  Two edits with different numbers give the same answers and leave the same builder in either
order, refused or not.  A removal gives whether a draft has the number; it takes out this draft alone
and changes nothing if there is none. -/
theorem calls_in_place {b : Builder} (nodup : b.ids.Nodup) :
    (addInPlace.on b = (b.add.map (·.1), (b.call .add).1) ∧
      (∀ id edit, (updateInPlace id edit).on b =
        ((b.update id edit).map fun _ => (), (b.call (.update id edit)).1)) ∧
      ∀ id, (removeInPlace id).on b = (.ok (b.has id), b.remove id)) ∧
    (∀ e, (addInPlace.on b).1 = .error e → (addInPlace.on b).2 = b) ∧
    (∀ id edit e, ((updateInPlace id edit).on b).1 = .error e →
      ((updateInPlace id edit).on b).2 = b) ∧
    (∀ id edit, ((updateInPlace id edit).on b).1 = .ok () → ∃ front d d' back,
      b.drafts = front ++ d :: back ∧ d.id = id ∧ edit.Changes d d' ∧ d'.refusal? = none ∧
      ((updateInPlace id edit).on b).2 = { b with
        drafts := front ++ d' :: back
        clauseText := Draft.clauseText (front ++ d' :: back) }) ∧
    (∀ id id' edit edit', id ≠ id' →
      let first := (updateInPlace id edit).on b
      let second := (updateInPlace id' edit').on first.2
      let first' := (updateInPlace id' edit').on b
      let second' := (updateInPlace id edit).on first'.2
      first.1 = second'.1 ∧ second.1 = first'.1 ∧ second.2 = second'.2) ∧
    (∀ id, b.has id = true → ∃ front d back, b.drafts = front ++ d :: back ∧ d.id = id ∧
      (removeInPlace id).on b = (.ok true, { b with
        drafts := front ++ back
        clauseText := Draft.clauseText (front ++ back) })) ∧
    ∀ id, b.has id = false → (removeInPlace id).on b = (.ok false, b) := by
  refine ⟨⟨on_addInPlace b, fun id edit => ?_, on_removeInPlace b⟩, ?_, ?_, ?_, ?_, ?_, ?_⟩
  · rw [on_updateInPlace nodup, update_eq_edited]
  · exact fun e refused => add_unchanged_of_error refused
  · intro id edit e refused
    rw [on_updateInPlace nodup] at refused ⊢
    exact unchanged_of_editedTo_error refused
  · intro id edit accepted
    rw [on_updateInPlace nodup] at accepted ⊢
    exact exists_split_of_editedTo_ok nodup accepted
  · intro id id' edit edit' other
    rw [on_updateInPlace nodup, on_updateInPlace nodup]
    dsimp only
    have nodup₁ : (b.editedTo (edited b.drafts id edit)).2.ids.Nodup := by
      rwa [ids_editedTo]
    have nodup₂ : (b.editedTo (edited b.drafts id' edit')).2.ids.Nodup := by
      rwa [ids_editedTo]
    rw [on_updateInPlace nodup₁, on_updateInPlace nodup₂]
    exact exchange other edit edit'
  · intro id live
    obtain ⟨front, d, back, split, rfl⟩ := exists_split live
    refine ⟨front, d, back, split, rfl, ?_⟩
    rw [ids, split] at nodup
    rw [on_removeInPlace, remove, if_pos live, live, split, filter_of_split nodup]
    rfl
  · intro id gone
    rw [on_removeInPlace, remove, gone]
    rfl

/-- One edit that is accepted and one that is refused, in both orders, and an addition that is
refused without giving a number away. -/
theorem calls_in_place_two_edits :
    let b := ((new ["A".toList]).run [.add, .add]).1
    let accepted := updateInPlace 0 (.value "x".toList)
    let refused := updateInPlace 1 (.value "x or y".toList)
    b.ids.Nodup ∧
    (accepted.on b).1 = .ok () ∧
    (accepted.on b).2.clauseText = "WHERE A = 'x' AND A = ''".toList ∧
    (∃ e, (refused.on b).1 = .error e) ∧ (refused.on b).2 = b ∧
    (refused.on (accepted.on b).2).2 = (accepted.on (refused.on b).2).2 ∧
    (removeInPlace 2).on b = (.ok false, b) ∧
    (addInPlace.on (new ["A=".toList])).2 = new ["A=".toList] := by
  intro b accepted refused
  have nodup : b.ids.Nodup := by decide
  obtain ⟨-, -, unchanged, -, exchanged, -, absent⟩ := calls_in_place nodup
  have ok : (accepted.on b).1 = .ok () := by decide
  have error : (refused.on b).1 =
      .error (.refused (.inexpressible "A = 'x or y'".toList)) := by decide
  refine ⟨nodup, ok, by decide, ⟨_, error⟩, unchanged 1 _ _ error, ?_, absent 2 (by decide), ?_⟩
  · exact (exchanged 0 1 _ _ (by decide)).2.2
  · obtain ⟨-, kept, -⟩ := calls_in_place (b := new ["A=".toList]) (by decide)
    exact kept (.refused (.inexpressible "A= = ''".toList)) (by decide)

end Builder

end Tabular
