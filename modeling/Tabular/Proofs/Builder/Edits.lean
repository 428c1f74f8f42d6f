import Tabular.Proofs.Builder.Run
import Tabular.Proofs.Draft.Acceptance

/-! # Editing from one condition to another

Every edit of a draft is checked, so a draft may not be led to another one by setting column,
operator and value in any order: a column with `=` in it goes with `LIKE` and not with `=`.  There is
an order that is never refused (`exists_updateAll`).  The value goes first, since no draft needs one
to be kept; then `STARTS WITH` is set, which goes with every column that goes with an operator at
all; behind it come the new column, the new operator and at last the new value. -/

namespace Tabular

/-- A draft after some edits. -/
def Edit.applyAll (edits : List Edit) (d : Draft) : Draft :=
  edits.foldl (fun d edit => edit.apply d) d

/-- Whether a draft can be kept after each of some edits. -/
def Draft.Bears (d : Draft) : List Edit → Prop
  | [] => True
  | edit :: edits => (edit.apply d).refusal? = none ∧ (edit.apply d).Bears edits

theorem Edit.apply_id (edit : Edit) (d : Draft) : (edit.apply d).id = d.id := by
  cases edit <;> rfl

namespace Builder

/-- Makes some edits of the draft with a number, up to the first one that is refused. -/
def updateAll (b : Builder) (id : Nat) (edits : List Edit) : Except BuilderError Builder :=
  edits.foldlM (fun b edit => b.update id edit) b

variable {b : Builder} {d d' : Draft} {front back : List Draft}

/-! ### One draft among others -/

theorem exists_split {id : Nat} (live : b.has id = true) :
    ∃ front d back, b.drafts = front ++ d :: back ∧ d.id = id := by
  obtain ⟨d, mem, same⟩ := List.any_eq_true.mp live
  obtain ⟨front, back, split⟩ := List.append_of_mem mem
  exact ⟨front, d, back, split, of_decide_eq_true same⟩

theorem apart_of_split (nodup : ((front ++ d :: back).map (·.id)).Nodup) :
    (∀ other ∈ front, other.id ≠ d.id) ∧ ∀ other ∈ back, other.id ≠ d.id := by
  rw [List.map_append, List.map_cons, List.nodup_append, List.nodup_cons] at nodup
  obtain ⟨-, ⟨behind, -⟩, apart⟩ := nodup
  refine ⟨fun other mem => ?_, fun other mem same => behind ?_⟩
  · exact apart other.id (List.mem_map_of_mem mem) d.id List.mem_cons_self
  · rw [← same]
    exact List.mem_map_of_mem mem

theorem find?_of_split (nodup : ((front ++ d :: back).map (·.id)).Nodup) :
    (front ++ d :: back).find? (·.id = d.id) = some d := by
  have passed : front.find? (·.id = d.id) = none := by
    rw [List.find?_eq_none]
    intro other mem same
    exact (apart_of_split nodup).1 other mem (of_decide_eq_true same)
  rw [List.find?_append, passed, Option.none_or]
  exact List.find?_cons_of_pos (decide_eq_true rfl)

theorem replace_of_forall_ne {ds : List Draft} (h : ∀ other ∈ ds, other.id ≠ d.id) :
    replace d ds = ds := by
  rw [replace]
  conv_rhs => rw [← List.map_id ds]
  exact List.map_congr_left fun other mem => if_neg (h other mem)

theorem replace_of_split (nodup : ((front ++ d :: back).map (·.id)).Nodup) (same : d'.id = d.id) :
    replace d' (front ++ d :: back) = front ++ d' :: back := by
  obtain ⟨before, behind⟩ := apart_of_split nodup
  rw [← same] at before behind
  have place : replace d' (d :: back) = d' :: replace d' back := by
    rw [replace, List.map_cons, if_pos same.symm]
    rfl
  rw [replace, List.map_append]
  change replace d' front ++ replace d' (d :: back) = _
  rw [replace_of_forall_ne before, place, replace_of_forall_ne behind]

theorem filter_of_split (nodup : ((front ++ d :: back).map (·.id)).Nodup) :
    (front ++ d :: back).filter (·.id ≠ d.id) = front ++ back := by
  obtain ⟨before, behind⟩ := apart_of_split nodup
  have front_kept : front.filter (·.id ≠ d.id) = front :=
    List.filter_eq_self.mpr fun other mem => decide_eq_true (before other mem)
  have back_kept : back.filter (·.id ≠ d.id) = back :=
    List.filter_eq_self.mpr fun other mem => decide_eq_true (behind other mem)
  rw [List.filter_append, List.filter_cons_of_neg (by simp), front_kept, back_kept]

/-! ### Edits that are not refused -/

theorem Sound.nodup (h : b.Sound) : b.ids.Nodup :=
  h.sorted.imp Nat.ne_of_lt

/-- An edit of a draft is refused, or it changes the draft and nothing else. -/
theorem update_eq_of_split (split : b.drafts = front ++ d :: back) (nodup : b.ids.Nodup)
    (edit : Edit) :
    b.update d.id edit =
      match (edit.apply d).refusal? with
      | some refusal => .error (.refused refusal)
      | none => .ok (b.withDrafts (front ++ edit.apply d :: back)) := by
  rw [ids, split] at nodup
  have replaced := replace_of_split nodup (edit.apply_id d)
  rw [update, split, find?_of_split nodup]
  dsimp only
  cases (edit.apply d).refusal? with
  | some refusal => rfl
  | none => exact congrArg (fun drafts => Except.ok (b.withDrafts drafts)) replaced

theorem update_of_split (split : b.drafts = front ++ d :: back) (nodup : b.ids.Nodup) {edit : Edit}
    (accepted : (edit.apply d).refusal? = none) :
    b.update d.id edit = .ok (b.withDrafts (front ++ edit.apply d :: back)) := by
  rw [update_eq_of_split split nodup, accepted]

theorem updateAll_of_split (split : b.drafts = front ++ d :: back) (sound : b.Sound)
    {edits : List Edit} (bears : d.Bears edits) :
    ∃ b', b.updateAll d.id edits = .ok b' ∧ b'.Sound ∧ b'.headers = b.headers ∧
      b'.nextId = b.nextId ∧ b'.drafts = front ++ Edit.applyAll edits d :: back := by
  induction edits generalizing b d with
  | nil => exact ⟨b, rfl, sound, rfl, rfl, split⟩
  | cons edit edits ih =>
      obtain ⟨accepted, bears⟩ := bears
      have step := update_of_split split sound.nodup accepted
      have sound' := sound.update step
      obtain ⟨b', run, sound'', headers, nextId, drafts⟩ := ih rfl sound' bears
      rw [edit.apply_id] at run
      refine ⟨b', ?_, sound'', headers, nextId, drafts⟩
      rw [updateAll, List.foldlM_cons, step]
      exact run

/-! ### A way to every condition -/

/-- Edits that lead to a column, an operator and a value. -/
def route (column : Text) (operator : Operator) (value : Text) : List Edit :=
  [.value [], .operator .startsWith, .column column, .operator operator, .value value]

/-- Each draft on the way can be kept if the first and the last one can. -/
theorem bears_route (kept : d.refusal? = none) {target : Draft} (accepted : target.refusal? = none) :
    d.Bears (route target.column target.operator target.value) := by
  have cleared := Draft.refusal?_withoutValue kept
  have started := Draft.refusal?_withStartsWith cleared
  -- What is refused does not depend on number and join.
  have started' := Draft.refusal?_withStartsWith accepted
  have cleared' := Draft.refusal?_withoutValue accepted
  exact ⟨cleared, started, started', cleared', accepted, trivial⟩

/-- **Edits from one condition to another.**  After any calls, and for every draft that the builder
then holds, every column, operator and value that can be kept can be reached by edits of these
fields, none of which is refused; number, join and place of the draft and everything else in the
builder stay, and the clause text is the one of the new drafts. -/
theorem exists_updateAll (headers : List Text) (commands : List Command) :
    let b := ((new headers).run commands).1
    ∀ id, b.has id = true → ∃ front d back, b.drafts = front ++ d :: back ∧ d.id = id ∧
      ∀ target : Draft, target.refusal? = none → ∃ edits b',
        (∀ edit ∈ edits, ∀ logic, edit ≠ .logic logic) ∧ b.updateAll id edits = .ok b' ∧
        b'.drafts = front ++ { d with
          column := target.column, operator := target.operator, value := target.value } :: back ∧
        b'.headers = b.headers ∧ b'.nextId = b.nextId ∧
        b'.clauseText = Draft.clauseText b'.drafts := by
  intro b id live
  have sound : b.Sound := (sound_new headers).run commands
  obtain ⟨d, mem, same⟩ := List.any_eq_true.mp live
  obtain ⟨front, back, split⟩ := List.append_of_mem mem
  obtain rfl : d.id = id := of_decide_eq_true same
  refine ⟨front, d, back, split, rfl, fun target accepted => ?_⟩
  have bears := bears_route (sound.kept d mem) accepted
  obtain ⟨b', run, sound', headers', nextId, drafts⟩ := updateAll_of_split split sound bears
  refine ⟨_, b', ?_, run, drafts, headers', nextId, sound'.text⟩
  intro edit hedit logic
  rw [route] at hedit
  rintro rfl
  simp at hedit

/-- A column that cannot be set as long as the operator is the first one. -/
theorem exists_updateAll_symbol :
    let b := ((new ["A".toList]).run [.add, .add]).1
    let target : Draft := ⟨5, "a=b".toList, .like, "x".toList, .or⟩
    b.has 0 = true ∧ target.refusal? = none ∧
    (b.update 0 (.column "a=b".toList)).toOption = none ∧
    ∃ edits b', b.updateAll 0 edits = .ok b' ∧
      b'.clauseText = "WHERE a=b LIKE 'x' AND A = ''".toList := by
  intro b target
  have live : b.has 0 = true := by decide
  have accepted : target.refusal? = none := by decide
  refine ⟨live, accepted, by decide, ?_⟩
  obtain ⟨front, d, back, split, same, reach⟩ := exists_updateAll ["A".toList] [.add, .add] 0 live
  obtain ⟨edits, b', -, run, drafts, -, -, text⟩ := reach target accepted
  refine ⟨edits, b', run, ?_⟩
  -- The draft with the number 0 is the first one of two.
  have two : front ++ d :: back = [newDraft 0 "A".toList, newDraft 1 "A".toList] :=
    split.symm.trans (by decide)
  obtain ⟨rfl, rfl, rfl⟩ : front = [] ∧ d = newDraft 0 "A".toList ∧
      back = [newDraft 1 "A".toList] := by
    cases front with
    | nil => simpa using two
    | cons x front =>
        obtain ⟨-, one⟩ := List.cons.inj two
        have last : d = newDraft 1 "A".toList := by
          cases front with
          | nil => exact (List.cons.inj one).1
          | cons y front => simp at one
        rw [last] at same
        cases same
  rw [text, drafts]
  decide

end Builder

end Tabular
