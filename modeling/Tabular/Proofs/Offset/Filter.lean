import Tabular.Clause
import Tabular.Proofs.Offset.Condition
import Tabular.Proofs.Offset.Keyword

/-! # Filtering by offsets

Clauses and filters put together from the searches by offsets.  Each of them does what the
definition on characters does; in particular none of them has a fault, so the error for faults is
never returned (`reading_succeeds`). -/

namespace Tabular

open Utf8 (size)

namespace Clause

/-! ### Clauses -/

/-- The group that a part between two `AND`s says. -/
def parseGroupAt (part : Text) : Except Fault Group := do
  let alternatives ← Text.splitAtKeyword Logic.or.token part
  if 1 < alternatives.length then return .any (← alternatives.mapM Condition.readAt)
  else return .all (← Condition.readAt part)

/-- The clause that a body says. -/
def parseAt (body : Text) : Except Fault Clause := do
  (← Text.splitAtKeyword Logic.and.token body).mapM parseGroupAt

theorem parseGroupAt_eq (part : Text) : parseGroupAt part = .ok (parseGroup part) := by
  have conditions : Condition.readAt = fun t => pure (Condition.parse? t) :=
    funext Condition.readAt_eq
  rw [parseGroupAt, Text.splitAtKeyword_eq, Fault.ok_bind, conditions, List.mapM_pure, parseGroup]
  generalize cutAtKeyword Logic.or.token part = alternatives
  rcases alternatives with _ | ⟨first, _ | ⟨second, rest⟩⟩
  · rfl
  · rfl
  · rw [if_pos (by simp)]
    rfl

/-- **Reading a clause by offsets succeeds**, and gives the clause that the body says. -/
theorem parseAt_eq (body : Text) : parseAt body = .ok (parse body) := by
  have groups : parseGroupAt = fun part => pure (parseGroup part) := funext parseGroupAt_eq
  rw [parseAt, Text.splitAtKeyword_eq, Fault.ok_bind, groups, List.mapM_pure, parse]
  rfl

/-! ### Filters -/

/-- The body of a trimmed clause text: what follows the keyword and at least one white space. -/
def bodyAt? (t : Text) : Except Fault (Option Text) :=
  match Text.splitAt? (size whereToken) t with
  | none => return none
  | some (head, _) =>
    if Text.sameLetters whereToken head then do
      let rest ← t.pieceFrom (size whereToken)
      if rest.head?.any Unicode.isWhiteSpace then
        let body := Text.trimStart rest
        return if body.isEmpty then none else some body
      else return none
    else return none

/-- Why rows could not be filtered. -/
inductive FilterFailure where
  /-- The clause text is refused. -/
  | refused (e : FilterError)
  /-- Something went wrong while the rows were filtered. -/
  | internal (f : Fault)
  deriving DecidableEq, Repr

/-- The rows that pass a clause text, in their order.  Faults are caught once there is a body. -/
def filterAt (rows : List Row) (clauseText : Text) :
    Except Fault (Except FilterFailure (List Row)) := do
  let t := Text.trim clauseText
  if t.isEmpty then return .ok rows
  else
    match ← bodyAt? t with
    | none => return .error (.refused .missingWhere)
    | some body =>
      let kept := do return rows.filter (holds (← parseAt body))
      return kept.mapError .internal

theorem bodyAt?_eq (t : Text) : bodyAt? t = .ok (body? t) := by
  rw [bodyAt?, body?, Text.afterLetters?_eq_splitAt?]
  cases cut : Text.splitAt? (size whereToken) t with
  | none => rfl
  | some places =>
      obtain ⟨head, rest⟩ := places
      obtain ⟨rfl, long⟩ := Text.eq_of_splitAt? _ _ cut
      dsimp only
      rw [Option.bind_some]
      by_cases same : Text.sameLetters whereToken head = true
      · have blank : (Text.trimStart rest).isEmpty = Text.isBlank rest := by
          rw [Bool.eq_iff_iff, List.isEmpty_iff, Text.trimStart_eq_nil_iff]
        rw [if_pos same, if_pos same, ← long, Text.pieceFrom_append, Fault.ok_bind]
        dsimp only
        rw [blank]
        cases rest.head?.any Unicode.isWhiteSpace <;> cases Text.isBlank rest <;> rfl
      · rw [if_neg same, if_neg same]
        rfl

theorem filterAt_eq (rows : List Row) (t : Text) :
    filterAt rows t = .ok ((filter rows t).mapError .refused) := by
  have blank : (Text.trim t).isEmpty = Text.isBlank t := by
    rw [Bool.eq_iff_iff, List.isEmpty_iff, Text.trim_eq_nil_iff]
  rw [filterAt, filter, selects, blank]
  cases Text.isBlank t with
  | true =>
      have every : rows.filter (fun _ => true) = rows := List.filter_true rows
      rw [if_pos rfl, if_pos rfl, Except.map, every]
      rfl
  | false =>
      rw [bodyAt?_eq, Fault.ok_bind]
      cases body? (Text.trim t) with
      | none => rfl
      | some body =>
          dsimp only
          rw [parseAt_eq]
          rfl

/-- **Reading succeeds.**  For all rows and every clause text the filter by offsets does not end in
a fault and does not return the error for one: it gives the rows that pass or refuses the text.
Every body and every fragment is read without a fault.  So is every text cut at a keyword; at any
two places of the text a turn of the scan succeeds, and if the scan goes on it does so at two places
of the text and looks for the next gap later. -/
theorem reading_succeeds :
    (∀ rows t, filterAt rows t = .ok ((filter rows t).mapError .refused) ∧
      ∀ fault, filterAt rows t ≠ .ok (.error (.internal fault))) ∧
    (∀ body, parseAt body = .ok (parse body)) ∧
    (∀ fragment, Condition.readAt fragment = .ok (Condition.parse? fragment)) ∧
    ∀ (l : Logic) (t : Text), Text.splitAtKeyword l.token t = .ok (cutAtKeyword l.token t) ∧
      ∀ p : Scan.Places t, ∃ result, Scan.turn l.token t p.scan = .ok result ∧
        ∀ s ∈ result.scan?, ∃ q : Scan.Places t, s = q.scan ∧ p.scan.next < q.scan.next := by
  refine ⟨fun rows t => ⟨filterAt_eq rows t, fun fault => ?_⟩, parseAt_eq, Condition.readAt_eq,
    fun l t => ⟨Text.splitAtKeyword_eq l t, Scan.exists_turn l.token_solid⟩⟩
  rw [filterAt_eq]
  cases filter rows t <;> simp [Except.mapError]

end Clause

end Tabular
