import Mathlib.Order.Defs.Unbundled
import Tabular.Failure

/-! # Running jobs

A job is run like the action that it is; its run is put together from the runs of its parts
(`runOn_bind`).

What a job may do is told from the requests that it may make, whatever it is answered (`Job.Keeps`).
If each of these keeps a relation between workspaces, so does every way in which the job can go
(`Action.Keeps.reaches`).  A job that only looks goes one way (`Looks.runOn`), and what is done behind
it is done as if there were no look (`Looks.settle_bind_ok`). -/

namespace Tabular

/-! ### Results that may be errors -/

section results

variable {α β ε : Type}

theorem except_bind_eq_ok {x : Except ε α} {f : α → Except ε β} {b : β} :
    (x >>= f) = .ok b ↔ ∃ a, x = .ok a ∧ f a = .ok b := by
  cases x with
  | ok a =>
      constructor
      · exact fun h => ⟨a, rfl, h⟩
      · rintro ⟨a', e, h⟩
        cases e
        exact h
  | error e =>
      constructor
      · intro h
        cases h
      · rintro ⟨a, e', -⟩
        cases e'

theorem except_map_eq_ok {f : α → β} {x : Except ε α} {b : β} :
    f <$> x = .ok b ↔ ∃ a, x = .ok a ∧ f a = b := by
  cases x with
  | ok a =>
      constructor
      · intro h
        cases h
        exact ⟨a, rfl, rfl⟩
      · rintro ⟨a', e, rfl⟩
        cases e
        rfl
  | error e =>
      constructor
      · intro h
        cases h
      · rintro ⟨a, e', -⟩
        cases e'

theorem except_mapError_eq_ok {ε' : Type} {x : Except ε α} {f : ε → ε'} {a : α} :
    x.mapError f = .ok a ↔ x = .ok a := by
  constructor
  · intro h
    cases x with
    | ok a' =>
        cases h
        rfl
    | error e => cases h
  · rintro rfl
    rfl

theorem exists_of_toOption_map {f : α → β} {x : Except ε α} {b : β}
    (h : x.toOption.map f = some b) : ∃ a, x = .ok a ∧ f a = b := by
  obtain ⟨a, ha, e⟩ := Option.map_eq_some_iff.mp h
  cases x with
  | ok a' =>
      cases ha
      exact ⟨a, rfl, e⟩
  | error e' => cases ha

end results

/-! ### What an action may do -/

namespace Action

variable {α β : Type}

/-- Whether an action, whatever it is answered, makes requests of a kind alone and has results of a
kind alone. -/
def Keeps (asks : Request → Prop) (ends : α → Prop) : Action α → Prop
  | .done a => ends a
  | .ask r next => asks r ∧ ∀ answer, (next answer).Keeps asks ends

/-- What is left of an action when a workspace has answered the looks that come first. -/
def settle : Action α → Workspace → Action α
  | .done a, _ => .done a
  | .ask r next, w => if r.looks then (next (w.answer r).1).settle w else .ask r next

variable {asks : Request → Prop} {ends : α → Prop} {x : Action α} {w w' : Workspace} {a : α}

theorem Keeps.bind {f : α → Action β} {ends' : β → Prop} (h : x.Keeps asks ends)
    (h' : ∀ a, ends a → (f a).Keeps asks ends') : (x >>= f).Keeps asks ends' := by
  change (x.bind f).Keeps asks ends'
  induction x with
  | done a => exact h' a h
  | ask r next ih => exact ⟨h.1, fun answer => ih answer (h.2 answer)⟩

/-- Where all the requests that are made lead, there an action goes. -/
theorem Keeps.reaches {R : Workspace → Workspace → Prop} [IsPreorder Workspace R]
    (step : ∀ r, asks r → ∀ w (answer : r.Answer) w', w.Answers r answer w' → R w w')
    (h : x.Keeps asks ends) (goes : x.Goes w a w') : R w w' := by
  induction goes with
  | done a w => exact refl_of R w
  | ask answers _ ih => exact trans_of R (step _ h.1 _ _ _ answers) (ih (h.2 _))

theorem Keeps.of_goes (h : x.Keeps asks ends) (goes : x.Goes w a w') : ends a := by
  induction goes with
  | done a w => exact h
  | ask _ _ ih => exact ih (h.2 _)

theorem Goes.bind {f : α → Action β} {w'' : Workspace} {b : β} (h : x.Goes w a w')
    (h' : (f a).Goes w' b w'') : (x >>= f).Goes w b w'' := by
  change (x.bind f).Goes w b w''
  induction h with
  | done a w => exact h'
  | ask answers _ ih => exact .ask answers (ih h')

theorem goes_settle : (x.settle w).Goes w a w' ↔ x.Goes w a w' := by
  induction x with
  | done b => rfl
  | ask r next ih =>
      rw [settle]
      split
      · rename_i looks
        rw [ih]
        constructor
        · intro goes
          have usual := Workspace.Answers.usual (w := w) r
          rw [Workspace.answer_of_looks looks] at usual
          exact .ask usual goes
        · rintro (_ | ⟨answers, rest⟩)
          obtain ⟨rfl, rfl⟩ := answers.of_looks looks
          exact rest
      · rfl

theorem run_settle (x : Action α) (w : Workspace) : (x.settle w).run w = x.run w := by
  induction x with
  | done b => rfl
  | ask r next ih =>
      rw [settle]
      split
      · rename_i looks
        rw [ih, run, Workspace.answer_of_looks looks]
      · rfl

theorem Keeps.run_of_looks (h : x.Keeps (·.looks = true) ends) (w : Workspace) :
    (x.run w).2 = w := by
  induction x with
  | done b => rfl
  | ask r next ih =>
      rw [run, Workspace.answer_of_looks h.1]
      exact ih _ (h.2 _)

theorem Keeps.settle_bind (h : x.Keeps (·.looks = true) ends) (f : α → Action β) (w : Workspace) :
    (x >>= f).settle w = (f (x.run w).1).settle w := by
  change (x.bind f).settle w = _
  induction x with
  | done b => rfl
  | ask r next ih =>
      rw [Action.bind, settle, if_pos h.1, run, Workspace.answer_of_looks h.1]
      exact ih _ (h.2 _)

end Action

/-! ### Jobs -/

namespace Job

variable {α β : Type}

/-- The result of a job, or its failure, and the workspace after it. -/
def runOn (job : Job α) (w : Workspace) : Except Failure α × Workspace :=
  Action.run (ExceptT.run job) w

/-- The ways in which a job can go: its result or its failure, and the workspace after it. -/
def Goes (job : Job α) (w : Workspace) (result : Except Failure α) (after : Workspace) : Prop :=
  Action.Goes (ExceptT.run job) w result after

/-- What is left of a job when a workspace has answered the looks that come first. -/
def settle (job : Job α) (w : Workspace) : Action (Except Failure α) :=
  Action.settle (ExceptT.run job) w

variable {w w' : Workspace}

theorem goes_runOn (job : Job α) (w : Workspace) : job.Goes w (job.runOn w).1 (job.runOn w).2 :=
  Action.goes_run _ w

theorem Goes.bind {job : Job α} {f : α → Job β} {a : α} {result : Except Failure β}
    {w'' : Workspace} (h : job.Goes w (.ok a) w') (h' : (f a).Goes w' result w'') :
    (job >>= f).Goes w result w'' :=
  Action.Goes.bind h h'

theorem Goes.bind_error {job : Job α} {e : Failure} (h : job.Goes w (.error e) w')
    (f : α → Job β) : (job >>= f).Goes w (.error e) w' :=
  Action.Goes.bind h (.done _ w')

theorem Goes.within_error {job : Job α} {e : Failure} (h : job.Goes w (.error e) w')
    (context : String) : (Job.within context job).Goes w (.error (e.within context)) w' :=
  Action.Goes.bind h (.done _ w')

@[simp] theorem runOn_request (r : Request) (w : Workspace) :
    (Job.request r).runOn w = (.ok (w.answer r).1, (w.answer r).2) := rfl

@[simp] theorem runOn_ofIo (x : Except IoError α) (w : Workspace) :
    (Job.ofIo x).runOn w = (x.mapError fun e => .of (.io e), w) := by
  cases x <;> rfl

@[simp] theorem runOn_ofExcept (x : Except Failure α) (w : Workspace) :
    (Job.ofExcept x).runOn w = (x, w) := by
  cases x <;> rfl

/-- After a part that has failed nothing is done any more. -/
theorem runOn_bind (job : Job α) (f : α → Job β) (w : Workspace) :
    (job >>= f).runOn w =
      match job.runOn w with
      | (.ok a, w') => (f a).runOn w'
      | (.error e, w') => (.error e, w') := by
  change Action.run (ExceptT.run job >>= ExceptT.bindCont f) w = _
  rw [Action.run_bind]
  cases h : job.runOn w with
  | mk result after =>
      change Action.run (ExceptT.run job) w = _ at h
      rw [h]
      cases result with
      | ok a => rfl
      | error e => rfl

theorem runOn_bind_ok {job : Job α} {a : α} (h : job.runOn w = (.ok a, w')) (f : α → Job β) :
    (job >>= f).runOn w = (f a).runOn w' := by
  rw [runOn_bind, h]

theorem runOn_bind_error {job : Job α} {e : Failure} (h : job.runOn w = (.error e, w'))
    (f : α → Job β) : (job >>= f).runOn w = (.error e, w') := by
  rw [runOn_bind, h]

theorem exists_of_runOn_bind {job : Job α} {f : α → Job β} {b : β}
    (h : (job >>= f).runOn w = (.ok b, w')) :
    ∃ a w₁, job.runOn w = (.ok a, w₁) ∧ (f a).runOn w₁ = (.ok b, w') := by
  rw [runOn_bind] at h
  cases run : job.runOn w with
  | mk result w₁ =>
      rw [run] at h
      cases result with
      | ok a => exact ⟨a, w₁, rfl, h⟩
      | error e => cases h

theorem runOn_within (context : String) (job : Job α) (w : Workspace) :
    (Job.within context job).runOn w =
      ((job.runOn w).1.mapError (Failure.within context), (job.runOn w).2) := by
  change Action.run (ExceptT.run job >>= fun x => pure (x.mapError (Failure.within context))) w = _
  rw [Action.run_bind]
  rfl

theorem runOn_within_ok {context : String} {job : Job α} {a : α}
    (h : job.runOn w = (.ok a, w')) : (Job.within context job).runOn w = (.ok a, w') := by
  rw [runOn_within, h]
  rfl

theorem runOn_within_error {context : String} {job : Job α} {f : Failure}
    (h : job.runOn w = (.error f, w')) :
    (Job.within context job).runOn w = (.error (f.within context), w') := by
  rw [runOn_within, h]
  rfl

/-! ### What a job may do -/

/-- Whether a result is of a kind, or else the cause of a failure is. -/
def Ends (kind : Cause → Prop) (ends : α → Prop) : Except Failure α → Prop
  | .ok a => ends a
  | .error f => kind f.cause

/-- Whether a job, whatever it is answered, makes requests of a kind alone, fails only for causes of
a kind and has results of a kind alone. -/
def Keeps (asks : Request → Prop) (kind : Cause → Prop) (ends : α → Prop) (job : Job α) : Prop :=
  Action.Keeps asks (Ends kind ends) (ExceptT.run job)

/-- Whether a job only looks at the workspace, and fails only for causes of a kind. -/
abbrev Looks (kind : Cause → Prop) (job : Job α) : Prop :=
  job.Keeps (·.looks = true) kind fun _ => True

section keeps

variable {asks : Request → Prop} {kind : Cause → Prop} {ends : α → Prop} {job : Job α}

theorem Keeps.reaches {R : Workspace → Workspace → Prop} [IsPreorder Workspace R]
    {result : Except Failure α}
    (step : ∀ r, asks r → ∀ w (answer : r.Answer) w', w.Answers r answer w' → R w w')
    (h : job.Keeps asks kind ends) (goes : job.Goes w result w') : R w w' :=
  Action.Keeps.reaches step h goes

theorem Keeps.fails {f : Failure} (h : job.Keeps asks kind ends) (goes : job.Goes w (.error f) w') :
    kind f.cause := by
  have ended : Ends kind ends (.error f) := Action.Keeps.of_goes h goes
  exact ended

theorem keeps_pure {a : α} (h : ends a) : (pure a : Job α).Keeps asks kind ends :=
  h

theorem keeps_fail {f : Failure} (h : kind f.cause) : (Job.fail f : Job α).Keeps asks kind ends :=
  h

theorem keeps_request {r : Request} (h : asks r) :
    (Job.request r).Keeps asks kind fun _ => True :=
  ⟨h, fun _ => trivial⟩

theorem keeps_ofExcept {x : Except Failure α} (h : ∀ f, x = .error f → kind f.cause) :
    (Job.ofExcept x).Keeps asks kind fun _ => True := by
  cases x with
  | ok a => exact keeps_pure trivial
  | error f => exact keeps_fail (h f rfl)

theorem keeps_ofIo (x : Except IoError α) (h : ∀ e, kind (.io e)) :
    (Job.ofIo x).Keeps asks kind fun _ => True := by
  cases x with
  | ok a => exact keeps_pure trivial
  | error e => exact keeps_fail (h e)

theorem Keeps.bind {f : α → Job β} {ends' : β → Prop} (h : job.Keeps asks kind ends)
    (h' : ∀ a, ends a → (f a).Keeps asks kind ends') : (job >>= f).Keeps asks kind ends' := by
  refine Action.Keeps.bind h fun result ended => ?_
  cases result with
  | ok a => exact h' a ended
  | error e => exact ended

theorem Keeps.within (h : job.Keeps asks kind ends) (context : String) :
    (Job.within context job).Keeps asks kind ends := by
  refine Action.Keeps.bind h fun result ended => ?_
  cases result with
  | ok a => exact ended
  | error e => exact ended

/-! ### Looking -/

variable {f : α → Job β}

theorem Looks.bind (h : job.Looks kind) (h' : ∀ a, (f a).Looks kind) : (job >>= f).Looks kind :=
  Keeps.bind h fun a _ => h' a

theorem Looks.runOn (h : job.Looks kind) (w : Workspace) :
    job.runOn w = ((job.runOn w).1, w) :=
  Prod.ext rfl (Action.Keeps.run_of_looks h w)

theorem Looks.fails (h : job.Looks kind) {f : Failure} (failed : (job.runOn w).1 = .error f) :
    kind f.cause :=
  Keeps.fails h (failed ▸ goes_runOn job w)

theorem Looks.settle_bind_ok (h : job.Looks kind) {a : α} (run : (job.runOn w).1 = .ok a) :
    (job >>= f).settle w = (f a).settle w := by
  have e := Action.Keeps.settle_bind h (ExceptT.bindCont f) w
  rw [show (Action.run (ExceptT.run job) w).1 = .ok a from run] at e
  exact e

theorem Looks.settle_bind_error (h : job.Looks kind) {e : Failure}
    (run : (job.runOn w).1 = .error e) : (job >>= f).settle w = (Job.fail e : Job β).settle w := by
  have e' := Action.Keeps.settle_bind h (ExceptT.bindCont f) w
  rw [show (Action.run (ExceptT.run job) w).1 = .error e from run] at e'
  exact e'

theorem goes_iff_of_settle {job' : Job α} (e : job.settle w = job'.settle w)
    {result : Except Failure α} : job.Goes w result w' ↔ job'.Goes w result w' := by
  rw [Goes, Goes, ← Action.goes_settle, ← Action.goes_settle (x := ExceptT.run job')]
  exact iff_of_eq (congrArg (Action.Goes · w result w') e)

theorem runOn_eq_of_settle {job' : Job α} (e : job.settle w = job'.settle w) :
    job.runOn w = job'.runOn w := by
  rw [Job.runOn, Job.runOn, ← Action.run_settle, ← Action.run_settle (ExceptT.run job')]
  exact congrArg (Action.run · w) e

end keeps

end Job

end Tabular
