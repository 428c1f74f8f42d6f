import Mathlib.Data.List.Forall2
import Tabular.Dataset
import Tabular.Proofs.Clause.Composition
import Tabular.Proofs.Csv.Sheet

/-! # What a view shows

A view has the rows of its dataset that pass the clause text and in which the search term is found;
both are a property of a row alone (`view_eq`), so that it does not matter which is asked first.
Only the clause text can be refused, and it is refused for every dataset or for none
(`Clause.selects_eq_error_iff`).  Of a row that was read, the search asks whether some column is
`LIKE` the term (`isFound_iff`). -/

namespace Tabular

variable {clause body t : Text} {term : Option Text} {row : Row} {d : Dataset}

/-! ### Clause texts -/

namespace Clause

/-- What a body is of a clause text: without white space around it, the text is the keyword in any
letter case, then white space, and then the body, which is not blank. -/
def HasBody (t body : Text) : Prop :=
  ∃ word gap, Text.sameLetters whereToken word = true ∧ gap ≠ [] ∧ Text.isBlank gap = true ∧
    Text.frontSolid body = true ∧ Text.trim t = word ++ (gap ++ body)

/-- Whether a row passes a clause text: the text is blank, or its body holds of the row. -/
def Passes (t : Text) (row : Row) : Prop :=
  Text.trim t = [] ∨ ∃ body, HasBody t body ∧ holds (parse body) row = true

theorem body?_trim_eq_some_iff : body? (Text.trim t) = some body ↔ HasBody t body :=
  body?_eq_some_iff

theorem selects_eq_error_iff {e : FilterError} :
    selects t = .error e ↔ Text.trim t ≠ [] ∧ ∀ body, ¬ HasBody t body := by
  rw [selects, Ne, Text.trim_eq_nil_iff]
  simp only [← body?_trim_eq_some_iff]
  cases Text.isBlank t with
  | true => simp
  | false => cases body? (Text.trim t) <;> simp

theorem passes_iff_of_selects {keeps : Row → Bool} (h : selects t = .ok keeps) (row : Row) :
    keeps row = true ↔ Passes t row := by
  rw [selects] at h
  rw [Passes, Text.trim_eq_nil_iff]
  simp only [← body?_trim_eq_some_iff]
  cases blank : Text.isBlank t with
  | true =>
      rw [blank] at h
      cases h
      simp
  | false =>
      rw [blank] at h
      cases found : body? (Text.trim t) with
      | none =>
          rw [found] at h
          cases h
      | some body =>
          rw [found] at h
          cases h
          simp

end Clause

/-! ### Search terms -/

namespace Row

/-- Whether the search term, if there is one, is found in a row. -/
def isFound (term : Option Text) (row : Row) : Bool :=
  term.all fun t => Text.isBlank t || row.matchesTerm t

/-- A term is in some cell of a row exactly if some column of it is `LIKE` the term. -/
theorem matchesTerm_iff : row.matchesTerm t = true ↔
    ∃ h ∈ row.columns, (⟨h, .like, Text.trim t⟩ : Condition).holds row = true := by
  rw [matchesTerm, List.any_eq_true]
  constructor
  · rintro ⟨⟨h, v⟩, mem, mentioned⟩
    have found := mem_cells_iff.mp mem
    refine ⟨h, List.mem_map_of_mem mem, ?_⟩
    rw [Condition.holds, found]
    exact mentioned
  · rintro ⟨h, mem, holds⟩
    obtain ⟨v, found⟩ := Option.isSome_iff_exists.mp (mem_columns_iff.mp mem)
    rw [Condition.holds, found] at holds
    exact ⟨(h, v), mem_cells_iff.mpr found, holds⟩

end Row

theorem search_eq (rows : List Row) :
    term.elim rows (search rows) = rows.filter (Row.isFound term) := by
  cases term with
  | none => exact (List.filter_true rows).symm
  | some t =>
      change search rows t = rows.filter fun row => Text.isBlank t || row.matchesTerm t
      rw [search]
      cases Text.isBlank t with
      | true => exact (List.filter_true rows).symm
      | false => rfl

namespace Dataset

/-- A dataset of a sheet that was read. -/
def IsLoaded (d : Dataset) : Prop :=
  ∃ bytes sheet, Csv.readSheet bytes = .ok sheet ∧ d = .ofSheet d.key d.info sheet

theorem isLoaded_of_isSome {bytes : Bytes} (key : Text) (info : Info)
    (accepted : (Csv.readSheet bytes).toOption.isSome = true) :
    (ofSheet key info ((Csv.readSheet bytes).toOption.getD ⟨[], []⟩)).IsLoaded := by
  refine ⟨bytes, _, ?_, rfl⟩
  cases found : Csv.readSheet bytes with
  | error e =>
      rw [found] at accepted
      cases accepted
  | ok sheet => rfl

theorem IsLoaded.mem_columns_iff (loaded : d.IsLoaded) (mem : row ∈ d.rows) {h : Text} :
    h ∈ row.columns ↔ h ∈ d.headers := by
  obtain ⟨bytes, sheet, read, e⟩ := loaded
  rw [e] at mem ⊢
  exact ((Csv.rows_of_readSheet read).2 row mem).mem_columns_iff

/-- Whether a row of a dataset is to be shown: it passes the clause text, and the term is absent,
blank, or some column of the dataset is `LIKE` it. -/
def Shows (d : Dataset) (clause : Text) (term : Option Text) (row : Row) : Prop :=
  Clause.Passes clause row ∧ ∀ t ∈ term, Text.trim t = [] ∨
    ∃ h ∈ d.headers, (⟨h, .like, Text.trim t⟩ : Condition).holds row = true

theorem IsLoaded.isFound_iff (loaded : d.IsLoaded) (mem : row ∈ d.rows) :
    row.isFound term = true ↔ ∀ t ∈ term, Text.trim t = [] ∨
      ∃ h ∈ d.headers, (⟨h, .like, Text.trim t⟩ : Condition).holds row = true := by
  cases term with
  | none => simp [Row.isFound]
  | some t =>
      simp [Row.isFound, Row.matchesTerm_iff, loaded.mem_columns_iff mem, Text.trim_eq_nil_iff]

/-! ### Views -/

/-- The view of a dataset if the search comes first and the clause text second. -/
def viewOfSearched (clause : Text) (term : Option Text) (d : Dataset) :
    Except FilterError View := do
  let rows ← Clause.filter (term.elim d.rows (search d.rows)) clause
  return ⟨d, rows⟩

/-- The views of several datasets if the search comes first. -/
def viewsOfSearched (clause : Text) (term : Option Text) (datasets : List Dataset) :
    Except FilterError (List View) :=
  datasets.mapM (viewOfSearched clause term)

/-- The rows of a view are those with two properties of a row alone. -/
theorem view_eq : d.view clause term = (Clause.selects clause).map fun keeps =>
    ⟨d, d.rows.filter fun row => row.isFound term && keeps row⟩ := by
  rw [view, Clause.filter]
  cases Clause.selects clause with
  | error e => rfl
  | ok keeps =>
      change Except.ok (View.mk d (term.elim _ _)) = _
      rw [search_eq, List.filter_filter]
      rfl

theorem viewOfSearched_eq : d.viewOfSearched clause term = d.view clause term := by
  rw [view_eq, viewOfSearched, Clause.filter, search_eq]
  cases Clause.selects clause with
  | error e => rfl
  | ok keeps =>
      change Except.ok (View.mk d (List.filter keeps _)) = _
      rw [List.filter_filter]
      simp only [Bool.and_comm]
      rfl

theorem views_eq_mapM (clause : Text) (term : Option Text) (datasets : List Dataset) :
    views clause term datasets = datasets.mapM (view clause term) := by
  induction datasets with
  | nil => rfl
  | cons d datasets ih => rw [views, ih, List.mapM_cons]

theorem viewsOfSearched_eq (clause : Text) (term : Option Text) (datasets : List Dataset) :
    viewsOfSearched clause term datasets = views clause term datasets := by
  rw [viewsOfSearched, views_eq_mapM]
  exact congrArg datasets.mapM (funext fun d => viewOfSearched_eq)

/-- The first dataset meets the refusal of the clause text, if there is a dataset. -/
theorem views_of_error {e : FilterError} (refused : Clause.selects clause = .error e)
    {datasets : List Dataset} (nonempty : datasets ≠ []) :
    views clause term datasets = .error e := by
  obtain ⟨d, datasets, rfl⟩ := List.exists_cons_of_ne_nil nonempty
  rw [views, view_eq, refused]
  rfl

theorem views_of_ok {keeps : Row → Bool} (selected : Clause.selects clause = .ok keeps)
    (datasets : List Dataset) :
    views clause term datasets = .ok (datasets.map fun d =>
      ⟨d, d.rows.filter fun row => row.isFound term && keeps row⟩) := by
  have each : view clause term = fun d =>
      pure ⟨d, d.rows.filter fun row => row.isFound term && keeps row⟩ := by
    funext d
    rw [view_eq, selected]
    rfl
  rw [views_eq_mapM, each, List.mapM_pure]
  rfl

/-- **What is shown.**  Of datasets that were read, of which there is at least one, this is true
for every clause text and every term.  The only error is that the text is refused, and it is so
exactly if it is not blank and is not the keyword in front of white space and a body.  Otherwise
there is one view of each dataset, in their order, with the rows of the dataset that are to be
shown, in their order.  It does not matter whether the search or the clause text comes first. -/
theorem views_of_loaded {datasets : List Dataset} (nonempty : datasets ≠ [])
    (loaded : ∀ d ∈ datasets, d.IsLoaded) (clause : Text) (term : Option Text) :
    (views clause term datasets = .error .missingWhere ↔
      Text.trim clause ≠ [] ∧ ∀ body, ¬ Clause.HasBody clause body) ∧
    (views clause term datasets ≠ .error .missingWhere →
      ∃ vs, views clause term datasets = .ok vs ∧
        List.Forall₂ (fun d v => v.dataset = d ∧ ∃ shown : Row → Bool,
          (∀ row ∈ d.rows, shown row = true ↔ d.Shows clause term row) ∧
            v.rows = d.rows.filter shown) datasets vs) ∧
    viewsOfSearched clause term datasets = views clause term datasets := by
  refine ⟨?_, ?_, viewsOfSearched_eq clause term datasets⟩
  · rw [← Clause.selects_eq_error_iff (e := .missingWhere)]
    cases selected : Clause.selects clause with
    | error e => simp [views_of_error selected nonempty]
    | ok keeps => simp [views_of_ok selected]
  · intro accepted
    cases selected : Clause.selects clause with
    | error e => exact absurd (views_of_error selected nonempty) accepted
    | ok keeps =>
        refine ⟨_, views_of_ok selected datasets, ?_⟩
        rw [List.forall₂_map_right_iff, List.forall₂_same]
        refine fun d hd => ⟨rfl, _, fun row mem => ?_, rfl⟩
        rw [Bool.and_eq_true, (loaded d hd).isFound_iff mem,
          Clause.passes_iff_of_selects selected, Shows, and_comm]

/-- The keyword in small letters and wide white space, letters of more than one byte, and a dataset
without rows. -/
theorem views_of_loaded_two :
    let read (t : String) : Csv.Sheet :=
      (Csv.readSheet (Utf8.encode t.toList)).toOption.getD ⟨[], []⟩
    let info : Info := ⟨[], none, none, none⟩
    let datasets : List Dataset :=
      [.ofSheet "a".toList info (read "Name,Note\nRené,x\nBob,é\nEve,y\n"),
        .ofSheet "b".toList info (read "Name\n")]
    let clause := "\twhere\u2003Name != 'Bob' ".toList
    let term := some " É".toList
    datasets ≠ [] ∧ (∀ d ∈ datasets, d.IsLoaded) ∧
      (∃ vs, views clause term datasets = .ok vs ∧
        vs.map (fun v => v.rows.map Row.cells) =
          [[[("Name".toList, "René".toList), ("Note".toList, "x".toList)]], []] ∧
        List.Forall₂ (fun d v => v.dataset = d ∧ ∃ shown : Row → Bool,
          (∀ row ∈ d.rows, shown row = true ↔ d.Shows clause term row) ∧
            v.rows = d.rows.filter shown) datasets vs) ∧
      viewsOfSearched clause term datasets = views clause term datasets ∧
      views "wheré Name".toList term datasets = .error .missingWhere := by
  intro read info datasets clause term
  have nonempty : datasets ≠ [] := List.cons_ne_nil _ _
  have loaded : ∀ d ∈ datasets, d.IsLoaded := by
    have each : ∀ (key t : Text), (Csv.readSheet (Utf8.encode t)).toOption.isSome = true →
        (ofSheet key info ((Csv.readSheet (Utf8.encode t)).toOption.getD ⟨[], []⟩)).IsLoaded := by
      intro key t h
      refine ⟨Utf8.encode t, _, ?_, rfl⟩
      cases found : Csv.readSheet (Utf8.encode t) with
      | error e =>
          rw [found] at h
          cases h
      | ok sheet => rfl
    intro d hd
    rcases List.mem_cons.mp hd with rfl | hd
    · exact each _ _ (by decide +kernel)
    · obtain rfl := List.mem_singleton.mp hd
      exact each _ _ (by decide +kernel)
  have evaluated : (views clause term datasets).toOption.map
      (List.map fun v => v.rows.map Row.cells) =
      some [[[("Name".toList, "René".toList), ("Note".toList, "x".toList)]], []] := by
    decide +kernel
  obtain ⟨vs, shown, cells⟩ := exists_of_toOption_map evaluated
  obtain ⟨-, rows, order⟩ := views_of_loaded nonempty loaded clause term
  refine ⟨nonempty, loaded, ?_, order, ?_⟩
  · obtain ⟨vs', shown', each⟩ := rows (by rw [shown]; exact nofun)
    obtain rfl : vs = vs' := Except.ok.inj (shown.symm.trans shown')
    exact ⟨vs, shown, cells, each⟩
  · have bodiless : Clause.body? (Text.trim "wheré Name".toList) = none := by decide
    refine (views_of_loaded nonempty loaded _ term).1.mpr ⟨by decide, fun body has => ?_⟩
    rw [← Clause.body?_trim_eq_some_iff, bodiless] at has
    cases has

end Dataset

end Tabular
