import Mathlib.Data.List.Basic
import Tabular.Files
import Tabular.Proofs.Text.Words

/-! # Files that are made and added to

A file that has been made is found at its path and is empty (`holds_of_createFile`); what is added
to it stands at its end (`Holds.append`), and that is what is read (`Holds.read`).  The lookup of
the directory of a file goes through directories alone, so it does not change with what is in the
file (`walk_put`). -/

namespace Tabular

namespace FileSystem

variable {fs fs' : FileSystem} {l o d : Location} {path : Text} {c x : Bytes}

/-! ### Putting something at a location -/

theorem node?_put_self (inside : l ≠ []) (n : FileNode) : (fs.put l n).node? l = some n := by
  rw [node?, if_neg inside, put, List.lookup_cons_self]

theorem node?_put_of_ne {l' : Location} (other : l' ≠ l) (n : FileNode) :
    (fs.put l n).node? l' = fs.node? l' := by
  have others : ∀ entries : List (Location × FileNode),
      (entries.filter (·.1 ≠ l)).lookup l' = entries.lookup l' := by
    intro entries
    induction entries with
    | nil => rfl
    | cons e entries ih =>
        obtain ⟨k, m⟩ := e
        by_cases gone : k = l
        · rw [List.filter_cons_of_neg (by simpa using gone), ih, List.lookup_cons, gone,
            beq_eq_false_iff_ne.mpr other]
        · rw [List.filter_cons_of_pos (by simpa using gone), List.lookup_cons, List.lookup_cons, ih]
  rw [node?, node?, put]
  split
  · rfl
  · rw [List.lookup_cons, beq_eq_false_iff_ne.mpr other]
    exact others fs.entries

/-! ### Looking up through directories -/

/-- Whether a piece of a path leads from a directory to a location. -/
inductive Steps (fs : FileSystem) (o : Location) (piece : Text) : Location → Prop where
  | stay (idle : Path.isIdle piece = true) : Steps fs o piece o
  | up (named : Path.isIdle piece = false) (dots : piece = ['.', '.']) :
      Steps fs o piece o.dropLast
  | down {n : FileNode} (named : Path.isIdle piece = false) (plain : piece ≠ ['.', '.'])
      (short : ¬ longestName < Utf8.size piece) (found : fs.node? (o ++ [piece]) = some n) :
      Steps fs o piece (o ++ [piece])

variable {o' : Location} {piece : Text} {n : FileNode} {rest pieces : List Text}

theorem Steps.walk (step : fs.Steps o piece o') (start : fs.node? o = some .directory)
    (rest : List Text) : fs.walk o (piece :: rest) = fs.walk o' rest := by
  rw [FileSystem.walk, start]
  dsimp only
  cases step with
  | stay idle => rw [if_pos idle]
  | up named dots => rw [if_neg (by simp [named]), if_pos dots]
  | down named plain short found =>
      rw [if_neg (by simp [named]), if_neg plain, if_neg short, found]

theorem Steps.imp (step : fs.Steps o piece o')
    (there : ∀ n, fs.node? o' = some n → ∃ n', fs'.node? o' = some n') : fs'.Steps o piece o' := by
  cases step with
  | stay idle => exact .stay idle
  | up named dots => exact .up named dots
  | down named plain short found =>
      obtain ⟨n', found'⟩ := there _ found
      exact .down named plain short found'

/-- What is found behind a piece is found from where the piece leads to. -/
theorem exists_step (h : fs.walk o (piece :: rest) = .ok (.node l n)) :
    fs.node? o = some .directory ∧
      ∃ o', fs.Steps o piece o' ∧ fs.walk o' rest = .ok (.node l n) := by
  rw [walk] at h
  split at h
  · rename_i start
    refine ⟨start, ?_⟩
    split at h
    · rename_i idle
      exact ⟨o, .stay idle, h⟩
    · rename_i named
      rw [Bool.not_eq_true] at named
      split at h
      · rename_i dots
        exact ⟨_, .up named dots, h⟩
      · rename_i plain
        split at h
        · cases h
        · rename_i short
          split at h
          · rename_i found
            exact ⟨_, .down named plain short found, h⟩
          · split at h <;> cases h
  · cases h
  · cases h

theorem eq_of_walk_nil (h : fs.walk o [] = .ok (.node l n)) : o = l ∧ fs.node? l = some n := by
  rw [walk] at h
  split at h
  · rename_i found
    cases h
    exact ⟨rfl, found⟩
  · cases h

theorem node?_of_walk_eq (h : fs.walk o pieces = .ok (.node l n)) : fs.node? l = some n := by
  induction pieces generalizing o with
  | nil => exact (eq_of_walk_nil h).2
  | cons piece pieces ih =>
      obtain ⟨-, o', -, h'⟩ := exists_step h
      exact ih h'

theorem node?_of_walk (h : fs.walk o pieces = .ok (.node d .directory)) :
    fs.node? o = some .directory := by
  cases pieces with
  | nil =>
      obtain ⟨rfl, found⟩ := eq_of_walk_nil h
      exact found
  | cons piece pieces => exact (exists_step h).1

theorem walk_append {front : List Text} (h : fs.walk o front = .ok (.node d .directory))
    (rest : List Text) : fs.walk o (front ++ rest) = fs.walk d rest := by
  induction front generalizing o with
  | nil =>
      obtain ⟨rfl, -⟩ := eq_of_walk_nil h
      rfl
  | cons piece front ih =>
      obtain ⟨start, o', step, h'⟩ := exists_step h
      rw [List.cons_append, step.walk start, ih h']

/-- What is put in the place of no directory does not change the way to a directory. -/
theorem walk_put (keep : fs.node? l ≠ some .directory)
    (h : fs.walk o pieces = .ok (.node d .directory)) (n : FileNode) :
    (fs.put l n).walk o pieces = .ok (.node d .directory) := by
  have same : ∀ {o pieces}, fs.walk o pieces = .ok (.node d .directory) →
      (fs.put l n).node? o = some .directory := by
    intro o pieces h
    rw [← node?_of_walk h]
    refine node?_put_of_ne ?_ n
    rintro rfl
    exact keep (node?_of_walk h)
  induction pieces generalizing o with
  | nil =>
      rw [walk, same h, ← h, walk, node?_of_walk h]
  | cons piece pieces ih =>
      obtain ⟨-, o', step, h'⟩ := exists_step h
      rw [(step.imp fun _ _ => ⟨_, same h'⟩).walk (same h), ih h']

/-- A name that a file can have. -/
def IsName (name : Text) : Prop :=
  Path.isIdle name = false ∧ name ≠ ['.', '.'] ∧ Utf8.size name ≤ longestName

theorem walk_concat {front : List Text} {name : Text} (named : IsName name)
    (h : fs.walk o front = .ok (.node d .directory)) {n : FileNode}
    (found : fs.node? (d ++ [name]) = some n) :
    fs.walk o (front ++ [name]) = .ok (.node (d ++ [name]) n) := by
  obtain ⟨not_idle, not_up, short⟩ := named
  rw [walk_append h, walk, node?_of_walk_eq h]
  dsimp only
  rw [if_neg (by rw [not_idle]; exact Bool.false_ne_true), if_neg not_up,
    if_neg (Nat.not_lt.mpr short), found]
  dsimp only
  rw [walk, found]

/-! ### Paths of files -/

/-- Whether a path leads to a location that a file can have. -/
def Leads (fs : FileSystem) (path : Text) (l : Location) : Prop :=
  pathError? path = none ∧ ∃ front name d, Path.pieces path = front ++ [name] ∧ IsName name ∧
    fs.walk (fs.origin path) front = .ok (.node d .directory) ∧ l = d ++ [name]

theorem Leads.put (leads : fs.Leads path l) (keep : fs.node? l ≠ some .directory) (n : FileNode) :
    (fs.put l n).Leads path l := by
  obtain ⟨sound, front, name, d, pieces, named, way, e⟩ := leads
  exact ⟨sound, front, name, d, pieces, named, walk_put keep way n, e⟩

theorem Leads.ne_nil (leads : fs.Leads path l) : l ≠ [] := by
  obtain ⟨-, front, name, d, -, -, -, rfl⟩ := leads
  simp

theorem Leads.find (leads : fs.Leads path l) {n : FileNode} (found : fs.node? l = some n) :
    fs.find path = .ok (.node l n) := by
  obtain ⟨sound, front, name, d, pieces, named, way, rfl⟩ := leads
  rw [FileSystem.find, sound, pieces]
  exact walk_concat named way found

theorem pieces_of_lastName? {front : List Text} {name : Text}
    (h : lastName? path = some (front, name)) (sound : pathError? path = none)
    (plain : endsInSlash path = false) :
    Path.pieces path = front ++ [name] ∧ Path.isIdle name = false ∧ name ≠ ['.', '.'] := by
  have some_piece := Text.cutAt_ne_nil '/' path
  obtain ⟨before, last, e⟩ := (List.eq_nil_or_concat' (Path.pieces path)).resolve_left some_piece
  have last_ne : last ≠ [] := by
    rintro rfl
    have ending : (Text.cutAt '/' path).getLast? = some [] := by
      change (Path.pieces path).getLast? = _
      rw [e, List.getLast?_concat]
    rcases Text.getLast?_of_cutAt ending with rfl | slash
    · cases sound
    · rw [endsInSlash, slash] at plain
      cases plain
  have drop : (Path.pieces path).reverse.dropWhile List.isEmpty = last :: before.reverse := by
    rw [e, List.reverse_append, List.reverse_singleton, List.singleton_append,
      List.dropWhile_cons_of_neg (by simpa using last_ne)]
  rw [lastName?, drop] at h
  dsimp only at h
  split at h
  · cases h
  · rename_i not_dots
    cases h
    rw [Bool.or_eq_true, not_or, decide_eq_true_eq, decide_eq_true_eq] at not_dots
    refine ⟨by rw [e, List.reverse_reverse], ?_, not_dots.2⟩
    rw [Path.isIdle, Bool.or_eq_false_iff]
    exact ⟨by simpa using last_ne, by simpa using not_dots.1⟩

/-- Whether a path leads to a file with some content. -/
def Holds (fs : FileSystem) (path : Text) (content : Bytes) : Prop :=
  ∃ l, fs.Leads path l ∧ fs.node? l = some (.file content)

theorem holds_put (leads : fs.Leads path l) (keep : fs.node? l ≠ some .directory) (c : Bytes) :
    (fs.put l (.file c)).Holds path c :=
  ⟨l, leads.put keep _, node?_put_self leads.ne_nil _⟩

theorem exists_of_inDirectory {front : List Text} {name : Text}
    (h : fs.inDirectory o front name = .ok l) :
    ∃ d, fs.walk o front = .ok (.node d .directory) ∧ l = d ++ [name] := by
  rw [inDirectory] at h
  split at h
  · cases h
  · cases h
  · cases h
  · rename_i d way
    cases h
    exact ⟨d, way, rfl⟩

/-- A file that is made is put where its path leads, in the place of no directory. -/
theorem exists_of_createFile (h : fs.createFile path = .ok fs') :
    ∃ l, fs.Leads path l ∧ fs.node? l ≠ some .directory ∧ fs' = fs.put l (.file []) := by
  rw [createFile] at h
  split at h
  · cases h
  rename_i sound
  split at h
  · rename_i front name last
    split at h
    · cases h
    rename_i l located
    split at h
    · cases h
    rename_i plain
    split at h
    · cases h
    rename_i short
    split at h
    · cases h
    rename_i keep
    cases h
    obtain ⟨pieces, not_idle, not_up⟩ :=
      pieces_of_lastName? last sound (Bool.eq_false_iff.mpr plain)
    obtain ⟨d, way, e⟩ := exists_of_inDirectory located
    exact ⟨l, ⟨sound, front, name, d, pieces, ⟨not_idle, not_up, Nat.not_lt.mp short⟩, way, e⟩, keep,
      rfl⟩
  · split at h <;> cases h

/-- A file that has been made is empty. -/
theorem holds_of_createFile (h : fs.createFile path = .ok fs') : fs'.Holds path [] := by
  obtain ⟨l, leads, keep, rfl⟩ := exists_of_createFile h
  exact holds_put leads keep []

/-- What is added to a file stands at its end. -/
theorem Holds.append (h : fs.Holds path c) (x : Bytes) : (fs.append path x).Holds path (c ++ x) := by
  obtain ⟨l, leads, found⟩ := h
  rw [FileSystem.append, leads.find found]
  refine holds_put leads ?_ (c ++ x)
  rw [found]
  simp

theorem Holds.read (h : fs.Holds path c) : fs.read path = .ok (.ok c) := by
  obtain ⟨l, leads, found⟩ := h
  rw [FileSystem.read, leads.find found]

end FileSystem

end Tabular
