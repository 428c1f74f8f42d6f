import Mathlib.Data.List.TakeWhile
import Tabular.Proofs.Files.System

/-! # What making files and directories leaves alone

A file system grows into another one if nothing in it is gone, files are still files and directories
are still directories.  Making a file and making a directory do no more than that and change one
location each (`exists_of_createFile`, `exists_of_createDirectory`).  A path that leads to something
leads there in every file system that this one grows into (`Grows.find`).  A plain name in a
directory is a path to a child of this directory, however the path of the directory is written
(`Leads.of_join`). -/

namespace Tabular

namespace FileSystem

variable {fs fs' fs'' : FileSystem} {l o d : Location} {path : Text} {n n' : FileNode}

/-! ### Growth -/

/-- Whether a file system has grown into another one. -/
structure Grows (fs fs' : FileSystem) : Prop where
  current : fs'.current = fs.current
  file : ∀ {l c}, fs.node? l = some (.file c) → ∃ c', fs'.node? l = some (.file c')
  directory : ∀ {l}, fs.node? l = some .directory → fs'.node? l = some .directory

theorem Grows.refl (fs : FileSystem) : fs.Grows fs :=
  ⟨rfl, fun h => ⟨_, h⟩, id⟩

theorem Grows.trans (h : fs.Grows fs') (h' : fs'.Grows fs'') : fs.Grows fs'' where
  current := h'.current.trans h.current
  file found := by
    obtain ⟨_, found'⟩ := h.file found
    exact h'.file found'
  directory found := h'.directory (h.directory found)

theorem Grows.node? (h : fs.Grows fs') (found : fs.node? l = some n) :
    ∃ n', fs'.node? l = some n' := by
  cases n with
  | file c =>
      obtain ⟨c', found'⟩ := h.file found
      exact ⟨_, found'⟩
  | directory => exact ⟨_, h.directory found⟩

theorem put_put (fs : FileSystem) (l : Location) (n n' : FileNode) :
    (fs.put l n).put l n' = fs.put l n' := by
  simp [put, List.filter_filter]

theorem ne_nil_of_node? (keep : fs.node? l ≠ some .directory) : l ≠ [] := by
  rintro rfl
  exact keep rfl

theorem mem_entries_of_node? {c : Bytes} (found : fs.node? l = some (.file c)) :
    (l, .file c) ∈ fs.entries := by
  rw [FileSystem.node?] at found
  split at found
  · cases found
  · obtain ⟨before, after, e, -⟩ := List.lookup_eq_some_iff.mp found
    rw [e]
    simp

theorem grows_put_file (keep : fs.node? l ≠ some .directory) (c : Bytes) :
    fs.Grows (fs.put l (.file c)) where
  current := rfl
  file {l' c'} found := by
    by_cases same : l' = l
    · rw [same]
      exact ⟨c, node?_put_self (ne_nil_of_node? keep) _⟩
    · exact ⟨c', by rw [node?_put_of_ne same, found]⟩
  directory {l'} found := by
    rw [node?_put_of_ne _ _, found]
    rintro rfl
    exact keep found

theorem grows_put_directory (free : fs.node? l = none) : fs.Grows (fs.put l .directory) where
  current := rfl
  file {l' c'} found := by
    refine ⟨c', ?_⟩
    rw [node?_put_of_ne _ _, found]
    rintro rfl
    rw [free] at found
    cases found
  directory {l'} found := by
    rw [node?_put_of_ne _ _, found]
    rintro rfl
    rw [free] at found
    cases found

/-! ### Looking up a path again -/

theorem Grows.walk (grows : fs.Grows fs') {pieces : List Text}
    (h : fs.walk o pieces = .ok (.node l n)) (now : fs'.node? l = some n') :
    fs'.walk o pieces = .ok (.node l n') := by
  induction pieces generalizing o with
  | nil =>
      obtain ⟨rfl, -⟩ := eq_of_walk_nil h
      rw [FileSystem.walk, now]
  | cons piece pieces ih =>
      obtain ⟨start, o', step, h'⟩ := exists_step h
      rw [(step.imp fun _ => grows.node?).walk (grows.directory start)]
      exact ih h'

theorem Grows.origin (grows : fs.Grows fs') (path : Text) : fs'.origin path = fs.origin path := by
  rw [FileSystem.origin, FileSystem.origin, grows.current]

theorem Grows.find (grows : fs.Grows fs') (h : fs.find path = .ok (.node l n))
    (now : fs'.node? l = some n') : fs'.find path = .ok (.node l n') := by
  rw [FileSystem.find] at h ⊢
  split at h
  · cases h
  · rw [grows.origin path]
    exact grows.walk h now

theorem node?_of_find (h : fs.find path = .ok (.node l n)) : fs.node? l = some n := by
  rw [FileSystem.find] at h
  split at h
  · cases h
  · exact node?_of_walk_eq h

theorem walk_of_isEmpty (h : fs.node? d = some .directory) {pieces : List Text}
    (empty : ∀ piece ∈ pieces, piece = []) : fs.walk d pieces = .ok (.node d .directory) := by
  induction pieces with
  | nil => rw [walk, h]
  | cons piece pieces ih =>
      obtain ⟨rfl, others⟩ := List.forall_mem_cons.mp empty
      rw [walk, h]
      exact ih others

/-! ### Making files and directories -/

theorem Leads.grows (grows : fs.Grows fs') (leads : fs.Leads path l) : fs'.Leads path l := by
  obtain ⟨sound, front, name, d, pieces, named, way, e⟩ := leads
  have directory := grows.directory (node?_of_walk_eq way)
  refine ⟨sound, front, name, d, pieces, named, ?_, e⟩
  rw [grows.origin path]
  exact grows.walk way directory

theorem exists_of_lastName? {front : List Text} {name : Text}
    (h : lastName? path = some (front, name)) :
    ∃ rest, Path.pieces path = front ++ name :: rest ∧ (∀ piece ∈ rest, piece = []) ∧
      Path.isIdle name = false ∧ name ≠ ['.', '.'] := by
  have whole : (Path.pieces path).reverse.takeWhile List.isEmpty ++
      (Path.pieces path).reverse.dropWhile List.isEmpty = (Path.pieces path).reverse :=
    List.takeWhile_append_dropWhile
  have empty : ∀ piece ∈ (Path.pieces path).reverse.takeWhile List.isEmpty, piece = [] :=
    fun piece mem => by simpa using List.mem_takeWhile_imp mem
  generalize (Path.pieces path).reverse.takeWhile List.isEmpty = behind at whole empty
  rw [lastName?] at h
  split at h
  · rename_i last before e
    split at h
    · cases h
    · rename_i not_dots
      cases h
      rw [e] at whole
      have pieces := congrArg List.reverse whole
      rw [List.reverse_reverse, List.reverse_append, List.reverse_cons] at pieces
      have named : name.isEmpty = false := by
        have head := List.head?_dropWhile_not List.isEmpty (Path.pieces path).reverse
        rw [e] at head
        simpa using head
      rw [Bool.or_eq_true, not_or, decide_eq_true_eq, decide_eq_true_eq] at not_dots
      refine ⟨behind.reverse, ?_, fun piece mem => empty piece (List.mem_reverse.mp mem), ?_,
        not_dots.2⟩
      · rw [← pieces, List.append_assoc, List.singleton_append]
      · rw [Path.isIdle, Bool.or_eq_false_iff]
        exact ⟨named, by simpa using not_dots.1⟩
  · cases h

/-- A directory that is made is put where there was nothing, and its path leads there. -/
theorem exists_of_createDirectory (h : fs.createDirectory path = .ok fs') :
    ∃ l, fs.node? l = none ∧ fs' = fs.put l .directory ∧
      fs'.find path = .ok (.node l .directory) := by
  rw [createDirectory] at h
  split at h
  · cases h
  rename_i sound
  split at h
  · rename_i front name last
    split at h
    · cases h
    rename_i l located
    split at h
    · cases h
    rename_i short
    split at h
    · cases h
    rename_i free
    cases h
    rw [Option.not_isSome_iff_eq_none] at free
    obtain ⟨rest, pieces, empty, not_idle, not_up⟩ := exists_of_lastName? last
    obtain ⟨d, way, rfl⟩ := exists_of_inDirectory located
    refine ⟨d ++ [name], free, rfl, ?_⟩
    have grows := grows_put_directory free
    have found : (fs.put (d ++ [name]) .directory).node? (d ++ [name]) = some .directory :=
      node?_put_self (by simp) _
    have start := grows.directory (node?_of_walk_eq way)
    have origin : (fs.put (d ++ [name]) .directory).origin path = fs.origin path := rfl
    rw [find, sound, origin, pieces]
    dsimp only
    rw [walk_append (grows.walk way start), walk, start]
    dsimp only
    rw [if_neg (by rw [not_idle]; exact Bool.false_ne_true), if_neg not_up, if_neg short, found]
    exact walk_of_isEmpty found empty
  · split at h <;> cases h

/-! ### Names in a directory -/

/-- Whether a path is one to a directory.  The empty path is one to the current directory. -/
def IsAt (fs : FileSystem) (path : Text) (d : Location) : Prop :=
  fs.walk (fs.origin path) (Path.pieces path) = .ok (.node d .directory)

theorem IsAt.grows (grows : fs.Grows fs') (h : fs.IsAt path d) : fs'.IsAt path d := by
  rw [IsAt, grows.origin path]
  exact grows.walk h (grows.directory (node?_of_walk_eq h))

theorem IsAt.unique {d' : Location} (h : fs.IsAt path d) (h' : fs.IsAt path d') : d = d' := by
  rw [IsAt, h] at h'
  cases h'
  rfl

end FileSystem

theorem Path.isAbsolute_of_notMem {name : Text} (plain : '/' ∉ name) : isAbsolute name = false :=
  beq_eq_false_iff_ne.mpr fun e => plain (List.mem_of_mem_head? e)

theorem Path.pieces_join (base : Text) {name : Text} (plain : '/' ∉ name) :
    ∃ front, pieces (join base name) = front ++ [name] ∧
      (pieces base = front ∨ pieces base = front ++ [[]]) := by
  rw [join, if_neg (by rw [isAbsolute_of_notMem plain]; exact Bool.false_ne_true)]
  split
  · rename_i closed
    rw [Bool.or_eq_true, beq_iff_eq] at closed
    rcases closed with empty | slash
    · obtain rfl := List.isEmpty_iff.mp empty
      exact ⟨[], Text.cutAt_of_notMem plain, .inr rfl⟩
    · obtain ⟨front, e⟩ := List.getLast?_eq_some_iff.mp slash
      rw [e, List.append_assoc]
      exact ⟨pieces front, by
        rw [pieces, List.singleton_append, Text.cutAt_append, Text.cutAt_of_notMem plain, pieces],
        .inr (Text.cutAt_append front [])⟩
  · exact ⟨pieces base, by
      rw [pieces, Text.cutAt_append, Text.cutAt_of_notMem plain, pieces], .inl rfl⟩

theorem FileSystem.origin_join (fs : FileSystem) (base : Text) {name : Text} (plain : '/' ∉ name) :
    fs.origin (Path.join base name) = fs.origin base := by
  have relative := Path.isAbsolute_of_notMem plain
  have same : Path.isAbsolute (Path.join base name) = Path.isAbsolute base := by
    rw [Path.join, if_neg (by rw [relative]; exact Bool.false_ne_true)]
    cases base with
    | nil => exact relative
    | cons c base => split <;> rfl
  rw [FileSystem.origin, FileSystem.origin, same]

theorem FileSystem.isAt_of_walk {fs : FileSystem} {base : Text} {front : List Text} {d : Location}
    (way : fs.walk (fs.origin base) front = .ok (.node d .directory))
    (whole : Path.pieces base = front ∨ Path.pieces base = front ++ [[]]) : fs.IsAt base d := by
  rw [IsAt]
  rcases whole with e | e
  · rw [e, way]
  · rw [e, walk_append way]
    exact walk_of_isEmpty (node?_of_walk_eq way) fun piece mem => List.mem_singleton.mp mem

/-- A plain name in a directory leads to a child of the directory. -/
theorem FileSystem.Leads.of_join {fs : FileSystem} {base name : Text} {l : Location}
    (leads : fs.Leads (Path.join base name) l) (plain : '/' ∉ name) :
    ∃ d, fs.IsAt base d ∧ l = d ++ [name] := by
  obtain ⟨-, front, last, d, pieces, -, way, rfl⟩ := leads
  obtain ⟨front', pieces', whole⟩ := Path.pieces_join base plain
  rw [pieces] at pieces'
  obtain ⟨rfl, e⟩ := List.append_inj' pieces' rfl
  cases e
  rw [fs.origin_join base plain] at way
  exact ⟨d, isAt_of_walk way whole, rfl⟩

/-- What a name leads to behind some pieces is in the directory to which the pieces lead. -/
theorem FileSystem.exists_of_walk_concat {fs : FileSystem} {o l : Location} {front : List Text}
    {name : Text} {n : FileNode} (not_idle : Path.isIdle name = false) (not_up : name ≠ ['.', '.'])
    (h : fs.walk o (front ++ [name]) = .ok (.node l n)) :
    ∃ d, fs.walk o front = .ok (.node d .directory) ∧ l = d ++ [name] := by
  induction front generalizing o with
  | nil =>
      obtain ⟨start, o', step, h'⟩ := exists_step h
      cases step with
      | stay idle =>
          rw [not_idle] at idle
          cases idle
      | up named dots => exact absurd dots not_up
      | down named plain short found =>
          obtain ⟨e, -⟩ := eq_of_walk_nil h'
          exact ⟨o, by rw [walk, start], e.symm⟩
  | cons piece front ih =>
      obtain ⟨start, o', step, h'⟩ := exists_step h
      obtain ⟨d, way, e⟩ := ih h'
      exact ⟨d, (step.walk start front).trans way, e⟩

theorem FileSystem.isAt_of_find_join {fs : FileSystem} {base name : Text} {l : Location}
    {n : FileNode} (found : fs.find (Path.join base name) = .ok (.node l n)) (plain : '/' ∉ name)
    (not_idle : Path.isIdle name = false) (not_up : name ≠ ['.', '.']) :
    ∃ d, fs.IsAt base d ∧ l = d ++ [name] := by
  obtain ⟨front, pieces, whole⟩ := Path.pieces_join base plain
  rw [find] at found
  split at found
  · cases found
  rw [pieces, fs.origin_join base plain] at found
  obtain ⟨d, way, rfl⟩ := exists_of_walk_concat not_idle not_up found
  exact ⟨d, isAt_of_walk way whole, rfl⟩

/-- A file under a plain name in a directory is a child of the directory. -/
theorem FileSystem.Holds.of_join {fs : FileSystem} {base name : Text} {c : Bytes}
    (holds : fs.Holds (Path.join base name) c) (plain : '/' ∉ name) :
    ∃ d, fs.IsAt base d ∧ fs.node? (d ++ [name]) = some (.file c) := by
  obtain ⟨l, leads, found⟩ := holds
  obtain ⟨d, inside, rfl⟩ := leads.of_join plain
  exact ⟨d, inside, found⟩

end Tabular
