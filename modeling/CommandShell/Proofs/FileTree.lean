/-
# Files read back

What is written to a file is what is read from it afterwards.  The path still
leads to the same place then: on the way to a file there are only directories,
and the file is none of them.
-/

import CommandShell.FileTree

namespace CommandShell.FileTree

variable {tree : FileTree} {path : Path}

/-- How a file is read: the path is followed, and a file has to stand where it
leads. -/
theorem read_eq :
    tree.read path =
      match tree.resolve path with
      | .error refusal => .error refusal
      | .ok location =>
        match tree.get? location with
        | none => .error (.system .notFound path)
        | some .directory => .error (.system .isDirectory path)
        | some (.file bytes) => .ok bytes := by
  rw [read, lookup]
  cases tree.resolve path with
  | error refusal => rfl
  | ok location =>
      cases standing : tree.get? location with
      | none => simp [standing, bind, Except.bind, throw, throwThe, MonadExceptOf.throw]
      | some node => cases node <;> simp [standing, bind, Except.bind] <;> rfl

theorem read_eq_ok_iff {bytes : List UInt8} :
    tree.read path = .ok bytes ↔
      ∃ location, tree.resolve path = .ok location ∧ tree.get? location = some (.file bytes) := by
  rw [read_eq]
  cases tree.resolve path with
  | error refusal => simp
  | ok location =>
      cases standing : tree.get? location with
      | none => simp [standing]
      | some node => cases node <;> simp [standing]

/-- The bytes of the file at a location, none if there is no file. -/
def bytesAt (tree : FileTree) (location : Location) : List UInt8 :=
  match tree.get? location with
  | some (.file bytes) => bytes
  | _ => []

/-- How a file is changed: the path is followed, and no directory may stand where it
leads. -/
theorem update_eq (change : List UInt8 → List UInt8) :
    tree.update path change =
      match tree.resolve path with
      | .error refusal => .error refusal
      | .ok location =>
        if tree.get? location = some .directory then .error (.system .isDirectory path)
        else .ok (tree.put location (.file (change (tree.bytesAt location)))) := by
  rw [update]
  cases tree.resolve path with
  | error refusal => rfl
  | ok location =>
      cases standing : tree.get? location with
      | none => simp [bytesAt, standing, bind, Except.bind, pure, Except.pure]
      | some node => cases node <;> simp [bytesAt, standing, bind, Except.bind] <;> rfl

/-- How a file is written: whatever stood there is replaced. -/
theorem write_eq (bytes : List UInt8) :
    tree.write path bytes =
      match tree.resolve path with
      | .error refusal => .error refusal
      | .ok location =>
        if tree.get? location = some .directory then .error (.system .isDirectory path)
        else .ok (tree.put location (.file bytes)) :=
  update_eq _

theorem write_eq_ok_iff {bytes : List UInt8} {written : FileTree} :
    tree.write path bytes = .ok written ↔
      ∃ location, tree.resolve path = .ok location ∧ tree.get? location ≠ some .directory ∧
        written = tree.put location (.file bytes) := by
  rw [write_eq]
  cases tree.resolve path with
  | error refusal => simp
  | ok location =>
      by_cases directory : tree.get? location = some .directory
      · simp [directory]
      · simp [directory, @eq_comm _ _ written]

/-- The path leads to a place where a file stands or can be made. -/
def IsWritable (tree : FileTree) (path : Path) : Prop :=
  ∃ location, tree.resolve path = .ok location ∧ tree.get? location ≠ some .directory

theorem resolve_eq_nulInPath_iff (tree : FileTree) :
    tree.resolve path = .error .nulInPath ↔ path.hasNul = true := by
  rw [resolve]
  split
  next nul => simp [nul]
  next noNul =>
    split
    · simp [noNul]
    · split <;> simp [noNul]

/-- Reading is refused for a fault of the file system, unless the path holds
U+0000. -/
theorem read_eq_nulInPath_iff (tree : FileTree) :
    tree.read path = .error .nulInPath ↔ path.hasNul = true := by
  rw [← resolve_eq_nulInPath_iff tree, read_eq]
  split
  next refusal resolved => simp [resolved]
  next location resolved => split <;> simp [resolved]

theorem write_eq_nulInPath_iff (tree : FileTree) (bytes : List UInt8) :
    tree.write path bytes = .error .nulInPath ↔ path.hasNul = true := by
  rw [← resolve_eq_nulInPath_iff tree, write_eq]
  split
  next refusal resolved => simp [resolved]
  next location resolved => split <;> simp [resolved]

theorem resolve_eq_ok_iff {location : Location} :
    tree.resolve path = .ok location ↔
      path.hasNul = false ∧ path.text.utf8ByteSize < pathLimit ∧
        tree.walk (base path) path.names = .ok location := by
  rw [resolve]
  cases nul : path.hasNul with
  | true => simp
  | false =>
      by_cases long : path.text.utf8ByteSize ≥ pathLimit
      · have refused : ¬ path.text.utf8ByteSize < pathLimit := Nat.not_lt_of_ge long
        simp [long, refused]
      · have short : path.text.utf8ByteSize < pathLimit := Nat.lt_of_not_ge long
        cases tree.walk (base path) path.names <;> simp [long, short]

section Directories

variable {after : FileTree}
  (kept : ∀ place, tree.get? place = some .directory → after.get? place = some .directory)

include kept

/-- A path is followed in the same way as long as no directory is lost. -/
theorem walk_of_directories {start target : Location} {names : List String}
    (led : tree.walk start names = .ok target) : after.walk start names = .ok target := by
  induction names generalizing start with
  | nil => exact led
  | cons name rest ih =>
      cases standing : tree.get? start with
      | none => simp [walk, standing] at led
      | some found =>
          cases found with
          | file bytes => simp [walk, standing] at led
          | directory =>
              simp only [walk, standing] at led
              simp only [walk, kept start standing]
              split
              next up =>
                rw [if_pos up] at led
                exact ih led
              next down =>
                rw [if_neg down] at led
                split at led
                · cases led
                next short =>
                  rw [if_neg short]
                  exact ih led

theorem resolve_of_directories {target : Location} (led : tree.resolve path = .ok target) :
    after.resolve path = .ok target := by
  obtain ⟨noNul, short, walked⟩ := resolve_eq_ok_iff.mp led
  exact resolve_eq_ok_iff.mpr ⟨noNul, short, walk_of_directories kept walked⟩

end Directories

/-- A path leads to the same place once something is put where no directory stood. -/
theorem resolve_put {location target : Location} (led : tree.resolve path = .ok target)
    (noDirectory : tree.get? location ≠ some .directory) (node : Node) :
    (tree.put location node).resolve path = .ok target := by
  refine resolve_of_directories (fun place standing => ?_) led
  have elsewhere : place ≠ location := by
    rintro rfl
    exact noDirectory standing
  rw [get?_put_of_ne tree node elsewhere, standing]

/-- A location without a directory is none of the bases. -/
theorem isBase_eq_false {location : Location} (h : tree.get? location ≠ some .directory) :
    isBase location = false := by
  cases base : isBase location with
  | false => rfl
  | true => exact absurd (by simp [get?, base]) h

/-- **What is written is read back.** -/
theorem read_write {bytes : List UInt8} {written : FileTree}
    (h : tree.write path bytes = .ok written) : written.read path = .ok bytes := by
  obtain ⟨location, led, noDirectory, rfl⟩ := write_eq_ok_iff.mp h
  have standing := get?_put_self tree (.file bytes) (isBase_eq_false noDirectory)
  exact read_eq_ok_iff.mpr ⟨location, resolve_put led noDirectory _, standing⟩

/-- What can be read can be written. -/
theorem isWritable_of_read {bytes : List UInt8} (h : tree.read path = .ok bytes) :
    tree.IsWritable path := by
  obtain ⟨location, led, standing⟩ := read_eq_ok_iff.mp h
  exact ⟨location, led, by simp [standing]⟩

/-- Whether a file can be written does not depend on what is to be written. -/
theorem IsWritable.exists_write (writable : tree.IsWritable path) (bytes : List UInt8) :
    ∃ written, tree.write path bytes = .ok written := by
  obtain ⟨location, led, noDirectory⟩ := writable
  exact ⟨_, write_eq_ok_iff.mpr ⟨location, led, noDirectory, rfl⟩⟩

end CommandShell.FileTree
