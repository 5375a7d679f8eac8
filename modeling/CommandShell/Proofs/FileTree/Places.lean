/-
# Where a path leads

A path is followed name by name, so where it leads is one name below the place that its
parent leads to.  Hence a file can be written exactly if the directory above it is there and
it is no directory itself.  Two paths with different last names lead to different places,
so a file that is written at one of them leaves what is read at the other as it was.  Where
nothing stands a path can still be asked about, unless it is too long.
-/

import CommandShell.Proofs.FileTree.Directories

namespace CommandShell

namespace Path

/-- More names make a path longer. -/
theorem utf8ByteSize_intercalate_le (front : List String) (name : String) :
    ("/".intercalate front).utf8ByteSize ≤ ("/".intercalate (front ++ [name])).utf8ByteSize := by
  induction front with
  | nil => exact Nat.zero_le _
  | cons first rest ih =>
      have longer : ∀ other others, ("/".intercalate (first :: other :: others)).utf8ByteSize =
          (first ++ "/").utf8ByteSize + ("/".intercalate (other :: others)).utf8ByteSize := by
        intro other others
        rw [String.intercalate_cons_cons, String.utf8ByteSize_append]
      cases rest with
      | nil =>
          rw [List.singleton_append, longer, String.intercalate_singleton,
            String.utf8ByteSize_append]
          omega
      | cons second others =>
          rw [List.cons_append, List.cons_append, longer, longer]
          exact Nat.add_le_add_left ih _

/-- A path is not shorter than its parent, apart from the dot that the empty path is
written as. -/
theorem utf8ByteSize_text_parent_le {path : Path} {front : List String} {name : String}
    (names : path.names = front ++ [name]) :
    path.parent.text.utf8ByteSize ≤ max 1 path.text.utf8ByteSize := by
  obtain ⟨root, all⟩ := path
  obtain rfl : all = front ++ [name] := names
  have written : (Path.mk root (front ++ [name])).text =
      root.text ++ "/".intercalate (front ++ [name]) := by
    cases root with
    | relative => cases front <;> rfl
    | slash => rfl
    | doubleSlash => rfl
  have parent : (Path.mk root (front ++ [name])).parent = ⟨root, front⟩ := by
    rw [Path.parent, List.dropLast_concat]
  have longer := utf8ByteSize_intercalate_le front name
  rw [parent, written, String.utf8ByteSize_append, Path.text]
  split
  · exact Nat.le_max_left _ _
  · rw [String.utf8ByteSize_append]
    exact Nat.le_trans (Nat.add_le_add_left longer _) (Nat.le_max_right _ _)

/-- A name without U+0000 adds none to its parent. -/
theorem hasNul_of_parent {path : Path} {front : List String} {name : String}
    (names : path.names = front ++ [name]) (noNul : '\x00' ∉ name.toList) :
    path.hasNul = path.parent.hasNul := by
  have last : (name.toList.any (· == '\x00')) = false := by
    rw [List.any_eq_false]
    rintro c member isNul
    exact noNul (eq_of_beq isNul ▸ member)
  rw [hasNul, hasNul, names_parent, names, List.dropLast_concat, List.any_append, List.any_cons,
    List.any_nil, last, Bool.or_false, Bool.or_false]

end Path

namespace FileTree

variable {tree : FileTree} {path : Path} {location : Location}

/-! ## Paths name by name -/

theorem walk_append (start : Location) (front back : List String) :
    tree.walk start (front ++ back) =
      tree.walk start front >>= fun place => tree.walk place back := by
  induction front generalizing start with
  | nil => rfl
  | cons name rest ih =>
      rw [List.cons_append, walk, walk]
      split
      · rfl
      · rfl
      split
      · exact ih _
      split
      · rfl
      · exact ih _

section Parent

variable {front : List String} {name : String} (names : path.names = front ++ [name])
  (plain : name ≠ "..")

include names plain

/-- A path leads to a place in the directory that its parent leads to. -/
theorem exists_resolve_parent (led : tree.resolve path = .ok location) :
    ∃ place, tree.resolve path.parent = .ok place ∧ tree.get? place = some .directory ∧
      location = place ++ [name] := by
  obtain ⟨noNul, short, walked⟩ := resolve_eq_ok_iff.mp led
  rw [names, walk_append] at walked
  cases above : tree.walk (base path) front with
  | error error => simp [above, bind, Except.bind] at walked
  | ok place =>
      have step : tree.walk place [name] = .ok location := by rwa [above] at walked
      have parentNoNul : path.parent.hasNul = false := by
        rw [Path.hasNul, names, List.any_append, Bool.or_eq_false_iff] at noNul
        rw [Path.hasNul, Path.names_parent, names, List.dropLast_concat]
        exact noNul.1
      -- The empty path is written as a dot, so only its parent could be longer than a path.
      have parentShort : path.parent.text.utf8ByteSize < pathLimit :=
        Nat.lt_of_le_of_lt (Path.utf8ByteSize_text_parent_le names)
          (Nat.max_lt.mpr ⟨by decide, short⟩)
      have parentWalked : tree.walk (base path.parent) path.parent.names = .ok place := by
        rw [Path.names_parent, names, List.dropLast_concat]
        exact above
      refine ⟨place, resolve_eq_ok_iff.mpr ⟨parentNoNul, parentShort, parentWalked⟩, ?_⟩
      rw [walk] at step
      split at step
      · cases step
      · cases step
      next directory =>
      rw [if_neg plain] at step
      split at step
      · cases step
      next fits => exact ⟨directory, (Except.ok.inj step).symm⟩

/-- Below a directory every name leads somewhere that is not too long. -/
theorem resolve_of_parent (noNul : '\x00' ∉ name.toList) {place : Location}
    (led : tree.resolve path.parent = .ok place) (directory : tree.get? place = some .directory) :
    tree.resolve path = .error (.system .nameTooLong path) ∨
      tree.resolve path = .ok (place ++ [name]) := by
  obtain ⟨parentNoNul, _, walked⟩ := resolve_eq_ok_iff.mp led
  rw [Path.names_parent, names, List.dropLast_concat] at walked
  have above : tree.walk (base path) front = .ok place := walked
  have step : tree.walk (base path) path.names = tree.walk place [name] := by
    rw [names, walk_append, above]
    rfl
  rw [resolve, Path.hasNul_of_parent names noNul, parentNoNul, if_neg (by decide)]
  split
  · exact .inl rfl
  rw [step, walk, directory]
  by_cases long : name.utf8ByteSize > nameLimit
  · exact .inl (by simp [plain, long])
  · exact .inr (by simp [plain, long, walk])

/-- A file can be written exactly if the directory above it is there and it is no directory
itself. -/
theorem isWritable_iff (noNul : '\x00' ∉ name.toList) :
    tree.IsWritable path ↔
      tree.LeadsToDirectory path.parent ∧ tree.isDirectory path = .ok false := by
  constructor
  · rintro ⟨location, led, noDirectory⟩
    obtain ⟨place, parentLed, directory, -⟩ := exists_resolve_parent names plain led
    refine ⟨⟨place, parentLed, directory⟩, ?_⟩
    rw [isDirectory_eq, led]
    simpa using noDirectory
  · rintro ⟨⟨place, parentLed, directory⟩, answer⟩
    rcases resolve_of_parent names plain noNul parentLed directory with refused | led
    · rw [isDirectory_eq, refused] at answer
      cases answer
    · refine ⟨_, led, ?_⟩
      rw [isDirectory_eq, led] at answer
      simpa using answer

end Parent

/-- Paths with different last names lead to different places. -/
theorem resolve_ne {other : Path} {there : Location} {front back : List String}
    {name otherName : String} (names : path.names = front ++ [name])
    (otherNames : other.names = back ++ [otherName]) (plain : name ≠ "..")
    (otherPlain : otherName ≠ "..") (different : name ≠ otherName)
    (led : tree.resolve path = .ok location) (otherLed : tree.resolve other = .ok there) :
    location ≠ there := by
  obtain ⟨place, -, -, rfl⟩ := exists_resolve_parent names plain led
  obtain ⟨otherPlace, -, -, rfl⟩ := exists_resolve_parent otherNames otherPlain otherLed
  intro same
  exact different (List.append_inj_right' same rfl |> List.singleton_inj.mp)

/-- What is read at one place does not depend on what is put at another. -/
theorem read_put_of_ne {place : Location}
    (led : tree.resolve path = .ok place) (noDirectory : tree.get? location ≠ some .directory)
    (elsewhere : place ≠ location) (node : Node) :
    (tree.put location node).read path = tree.read path := by
  rw [read_eq, read_eq, led, resolve_put led noDirectory]
  simp only [get?_put_of_ne tree node elsewhere]

/-! ## Asking whether something is there -/

/-- Nothing stands where the path leads, if it leads anywhere. -/
def IsAbsent (tree : FileTree) (path : Path) : Prop :=
  ∀ location, tree.resolve path = .ok location → tree.get? location = none

/-- Where nothing stands the answer is no, or the name is too long for an answer. -/
theorem IsAbsent.isThere_eq (absent : tree.IsAbsent path) :
    tree.isThere path = .ok false ∨
      ∃ place, tree.resolve path = .error (.system .nameTooLong place) ∧
        tree.isThere path = .error (.system .nameTooLong place) := by
  rw [isThere, ask_eq]
  split
  next place resolved => exact .inr ⟨place, resolved, rfl⟩
  next resolved => exact .inl rfl
  next location resolved =>
    left
    rw [absent location resolved]
    rfl

theorem isThere_of_read {bytes : List UInt8} (h : tree.read path = .ok bytes) :
    tree.isThere path = .ok true := by
  obtain ⟨location, led, standing⟩ := read_eq_ok_iff.mp h
  rw [isThere, ask_eq, led]
  simp only [standing, Option.any_some]

end FileTree

end CommandShell
