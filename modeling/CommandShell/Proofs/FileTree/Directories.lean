/-
# Directories that are made

Making a directory and those above it puts directories where nothing stood, at places
that the path and the paths above it name, and does nothing else, whatever comes of it.
If it succeeds the path leads to a directory, and then there is nothing left to make.  A
path that leads somewhere goes on to lead there, also after a file has been changed.
-/

import Mathlib.Order.Defs.Unbundled
import CommandShell.Proofs.FileTree

namespace CommandShell.FileTree

variable {tree after : FileTree} {path : Path}

/-- The path leads to a directory. -/
def LeadsToDirectory (tree : FileTree) (path : Path) : Prop :=
  ∃ location, tree.resolve path = .ok location ∧ tree.get? location = some .directory

/-- Directories stand where nothing stood; all else is as it was. -/
def Grows (before after : FileTree) : Prop :=
  ∀ location, after.get? location = before.get? location ∨
    before.get? location = none ∧ after.get? location = some .directory

/-- At a location nothing has changed, or it is of a kind, nothing stood there and now a
directory does. -/
def GrewAt (kind : Location → Prop) (before after : FileTree) (location : Location) : Prop :=
  after.get? location = before.get? location ∨
    kind location ∧ before.get? location = none ∧ after.get? location = some .directory

namespace GrewAt

variable {kind wider : Location → Prop} {first second third : FileTree} {location : Location}

protected theorem refl (tree : FileTree) : GrewAt kind tree tree location :=
  .inl rfl

protected theorem trans (begun : GrewAt kind first second location)
    (rest : GrewAt kind second third location) : GrewAt kind first third location := by
  rcases rest with same | ⟨ofKind, nothing, made⟩
  · rw [GrewAt, same]
    exact begun
  · rcases begun with same | ⟨_, _, standing⟩
    · exact .inr ⟨ofKind, same ▸ nothing, made⟩
    · rw [nothing] at standing
      cases standing

theorem mono (grew : GrewAt kind first second location) (weaker : kind location → wider location) :
    GrewAt wider first second location :=
  grew.imp_right fun ⟨ofKind, made⟩ => ⟨weaker ofKind, made⟩

theorem get?_of_some (grew : GrewAt kind first second location) {node : Node}
    (h : first.get? location = some node) : second.get? location = some node := by
  rcases grew with same | ⟨_, nothing, _⟩
  · exact same.trans h
  · rw [h] at nothing
    cases nothing

/-- Where no directory stands afterwards nothing has changed. -/
theorem eq_of_noDirectory (grew : GrewAt kind first second location)
    (h : second.get? location ≠ some .directory) :
    second.get? location = first.get? location := by
  rcases grew with same | ⟨_, _, made⟩
  · exact same
  · exact absurd made h

end GrewAt

theorem grows_of_grewAt {kind : Location → Prop} {before after : FileTree}
    (grew : ∀ location, GrewAt kind before after location) : Grows before after := by
  intro location
  exact (grew location).imp_right And.right

theorem Grows.grewAt {before after : FileTree} (grows : Grows before after)
    (location : Location) : GrewAt (fun _ => True) before after location :=
  (grows location).imp_right fun made => ⟨trivial, made⟩

instance : IsPreorder FileTree Grows where
  refl _ _ := .inl rfl
  trans _ _ _ := by
    intro begun rest
    exact grows_of_grewAt fun location => (begun.grewAt location).trans (rest.grewAt location)

namespace Grows

variable {before after : FileTree} (grows : Grows before after)

include grows

theorem get?_of_some {location : Location} {node : Node} (h : before.get? location = some node) :
    after.get? location = some node :=
  (grows.grewAt location).get?_of_some h

theorem resolve {target : Location} (led : before.resolve path = .ok target) :
    after.resolve path = .ok target :=
  resolve_of_directories (fun _ => grows.get?_of_some) led

theorem leadsToDirectory (leads : before.LeadsToDirectory path) :
    after.LeadsToDirectory path := by
  obtain ⟨location, led, standing⟩ := leads
  exact ⟨location, grows.resolve led, grows.get?_of_some standing⟩

theorem bytesAt (location : Location) : after.bytesAt location = before.bytesAt location := by
  rcases grows location with same | ⟨none, made⟩
  · rw [FileTree.bytesAt, FileTree.bytesAt, same]
  · simp [FileTree.bytesAt, none, made]

end Grows

/-- A directory is still there when something is put elsewhere. -/
theorem LeadsToDirectory.put (leads : tree.LeadsToDirectory path) {location : Location}
    (noDirectory : tree.get? location ≠ some .directory) (node : Node) :
    (tree.put location node).LeadsToDirectory path := by
  obtain ⟨target, led, standing⟩ := leads
  have elsewhere : target ≠ location := by
    rintro rfl
    exact noDirectory standing
  refine ⟨target, resolve_put led noDirectory node, ?_⟩
  rw [get?_put_of_ne tree node elsewhere, standing]

/-! ## Places that a path names -/

/-- Follows one name: `..` leads up, any other name down. -/
def follow (location : Location) (name : String) : Location :=
  if name = ".." then above location else location ++ [name]

/-- The place that a path names, whatever is there. -/
def destination (path : Path) : Location :=
  path.names.foldl follow (base path)

theorem eq_foldl_of_walk {start target : Location} {names : List String}
    (led : tree.walk start names = .ok target) : target = names.foldl follow start := by
  induction names generalizing start with
  | nil => exact (Except.ok.inj led).symm
  | cons name rest ih =>
      rw [walk] at led
      rw [List.foldl_cons, follow]
      split at led
      · cases led
      · cases led
      split at led
      next up =>
        rw [if_pos up]
        exact ih led
      next down =>
        split at led
        · cases led
        rw [if_neg down]
        exact ih led

/-- A path leads to the place that it names, if it leads anywhere. -/
theorem eq_destination_of_resolve {location : Location} (led : tree.resolve path = .ok location) :
    location = destination path :=
  eq_foldl_of_walk (resolve_eq_ok_iff.mp led).2.2

/-- The path or one above it names the place. -/
def OnTheWay (path : Path) (location : Location) : Prop :=
  ∃ front, front <+: path.names ∧ location = destination ⟨path.root, front⟩

theorem onTheWay_destination (path : Path) : OnTheWay path (destination path) :=
  ⟨path.names, List.prefix_rfl, rfl⟩

/-- What is on the way to a path is on the way to every path below it. -/
theorem OnTheWay.trans {root : Path.Root} {names longer : List String} {location : Location}
    (h : OnTheWay ⟨root, names⟩ location) (further : names <+: longer) :
    OnTheWay ⟨root, longer⟩ location := by
  obtain ⟨front, above, named⟩ := h
  exact ⟨front, above.trans further, named⟩

/-! ## Making a directory -/

theorem lookup_eq :
    tree.lookup path =
      match tree.resolve path with
      | .error refusal => .error refusal
      | .ok location =>
        match tree.get? location with
        | some node => .ok node
        | none => .error (.system .notFound path) := by
  rw [lookup]
  cases tree.resolve path with
  | error refusal => rfl
  | ok location =>
      cases standing : tree.get? location <;> simp [standing, bind, Except.bind] <;> rfl

/-- How a question about a path is answered: the path is followed, and only a name that is
too long keeps the answer from being given. -/
theorem ask_eq (question : Node → Bool) :
    tree.ask path question =
      match tree.resolve path with
      | .error (.system .nameTooLong path) => .error (.system .nameTooLong path)
      | .error _ => .ok false
      | .ok location => .ok ((tree.get? location).any question) := by
  rw [ask, lookup_eq]
  cases tree.resolve path with
  | error refusal =>
      cases refusal with
      | nulInPath => rfl
      | system error place => cases error <;> rfl
  | ok location => cases standing : tree.get? location <;> simp [standing]

theorem isDirectory_eq :
    tree.isDirectory path =
      match tree.resolve path with
      | .error (.system .nameTooLong path) => .error (.system .nameTooLong path)
      | .error _ => .ok false
      | .ok location => .ok (tree.get? location == some .directory) := by
  have same (found : Option Node) : found.any (· == .directory) = (found == some .directory) := by
    cases found <;> rfl
  simp only [isDirectory, ask_eq, same]

theorem isDirectory_eq_true_iff :
    tree.isDirectory path = .ok true ↔ tree.LeadsToDirectory path := by
  rw [isDirectory_eq, LeadsToDirectory]
  split <;> simp [*]

theorem makeDirectory_eq :
    tree.makeDirectory path =
      match tree.resolve path with
      | .error refusal => .error refusal
      | .ok location =>
        match tree.get? location with
        | some _ => .error (.system .alreadyExists path)
        | none => .ok (tree.put location .directory) := by
  rw [makeDirectory]
  cases tree.resolve path with
  | error refusal => rfl
  | ok location =>
      cases standing : tree.get? location <;> simp [standing, bind, Except.bind] <;> rfl

/-- A directory that has been made is where the path leads, and nothing else is new. -/
theorem grewAt_makeDirectory (h : tree.makeDirectory path = .ok after) :
    (∀ location, GrewAt (· = destination path) tree after location) ∧
      after.LeadsToDirectory path := by
  rw [makeDirectory_eq] at h
  split at h
  · cases h
  next location led =>
  split at h
  · cases h
  next nothing =>
  cases h
  have noDirectory : tree.get? location ≠ some .directory := by simp [nothing]
  have made := get?_put_self tree Node.directory (isBase_eq_false noDirectory)
  refine ⟨?_, location, resolve_put led noDirectory .directory, made⟩
  intro other
  by_cases here : other = location
  · subst here
    exact .inr ⟨eq_destination_of_resolve led, nothing, made⟩
  · exact .inl (get?_put_of_ne tree .directory here)

theorem makeDirectory_of_leadsToDirectory (h : tree.LeadsToDirectory path) :
    tree.makeDirectory path = .error (.system .alreadyExists path) := by
  obtain ⟨location, led, standing⟩ := h
  rw [makeDirectory_eq, led]
  simp only [standing]

theorem settle_eq_ok_iff {error : SystemError} {place : Path} :
    tree.settle path (.system error place) = .ok () ↔ tree.LeadsToDirectory path := by
  rw [← isDirectory_eq_true_iff, settle]
  cases tree.isDirectory path with
  | error refusal => simp [bind, Except.bind]
  | ok there => cases there <;> simp [bind, Except.bind, pure, Except.pure, throw, throwThe,
      MonadExceptOf.throw]

theorem leadsToDirectory_of_settle {refusal : Refusal} (h : tree.settle path refusal = .ok ()) :
    tree.LeadsToDirectory path := by
  cases refusal with
  | nulInPath => cases h
  | system error place => exact settle_eq_ok_iff.mp h

/-! ## Making the directories above -/

/-- Directories are made on the way to the path only. -/
theorem grewAt_makeDirectoriesFrom (tree : FileTree) (root : Path.Root) (names : List String)
    (location : Location) :
    GrewAt (OnTheWay ⟨root, names.reverse⟩) tree (tree.makeDirectoriesFrom root names).2
      location := by
  have makes {tree after : FileTree} {path : Path} (making : tree.makeDirectory path = .ok after) :
      GrewAt (OnTheWay path) tree after location :=
    ((grewAt_makeDirectory making).1 location).mono fun here =>
      here ▸ onTheWay_destination path
  induction names generalizing tree with
  | nil =>
      rw [makeDirectoriesFrom]
      split
      next made making => exact makes making
      · exact .refl tree
  | cons last front ih =>
      rw [makeDirectoriesFrom]
      split
      next made making => exact makes making
      next missing =>
        have further : front.reverse <+: (last :: front).reverse := by
          rw [List.reverse_cons]
          exact List.prefix_append _ _
        have begun := (ih tree).mono fun onTheWay => onTheWay.trans further
        split
        next refusal above making =>
          rw [making] at begun
          exact begun
        next above making =>
          rw [making] at begun
          split
          next made making' => exact begun.trans (makes making')
          · exact begun
      · exact .refl tree

theorem leadsToDirectory_of_makeDirectoriesFrom {root : Path.Root} {names : List String}
    (h : tree.makeDirectoriesFrom root names = (.ok (), after)) :
    after.LeadsToDirectory ⟨root, names.reverse⟩ := by
  cases names with
  | nil =>
      rw [makeDirectoriesFrom] at h
      split at h
      next made making =>
        cases h
        exact (grewAt_makeDirectory making).2
      next refusal refused =>
        obtain ⟨settled, rfl⟩ := Prod.mk.inj h
        exact leadsToDirectory_of_settle settled
  | cons last front =>
      rw [makeDirectoriesFrom] at h
      split at h
      next made making =>
        cases h
        exact (grewAt_makeDirectory making).2
      next missing =>
        split at h
        next refusal above making => cases h
        next above making =>
          split at h
          next made making' =>
            cases h
            exact (grewAt_makeDirectory making').2
          next refusal refused =>
            obtain ⟨settled, rfl⟩ := Prod.mk.inj h
            exact leadsToDirectory_of_settle settled
      next refusal refused =>
        obtain ⟨settled, rfl⟩ := Prod.mk.inj h
        exact leadsToDirectory_of_settle settled

/-- Making directories does nothing but that, also if it fails on the way. -/
theorem grewAt_of_makeDirectories {answer : Except Refusal Unit}
    (h : tree.makeDirectories path = (answer, after)) (location : Location) :
    GrewAt (OnTheWay path) tree after location := by
  have grew := grewAt_makeDirectoriesFrom tree path.root path.names.reverse location
  rw [makeDirectories] at h
  rwa [List.reverse_reverse, h] at grew

theorem grows_of_makeDirectories {answer : Except Refusal Unit}
    (h : tree.makeDirectories path = (answer, after)) : Grows tree after :=
  grows_of_grewAt (grewAt_of_makeDirectories h)

theorem leadsToDirectory_of_makeDirectories (h : tree.makeDirectories path = (.ok (), after)) :
    after.LeadsToDirectory path := by
  have leads := leadsToDirectory_of_makeDirectoriesFrom h
  rwa [List.reverse_reverse] at leads

/-- Where there is a directory, nothing is left to make. -/
theorem makeDirectories_of_leadsToDirectory (h : tree.LeadsToDirectory path) :
    tree.makeDirectories path = (.ok (), tree) := by
  have there := makeDirectory_of_leadsToDirectory h
  have settled : tree.settle path (.system .alreadyExists path) = .ok () :=
    settle_eq_ok_iff.mpr h
  obtain ⟨root, names⟩ := path
  rw [makeDirectories]
  rcases reversed : names.reverse with _ | ⟨last, front⟩
  · obtain rfl := List.reverse_eq_nil_iff.mp reversed
    rw [makeDirectoriesFrom, there]
    simp only [settled]
  · have same : (last :: front).reverse = names := by
      rw [← reversed, List.reverse_reverse]
    rw [makeDirectoriesFrom]
    dsimp only
    rw [same, there]
    simp only [settled]

end CommandShell.FileTree
