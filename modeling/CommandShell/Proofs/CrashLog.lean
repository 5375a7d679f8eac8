/-
# Writing the crash log

A record is written or passed over, and nothing else comes of it: what can stand in
its way is the file system and an unknown home directory, and a conversation
survives both.  Where a record can be written, more can be written after it.  The
records come to stand behind what the log held before, in the order of writing, and
directories on the way to the log are all else that has changed.
-/

import CommandShell.CrashLog
import CommandShell.Proofs.FileTree.Directories
import CommandShell.Proofs.Moves
import CommandShell.Proofs.TextFile

namespace CommandShell

open Act

theorem TextFile.isOrdinary_of_refuse {α : Type} {answer : Except Refusal α} {failure : Failure}
    (h : refuse answer = .error failure) : failure.isOrdinary = true := by
  cases answer with
  | ok value => cases h
  | error refusal =>
      cases h
      rfl

namespace Environment

variable (env : Environment)

theorem isOrdinary_of_expandHome {path : Path} {failure : Failure}
    (h : env.expandHome path = .error failure) : failure.isOrdinary = true := by
  rw [expandHome] at h
  split at h
  · split at h
    · split at h
      · cases h
        rfl
      · split at h <;> cases h
        rfl
    · cases h
  · cases h

theorem isOrdinary_of_dataRoot {failure : Failure} (h : env.dataRoot = .error failure) :
    failure.isOrdinary = true := by
  rw [dataRoot] at h
  split at h
  · cases h
  · cases home : env.expandHome ⟨.relative, ["~"]⟩ with
    | ok path =>
        rw [home] at h
        cases h
    | error obstacle =>
        rw [home] at h
        cases h
        exact isOrdinary_of_expandHome env home

theorem survivable_openDataRoot : Survivable env.openDataRoot := by
  refine FailsOnly.bind (failsOnly_lift fun _ => isOrdinary_of_dataRoot env) fun root => ?_
  refine FailsOnly.bind failsOnly_get fun files => ?_
  refine FailsOnly.bind (failsOnly_set _) fun _ => ?_
  refine FailsOnly.bind (failsOnly_lift fun _ => TextFile.isOrdinary_of_refuse) fun _ => ?_
  exact failsOnly_pure root

end Environment

namespace CrashLog

variable (env : Environment)

theorem survivable_append (text : Text) : Survivable (append env text) := by
  have refused {α : Type} (answer : Except Refusal α) :
      Survivable (liftM (TextFile.refuse answer) : Act FileTree α) :=
    failsOnly_lift fun _ => TextFile.isOrdinary_of_refuse
  have extended (files : FileTree) (log : Path) : ∀ failure,
      (TextFile.extend files log [text]).1 = .error failure → failure.isOrdinary = true := by
    intro failure failed
    rw [TextFile.extend] at failed
    cases opens : files.append log (TextFile.output [text]).1 with
    | error refusal =>
        rw [opens] at failed
        cases failed
        rfl
    | ok written =>
        rw [opens] at failed
        cases text with
        | plain string =>
            rw [TextFile.opened, TextFile.output_singleton_eq_ok_iff.mpr rfl] at failed
            cases failed
        | broken before surrogate behind =>
            cases failed
            rfl
  refine FailsOnly.bind (Environment.survivable_openDataRoot env) fun root => ?_
  refine FailsOnly.bind failsOnly_get fun files => ?_
  refine FailsOnly.bind (failsOnly_set _) fun _ => ?_
  refine FailsOnly.bind (refused _) fun _ => ?_
  refine FailsOnly.bind (failsOnly_set _) fun _ => ?_
  exact failsOnly_lift (extended _ _)

/-- Recording a failure passes over what stands in the way of adding the record. -/
theorem perform_write (stamp : Stamp) (failure : Failure) (command : Text) (files : FileTree) :
    (write env stamp failure command).perform files =
      match (append env (record stamp failure command)).perform files with
      | (.ok _, after) => (.ok true, after)
      | (.error _, after) => (.ok false, after) := by
  rw [write, perform_tryCatch, seqRight_eq_bind, perform_bind]
  rcases attempted : (append env (record stamp failure command)).perform files with
    ⟨obstacle | ⟨⟩, after⟩
  · have ordinary := survivable_append env _ _ _ _ attempted
    simp [ordinary]
  · rfl

/-- Recording a failure cannot fail in turn. -/
theorem exists_perform_write (stamp : Stamp) (failure : Failure) (command : Text)
    (files : FileTree) :
    ∃ written after, (write env stamp failure command).perform files = (.ok written, after) := by
  rw [perform_write]
  split
  next after added => exact ⟨true, after, rfl⟩
  next after refused => exact ⟨false, after, rfl⟩

/-- A record names the command, unless that is empty. -/
theorem record_eq (stamp : Stamp) (failure : Failure) (command : Text) :
    record stamp failure command =
      stamp.time ++ "\n" ++ (if command = "" then ("" : Text) else "raw=" ++ command ++ "\n") ++
        ("error=" ++ failure.kind ++ ": " ++ failure.message ++ "\n") ++
        ("traceback:" ++ "\n" ++ stamp.trace ++ "\n" ++ "----" ++ "\n") := by
  rw [record]
  split <;> simp [Text.endLines, Text.join, Text.append_assoc, String.append_assoc]

/-! ## What the log comes to hold -/

open FileTree

variable {env} {files made after : FileTree} {location : Location}

/-- The place of the log. -/
def IsLog (env : Environment) (location : Location) : Prop :=
  ∃ root, env.dataRoot = .ok root ∧ location = destination (path root)

/-- A place on the way to the log: the data root, what is above it or the log's own
directories. -/
def AboveLog (env : Environment) (location : Location) : Prop :=
  ∃ root, env.dataRoot = .ok root ∧ OnTheWay (path root).parent location

/-- There is only one log. -/
theorem IsLog.unique {log other : Location} (isLog : IsLog env log) (isLog' : IsLog env other) :
    log = other := by
  obtain ⟨root, known, rfl⟩ := isLog
  obtain ⟨root', known', rfl⟩ := isLog'
  obtain rfl : root = root' := Except.ok.inj (known.symm.trans known')
  rfl

section Root

variable {root : Path} (known : env.dataRoot = .ok root) {answer : Except Refusal Unit}

include known

/-- Whatever becomes of the data root, it is on the way to the log. -/
theorem grewAt_of_opening (opens : files.makeDirectories root = (answer, after))
    (location : Location) : GrewAt (AboveLog env) files after location := by
  refine (grewAt_of_makeDirectories opens location).mono fun onTheWay => ⟨root, known, ?_⟩
  refine OnTheWay.trans onTheWay ?_
  simp [path, Path.child]

theorem grewAt_of_making (makes : files.makeDirectories (path root).parent = (answer, after))
    (location : Location) : GrewAt (AboveLog env) files after location :=
  (grewAt_of_makeDirectories makes location).mono fun onTheWay => ⟨root, known, onTheWay⟩

end Root

/-- The log can be opened at a location once the directories above it have been made. -/
structure Opens (env : Environment) (files made : FileTree) (location : Location) : Prop where
  makes : ∃ root opened, env.dataRoot = .ok root ∧
    files.makeDirectories root = (.ok (), opened) ∧
    opened.makeDirectories (path root).parent = (.ok (), made) ∧
    made.resolve (path root) = .ok location
  noDirectory : made.get? location ≠ some .directory

/-- The log stands at a location, or can be made there, and its directories are
there. -/
structure OpenAt (env : Environment) (files : FileTree) (location : Location) : Prop where
  exists_root : ∃ root, env.dataRoot = .ok root ∧ files.LeadsToDirectory root ∧
    files.LeadsToDirectory (path root).parent ∧ files.resolve (path root) = .ok location
  noDirectory : files.get? location ≠ some .directory

theorem OpenAt.opens (isOpen : OpenAt env files location) : Opens env files files location := by
  obtain ⟨⟨root, known, there, above, leads⟩, noDirectory⟩ := isOpen
  have opening := makeDirectories_of_leadsToDirectory there
  have making := makeDirectories_of_leadsToDirectory above
  exact ⟨⟨root, files, known, opening, making, leads⟩, noDirectory⟩

theorem OpenAt.put (isOpen : OpenAt env files location) (bytes : List UInt8) :
    OpenAt env (files.put location (.file bytes)) location := by
  obtain ⟨⟨root, known, there, above, leads⟩, noDirectory⟩ := isOpen
  refine ⟨⟨root, known, there.put noDirectory _, above.put noDirectory _,
    resolve_put leads noDirectory _⟩, ?_⟩
  simp [get?_put_self files _ (isBase_eq_false noDirectory)]

namespace Opens

/-- The log is opened in one way. -/
theorem unique {made' : FileTree} {location' : Location} (opens : Opens env files made location)
    (opens' : Opens env files made' location') : made = made' ∧ location = location' := by
  obtain ⟨⟨root, opened, known, opening, making, leads⟩, -⟩ := opens
  obtain ⟨⟨root', opened', known', opening', making', leads'⟩, -⟩ := opens'
  obtain rfl : root = root' := Except.ok.inj (known.symm.trans known')
  obtain rfl : opened = opened' := congrArg Prod.snd (opening.symm.trans opening')
  obtain rfl : made = made' := congrArg Prod.snd (making.symm.trans making')
  exact ⟨rfl, Except.ok.inj (leads.symm.trans leads')⟩

variable (opens : Opens env files made location)

include opens

theorem isLog : IsLog env location := by
  obtain ⟨⟨root, opened, known, -, -, leads⟩, -⟩ := opens
  exact ⟨root, known, eq_destination_of_resolve leads⟩

/-- On the way directories are made, and nothing else happens. -/
theorem grewAt (place : Location) : GrewAt (AboveLog env) files made place := by
  obtain ⟨⟨root, opened, known, opening, making, -⟩, -⟩ := opens
  exact (grewAt_of_opening known opening place).trans (grewAt_of_making known making place)

theorem openAt : OpenAt env made location := by
  obtain ⟨⟨root, opened, known, opening, making, leads⟩, noDirectory⟩ := opens
  have there := leadsToDirectory_of_makeDirectories opening
  have above := leadsToDirectory_of_makeDirectories making
  have grows : Grows opened made := grows_of_makeDirectories making
  exact ⟨⟨root, known, grows.leadsToDirectory there, above, leads⟩, noDirectory⟩

theorem bytesAt : made.bytesAt location = files.bytesAt location :=
  (grows_of_grewAt opens.grewAt).bytesAt location

/-- A log that can be opened gets the bytes of a text, none if the text holds a
surrogate. -/
theorem perform_append (text : Text) :
    (append env text).perform files =
      ((TextFile.output [text]).2, made.put location
        (.file (files.bytesAt location ++
          (String.join text.string?.toList).toUTF8.data.toList))) := by
  have held := opens.bytesAt
  obtain ⟨⟨root, opened, known, opening, making, leads⟩, noDirectory⟩ := opens
  have extended : made.append (path root) (TextFile.output [text]).1 =
      .ok (made.put location (.file (files.bytesAt location ++ (TextFile.output [text]).1))) := by
    rw [FileTree.append, update_eq, leads]
    simp [noDirectory, held]
  rw [← TextFile.output_singleton]
  simp [append, Environment.openDataRoot, known, opening, making, TextFile.extend, extended,
    TextFile.opened]

/-- A record is written if it is a string; otherwise the log has been opened for
nothing. -/
theorem perform_write (stamp : Stamp) (failure : Failure) (command : Text) :
    let text := record stamp failure command
    (write env stamp failure command).perform files =
      (.ok text.string?.isSome, made.put location
        (.file (files.bytesAt location ++
          (String.join text.string?.toList).toUTF8.data.toList))) := by
  intro text
  rw [CrashLog.perform_write, opens.perform_append]
  cases isString : text.string?.isSome with
  | true => rw [TextFile.output_singleton_eq_ok_iff.mpr isString]
  | false =>
      cases ended : (TextFile.output [text]).2 with
      | error failure => rfl
      | ok done =>
          have impossible := TextFile.output_singleton_eq_ok_iff.mp ended
          rw [isString] at impossible
          cases impossible

end Opens

/-- The log can be opened, or every text is refused on the way there, where some directories
may have been made. -/
theorem exists_opens_or_refused (env : Environment) (files : FileTree) :
    (∃ made location, Opens env files made location) ∨
      ∃ failure left, (∀ text, (append env text).perform files = (.error failure, left)) ∧
        ∀ place, GrewAt (AboveLog env) files left place := by
  cases known : env.dataRoot with
  | error failure =>
      right
      exact ⟨failure, files, by simp [append, Environment.openDataRoot, known],
        fun _ => .refl files⟩
  | ok root =>
      rcases opening : files.makeDirectories root with ⟨refusal | ⟨⟩, opened⟩ <;>
        have opened_only := grewAt_of_opening known opening
      · right
        exact ⟨.file refusal, opened, by simp [append, Environment.openDataRoot, known, opening],
          opened_only⟩
      rcases making : opened.makeDirectories (path root).parent with ⟨refusal | ⟨⟩, made⟩ <;>
        have made_only place := (opened_only place).trans (grewAt_of_making known making place)
      · right
        exact ⟨.file refusal, made,
          by simp [append, Environment.openDataRoot, known, opening, making], made_only⟩
      have refused (refusal : Refusal)
          (updates : ∀ bytes, made.append (path root) bytes = .error refusal) (text : Text) :
          (append env text).perform files = (.error (.file refusal), made) := by
        simp [append, Environment.openDataRoot, known, opening, making, TextFile.extend, updates,
          TextFile.opened]
      cases leads : made.resolve (path root) with
      | error refusal =>
          have updates bytes : made.append (path root) bytes = .error refusal := by
            rw [FileTree.append, update_eq, leads]
          exact .inr ⟨_, made, refused refusal updates, made_only⟩
      | ok location =>
          by_cases directory : made.get? location = some .directory
          · have updates bytes : made.append (path root) bytes =
                .error (.system .isDirectory (path root)) := by
              rw [FileTree.append, update_eq, leads]
              exact if_pos directory
            exact .inr ⟨_, made, refused _ updates, made_only⟩
          · exact .inl ⟨made, location, ⟨root, opened, known, opening, making, leads⟩, directory⟩

/-- The log can be added to. -/
def Writable (env : Environment) (files : FileTree) : Prop :=
  ∃ after, (append env "").perform files = (.ok (), after)

theorem Writable.exists_opens (writable : Writable env files) :
    ∃ made location, Opens env files made location := by
  rcases exists_opens_or_refused env files with opens | ⟨failure, left, refused, -⟩
  · exact opens
  · obtain ⟨after, added⟩ := writable
    rw [refused] at added
    cases added

theorem OpenAt.writable (isOpen : OpenAt env files location) : Writable env files :=
  ⟨_, isOpen.opens.perform_append ""⟩

/-- Texts come to the log, one after the other; those that are no strings leave it open
only. -/
inductive Gains (env : Environment) : List Text → FileTree → FileTree → Prop
  | nothing (files : FileTree) : Gains env [] files files
  | add {text : Text} {texts : List Text} {before made after : FileTree} {location : Location}
      (opens : Opens env before made location)
      (rest : Gains env texts (made.put location (.file
        (before.bytesAt location ++ (String.join text.string?.toList).toUTF8.data.toList))) after) :
      Gains env (text :: texts) before after

/-- A log that can be added to gets a record, and can be added to again. -/
theorem Writable.exists_write (writable : Writable env files) (stamp : Stamp)
    (failure : Failure) (command : Text) :
    ∃ written after, (write env stamp failure command).perform files = (.ok written, after) ∧
      Writable env after ∧ ∀ {texts last}, Gains env texts after last →
        Gains env (record stamp failure command :: texts) files last := by
  obtain ⟨made, location, opens⟩ := writable.exists_opens
  exact ⟨_, _, opens.perform_write stamp failure command, (opens.openAt.put _).writable, .add opens⟩

theorem Gains.of_openAt {texts : List Text} (gains : Gains env texts files after)
    (isOpen : OpenAt env files location) {bytes : List UInt8}
    (standing : files.get? location = some (.file bytes)) :
    OpenAt env after location ∧
      after.get? location = some
        (.file (bytes ++ (String.join (texts.filterMap Text.string?)).toUTF8.data.toList)) ∧
      ∀ other, other ≠ location → after.get? other = files.get? other := by
  induction gains generalizing bytes with
  | nothing files => exact ⟨isOpen, by simpa using standing, fun _ _ => rfl⟩
  | add opens rest ih =>
      next text texts before made after location' =>
      obtain ⟨rfl, rfl⟩ := opens.unique isOpen.opens
      have held : made.bytesAt location' = bytes := by simp only [bytesAt, standing]
      rw [held] at ih
      obtain ⟨still, stands, elsewhere⟩ :=
        ih (isOpen.put _) (get?_put_self made _ (isBase_eq_false isOpen.noDirectory))
      refine ⟨still, ?_, ?_⟩
      · rw [stands, TextFile.join_cons_strings, TextFile.output_singleton, List.append_assoc]
      · intro other differs
        rw [elsewhere other differs, get?_put_of_ne made _ differs]

/-- **Records come to stand behind one another.**  Those of the texts that are strings stand
in the log, in order, behind what it held before; nothing else has changed, but for
directories that were made. -/
theorem Gains.exists_read {text : Text} {texts : List Text}
    (gains : Gains env (text :: texts) files after) :
    ∃ root location, env.dataRoot = .ok root ∧ after.resolve (path root) = .ok location ∧
      after.read (path root) = .ok (files.bytesAt location ++
        (String.join ((text :: texts).filterMap Text.string?)).toUTF8.data.toList) ∧
      ∀ other, other ≠ location → after.get? other = files.get? other ∨
        files.get? other = none ∧ after.get? other = some .directory := by
  obtain - | ⟨opens, rest⟩ := gains
  next made location =>
  have first := get?_put_self made (.file (files.bytesAt location ++
    (String.join text.string?.toList).toUTF8.data.toList)) (isBase_eq_false opens.noDirectory)
  obtain ⟨⟨⟨root, known, _, _, leads⟩, _⟩, stands, others⟩ :=
    rest.of_openAt (opens.openAt.put _) first
  refine ⟨root, location, known, leads, ?_, ?_⟩
  · rw [read_eq, leads, TextFile.join_cons_strings, TextFile.output_singleton]
    simp only [stands, List.append_assoc]
  · intro other differs
    rw [others other differs, get?_put_of_ne made _ differs]
    exact grows_of_grewAt opens.grewAt other

end CrashLog

end CommandShell
