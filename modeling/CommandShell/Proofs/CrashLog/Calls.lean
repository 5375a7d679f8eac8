/-
# The crash log over many failures

Failures are recorded one after the other, from whatever files there are and wherever
the data root leads.  A call that writes its record adds it behind what the log holds;
one that does not adds to no file.  Either way nothing goes missing, no other file
changes, and all that is new besides are directories on the way to the log, and an empty
log where a record that is no string was to be written to a new one.  Such steps compose,
so a run of calls leaves the records that were written, in the order of the calls.
-/

import CommandShell.Proofs.CrashLog

namespace CommandShell.CrashLog

open Act FileTree

variable (env : Environment)

/-- A failure that is to be recorded. -/
structure Report where
  stamp : Stamp
  failure : Failure
  command : Text := ""

namespace Report

/-- What is added to the log. -/
def text (report : Report) : Text :=
  record report.stamp report.failure report.command

/-- One call of the recorder. -/
def write (report : Report) : Act FileTree Bool :=
  CrashLog.write env report.stamp report.failure report.command

end Report

/-- Failures recorded one after the other, each from the files that the call before has
left, whatever that call came to. -/
def writeAll : List Report → FileTree → List (Except Failure Bool) × FileTree
  | [], files => ([], files)
  | report :: rest, files =>
    let (answer, between) := (report.write env).perform files
    let (answers, after) := writeAll rest between
    (answer :: answers, after)

/-- Strings come to stand at the end of the log if it has been opened, and elsewhere nothing
happens but that directories are made on the way to it. -/
inductive Appends : List String → FileTree → FileTree → Prop
  | nothing {before after : FileTree}
      (grew : ∀ location, GrewAt (AboveLog env) before after location) :
      Appends [] before after
  | strings {added : List String} {before after : FileTree} {log : Location}
      (isLog : IsLog env log) (noDirectory : before.get? log ≠ some .directory)
      (standing : after.get? log =
        some (.file (before.bytesAt log ++ (String.join added).toUTF8.data.toList)))
      (elsewhere : ∀ location, location ≠ log → GrewAt (AboveLog env) before after location) :
      Appends added before after

variable {env} {files before between after : FileTree} {location : Location}

namespace Appends

variable {added more : List String}

protected theorem refl (files : FileTree) : Appends env [] files files :=
  .nothing fun _ => .refl files

/-- What is added first comes first. -/
protected theorem trans (begun : Appends env added before between)
    (rest : Appends env more between after) : Appends env (added ++ more) before after := by
  cases begun with
  | nothing grew =>
      cases rest with
      | nothing grew' => exact .nothing fun location => (grew location).trans (grew' location)
      | @strings _ _ _ log isLog noDirectory standing elsewhere =>
          -- A directory made at the log's own place would have been in the way.
          have same : between.get? log = before.get? log :=
            (grew log).eq_of_noDirectory noDirectory
          have held : between.bytesAt log = before.bytesAt log := by
            rw [bytesAt, bytesAt, same]
          refine .strings isLog (same ▸ noDirectory) (held ▸ standing) ?_
          intro location differs
          exact (grew location).trans (elsewhere location differs)
  | @strings _ _ _ log isLog noDirectory standing elsewhere =>
      cases rest with
      | nothing grew' =>
          refine .strings isLog noDirectory ?_ ?_
          · rw [List.append_nil]
            exact (grew' log).get?_of_some standing
          · intro location differs
            exact (elsewhere location differs).trans (grew' location)
      | @strings _ _ _ log' isLog' noDirectory' standing' elsewhere' =>
          obtain rfl := isLog.unique isLog'
          have held : between.bytesAt log =
              before.bytesAt log ++ (String.join added).toUTF8.data.toList := by
            simp only [bytesAt, standing]
          refine .strings isLog noDirectory ?_ ?_
          · rw [standing', held, String.join_append, Text.bytes_append, List.append_assoc]
          · intro location differs
            exact (elsewhere location differs).trans (elsewhere' location differs)

/-- What stands somewhere goes on to stand there, but for the end of the log. -/
theorem get?_of_some (appends : Appends env added before after) {node : Node}
    (standing : before.get? location = some node) :
    after.get? location = some node ∨
      IsLog env location ∧ ∃ bytes, node = .file bytes ∧ after.get? location =
        some (.file (bytes ++ (String.join added).toUTF8.data.toList)) := by
  cases appends with
  | nothing grew => exact .inl ((grew location).get?_of_some standing)
  | @strings _ _ _ log isLog noDirectory standing' elsewhere =>
      by_cases here : location = log
      · subst here
        cases node with
        | directory => exact absurd standing noDirectory
        | file bytes =>
            have held : before.bytesAt location = bytes := by simp only [bytesAt, standing]
            exact .inr ⟨isLog, bytes, rfl, held ▸ standing'⟩
      · exact .inl ((elsewhere location here).get?_of_some standing)

end Appends

/-! ## One call -/

/-- What is added to a log that can be opened comes to stand at its end. -/
theorem Opens.appends {made : FileTree} (opens : Opens env files made location)
    (added : List String) :
    Appends env added files (made.put location
      (.file (files.bytesAt location ++ (String.join added).toUTF8.data.toList))) := by
  have noDirectory := opens.noDirectory
  have same : made.get? location = files.get? location :=
    (opens.grewAt location).eq_of_noDirectory noDirectory
  refine .strings opens.isLog (same ▸ noDirectory) ?_ ?_
  · rw [get?_put_self made _ (isBase_eq_false noDirectory)]
  · intro place differs
    exact (opens.grewAt place).trans (.inl (get?_put_of_ne made _ differs))

/-- What one call does: it writes its record where the log can be opened and the record is a
string.  Otherwise nothing is added. -/
structure Written (env : Environment) (report : Report) (before : FileTree) (answer : Bool)
    (after : FileTree) : Prop where
  appends : Appends env (if answer then report.text.string?.toList else []) before after
  /-- Only a string is written, and then the log can be opened again. -/
  isString : answer = true → report.text.string?.isSome = true ∧ ∃ log, OpenAt env after log
  /-- Where the log can be opened, any string is written. -/
  writes : ∀ log, OpenAt env before log → answer = report.text.string?.isSome
  /-- Where a string is not written, the log has not even been opened. -/
  refused : report.text.string?.isSome = true → answer = false →
    ∀ location, GrewAt (AboveLog env) before after location

variable (env) in
/-- A call succeeds: it has written its record, or nothing. -/
theorem exists_perform_report (report : Report) (files : FileTree) :
    ∃ answer after, (report.write env).perform files = (.ok answer, after) ∧
      Written env report files answer after := by
  rcases exists_opens_or_refused env files with ⟨made, log, opens⟩ | ⟨failure, left, refused, grew⟩
  · have performed := opens.perform_write report.stamp report.failure report.command
    have added := opens.appends report.text.string?.toList
    refine ⟨report.text.string?.isSome, _, performed, ?_, ?_, fun _ _ => rfl, ?_⟩
    · have given : (if report.text.string?.isSome then report.text.string?.toList else []) =
          report.text.string?.toList := by
        cases report.text.string? <;> rfl
      rw [given]
      exact added
    · exact fun isString => ⟨isString, log, opens.openAt.put _⟩
    · intro isString isNone
      rw [isString] at isNone
      cases isNone
  · have performed : (report.write env).perform files = (.ok false, left) := by
      rw [Report.write, perform_write, refused]
    refine ⟨false, left, performed, .nothing grew, nofun, ?_, fun _ _ => grew⟩
    intro log isOpen
    have opened := isOpen.opens.perform_append ""
    rw [refused] at opened
    cases opened

/-! ## A run of calls -/

/-- The records that were written. -/
def recorded (reports : List Report) (written : List Bool) : List String :=
  ((reports.zip written).filter (·.2)).filterMap (·.1.text.string?)

theorem recorded_cons (report : Report) (reports : List Report) (answer : Bool)
    (written : List Bool) :
    recorded (report :: reports) (answer :: written) =
      (if answer then report.text.string?.toList else []) ++ recorded reports written := by
  cases answer with
  | false => rfl
  | true => cases isString : report.text.string? <;> simp [recorded, isString]

variable (env) in
/-- No call fails, and together they add the records that were written. -/
theorem exists_writeAll (reports : List Report) (files : FileTree) :
    ∃ written : List Bool, written.length = reports.length ∧
      (writeAll env reports files).1 = written.map .ok ∧
      Appends env (recorded reports written) files (writeAll env reports files).2 := by
  induction reports generalizing files with
  | nil => exact ⟨[], rfl, rfl, .refl files⟩
  | cons report rest ih =>
      obtain ⟨answer, between, performed, did⟩ := exists_perform_report env report files
      obtain ⟨written, length, answers, later⟩ := ih between
      refine ⟨answer :: written, congrArg Nat.succ length, ?_, ?_⟩
      · rw [writeAll, performed, List.map_cons, ← answers]
      · rw [writeAll, performed, recorded_cons]
        exact did.appends.trans later

/-- **The log is only ever added to, and adding to it does no harm.**  In a run of calls,
from any files and in any environment, every call succeeds; whatever stood anywhere goes on
to stand there, a log followed by the records that were written, in order; the rest is
directories on the way to the log, and the log itself, empty, where there was none and a
record was no string.  The next call adds one record, or nothing; it does add one where the
log can be opened and the record is a string, and then so will the calls after it. -/
theorem writeAll_appends_only (env : Environment) (reports : List Report) (files : FileTree) :
    ∃ (written : List Bool) (after : FileTree),
      writeAll env reports files = (written.map .ok, after) ∧
      written.length = reports.length ∧
      Appends env (recorded reports written) files after ∧
      (∀ location node, files.get? location = some node →
        after.get? location = some node ∨
          IsLog env location ∧ ∃ bytes, node = .file bytes ∧ after.get? location =
            some (.file (bytes ++
              (String.join (recorded reports written)).toUTF8.data.toList))) ∧
      ∀ report : Report, ∃ answer next,
        (report.write env).perform after = (.ok answer, next) ∧
        Written env report after answer next ∧
        report.text =
          report.stamp.time ++ "\n" ++
            (if report.command = "" then ("" : Text) else "raw=" ++ report.command ++ "\n") ++
            ("error=" ++ report.failure.kind ++ ": " ++ report.failure.message ++ "\n") ++
            ("traceback:" ++ "\n" ++ report.stamp.trace ++ "\n" ++ "----" ++ "\n") := by
  obtain ⟨written, length, answers, appends⟩ := exists_writeAll env reports files
  refine ⟨written, (writeAll env reports files).2, Prod.ext answers rfl, length, appends, ?_, ?_⟩
  · intro location node standing
    exact appends.get?_of_some standing
  · intro report
    obtain ⟨answer, next, performed, did⟩ :=
      exists_perform_report env report (writeAll env reports files).2
    exact ⟨answer, next, performed, did, record_eq _ _ _⟩

/-- A record that is no string is not written, but a log that was not there is there then. -/
theorem unwritten_record_leaves_empty_log :
    let env : Environment := { home := "/home", dataHome := some "data" }
    let log : Location := ["data", "stashell", "logs", "crash.log"]
    let report : Report := ⟨{}, .other "ValueError" "m", .broken "abc" 0x4ff ""⟩
    ∃ after, writeAll env [report] {} = ([.ok false], after) ∧ report.text.string? = none ∧
      ({} : FileTree).get? log = none ∧ after.get? log = some (.file []) := by
  intro env log report
  exact ⟨(writeAll env [report] {}).2, Prod.ext rfl rfl, rfl, rfl, rfl⟩

/-- A log that is no text is added to as it is, and a file beside it stays. -/
theorem writeAll_appends_only_damaged :
    let env : Environment := { home := "/home", dataHome := some "data" }
    let log : Location := ["data", "stashell", "logs", "crash.log"]
    let files : FileTree :=
      ⟨[(["data"], .directory), (["data", "stashell"], .directory),
        (["data", "stashell", "logs"], .directory), (log, .file [0xff]),
        (["notes"], .file [0x61])]⟩
    let report : Report := ⟨{}, .exhausted, "go"⟩
    let written := "<timestamp>\nraw=go\nerror=StopIteration: \ntraceback:\n<traceback>\n\n----\n"
    OpenAt env files log ∧ ∃ after,
      writeAll env [report] files = ([.ok true], after) ∧
      after.get? log = some (.file ([0xff] ++ written.toUTF8.data.toList)) ∧
      after.get? ["notes"] = some (.file [0x61]) := by
  intro env log files report written
  have isOpen : OpenAt env files log :=
    ⟨⟨Path.ofString "data", rfl, ⟨["data"], rfl, rfl⟩,
      ⟨["data", "stashell", "logs"], rfl, rfl⟩, rfl⟩, by decide⟩
  obtain ⟨_, start, nothing, -, -, -, next⟩ := writeAll_appends_only env [] files
  obtain rfl : files = start := congrArg Prod.snd nothing
  obtain ⟨answer, after, performed, did, -⟩ := next report
  have isString : report.text = written := by decide +kernel
  obtain rfl : answer = true := by rw [did.writes log isOpen, isString]; rfl
  have ran : writeAll env [report] files = ([.ok true], after) := by
    simp only [writeAll, performed]
  have added : Appends env [written] files after := by
    have added := did.appends
    rwa [isString] at added
  cases added with
  | strings isLog _ standing elsewhere =>
      obtain rfl := isLog.unique ⟨Path.ofString "data", rfl, rfl⟩
      rw [String.join_cons, String.join_nil, String.append_empty] at standing
      exact ⟨isOpen, after, ran, standing, (elsewhere ["notes"] (by decide)).get?_of_some rfl⟩

/-- A file stands where a directory of the log should be.  By then a directory on the way to
the data root has been made. -/
example :
    let files : FileTree := ⟨[(["old"], .directory), (["old", "stashell"], .file [0xff])]⟩
    writeAll { home := "/home", dataHome := some "new/../old" } [⟨{}, .exhausted, "go"⟩] files =
      ([.ok false], files.put ["new"] .directory) := by rfl

end CommandShell.CrashLog
