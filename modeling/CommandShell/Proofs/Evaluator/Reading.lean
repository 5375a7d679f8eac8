/-
# How a file is taken up

Before any command of a file is evaluated the file is read.  A fault of the file system
is an outcome; a path with U+0000 in it and bytes that are not UTF-8 are failures, and
the file is damaged then.  Nothing is evaluated or shown in either case.  A file that can
be read is evaluated by an interpreter that is held, whatever was noted of exits before;
once the interpreter is released, only a file without lines comes to an outcome.
-/

import CommandShell.Proofs.FileTree
import CommandShell.Proofs.Host.Errors
import CommandShell.Proofs.Script.Cut
import CommandShell.Proofs.Text.Utf8

namespace CommandShell

namespace TextFile

open Text

/-- What a reader raises of a file, if it is anything but a fault of the file system. -/
def damage? (files : FileTree) (path : Path) : Option Failure :=
  match read files path with
  | .ok _ => none
  | .error (.file (.system _ _)) => none
  | .error failure => some failure

theorem read_of_bytes {files : FileTree} {path : Path} {bytes : List UInt8}
    (there : files.read path = .ok bytes) : read files path = decode bytes := by
  rw [read, there]
  rfl

theorem read_of_refusal {files : FileTree} {path : Path} {refusal : Refusal}
    (refused : files.read path = .error refusal) : read files path = .error (.file refusal) := by
  rw [read, refused]
  rfl

/-- A file is damaged in two ways only: by its path, or by its bytes. -/
theorem damage?_eq_some_iff {files : FileTree} {path : Path} {failure : Failure} :
    damage? files path = some failure ↔
      (path.hasNul = true ∧ failure = .file .nulInPath) ∨
      ∃ bytes fault, files.read path = .ok bytes ∧ Utf8.decode bytes = .error fault ∧
        failure = .undecodable fault := by
  rw [damage?, ← FileTree.read_eq_nulInPath_iff files]
  cases there : files.read path with
  | error refusal =>
      rw [read_of_refusal there]
      cases refusal <;> simp [eq_comm]
  | ok bytes =>
      rw [read_of_bytes there, decode]
      cases decoded : Utf8.decode bytes <;> simp [decoded, eq_comm]

/-- No file is damaged whose path is free of U+0000 and whose bytes, if there is such a
file, are those of a text. -/
theorem damage?_eq_none_iff {files : FileTree} {path : Path} :
    damage? files path = none ↔
      path.hasNul = false ∧
        ∀ bytes, files.read path = .ok bytes →
          ∃ text : String, bytes = text.toUTF8.data.toList := by
  constructor
  · intro sound
    constructor
    · cases nul : path.hasNul with
      | false => rfl
      | true =>
          have damaged : damage? files path = some (.file .nulInPath) :=
            damage?_eq_some_iff.mpr (.inl ⟨nul, rfl⟩)
          rw [sound] at damaged
          cases damaged
    · intro bytes there
      cases decoded : Utf8.decode bytes with
      | ok text =>
          refine ⟨String.ofList text, ?_⟩
          rw [← Utf8.encode_toList, String.toList_ofList]
          exact Utf8.decode_eq_ok_iff.mp decoded
      | error fault =>
          have damaged := damage?_eq_some_iff.mpr (.inr ⟨bytes, fault, there, decoded, rfl⟩)
          rw [sound] at damaged
          cases damaged
  · rintro ⟨noNul, isText⟩
    cases damaged : damage? files path with
    | none => rfl
    | some failure =>
        rcases damage?_eq_some_iff.mp damaged with ⟨nul, _⟩ | ⟨bytes, fault, there, decoded, _⟩
        · rw [noNul] at nul
          cases nul
        · obtain ⟨text, same⟩ := isText bytes there
          rw [← Utf8.encode_toList] at same
          rw [Utf8.decode_eq_ok_iff.mpr same] at decoded
          cases decoded

/-- A file that is not damaged can be read, or the file system reports a fault. -/
theorem exists_text_or_fault {files : FileTree} {path : Path}
    (sound : damage? files path = none) :
    (∃ text, read files path = .ok text) ∨
      ∃ error place, files.read path = .error (.system error place) := by
  obtain ⟨noNul, isText⟩ := damage?_eq_none_iff.mp sound
  cases there : files.read path with
  | ok bytes =>
      obtain ⟨text, same⟩ := isText bytes there
      rw [← Utf8.encode_toList] at same
      rw [read_of_bytes there, decode, Utf8.decode_eq_ok_iff.mpr same]
      exact .inl ⟨_, rfl⟩
  | error refusal =>
      cases refusal with
      | nulInPath =>
          rw [FileTree.read_eq_nulInPath_iff, noNul] at there
          cases there
      | system error place => exact .inr ⟨error, place, rfl⟩

end TextFile

namespace Evaluator

open Act Host

variable {files : FileTree} {path : Path} {echo verbose : Bool} {host : Host}

theorem perform_sourceFile_of_text {text : String} {interpreter : Interpreter}
    (readable : TextFile.read files path = .ok text)
    (held : host.interpreter = some interpreter) :
    (sourceFile files path echo verbose).perform host =
      (runCommands echo verbose (.success "")
        (Script.commands interpreter.table.complete text)).perform
          { host with exiting := false } := by
  have cut : (commandsIn text).perform { host with exiting := false } =
      (.ok (Script.commands interpreter.table.complete text), { host with exiting := false }) := by
    apply perform_commandsIn
    exact held
  rw [sourceFile, readable, perform_bind_of_ok (perform_setExiting _ _), perform_bind_of_ok cut]

theorem perform_sourceFile_of_fault {error : SystemError} {place : Path}
    (refused : files.read path = .error (.system error place)) :
    (sourceFile files path echo verbose).perform host = (.ok (unreadable path error), host) := by
  rw [sourceFile, TextFile.read_of_refusal refused]
  rfl

theorem perform_sourceFile_of_damage {failure : Failure}
    (damaged : TextFile.damage? files path = some failure) :
    (sourceFile files path echo verbose).perform host = (.error failure, host) := by
  rw [TextFile.damage?] at damaged
  cases reading : TextFile.read files path with
  | ok text =>
      rw [reading] at damaged
      cases damaged
  | error raised =>
      rw [reading] at damaged
      rw [sourceFile, reading]
      cases raised with
      | file refusal =>
          cases refusal with
          | nulInPath =>
              cases damaged
              rfl
          | system error place => cases damaged
      | _ =>
          cases damaged
          rfl

/-- Without an interpreter only a text without lines can be evaluated. -/
theorem perform_sourceFile_of_released {text : String}
    (readable : TextFile.read files path = .ok text) (released : host.interpreter = none) :
    (sourceFile files path echo verbose).perform host =
      (if (Text.lines text.toList).isEmpty then .ok (.success "") else .error .finalized,
        { host with exiting := false }) := by
  have cut : (commandsIn text).perform { host with exiting := false } =
      (if (Text.lines text.toList).isEmpty then .ok [] else .error .finalized,
        { host with exiting := false }) := by
    apply perform_commandsIn_of_released
    exact released
  rw [sourceFile, readable, perform_bind_of_ok (perform_setExiting _ _)]
  cases noLines : (Text.lines text.toList).isEmpty with
  | true =>
      rw [noLines] at cut
      exact perform_bind_of_ok cut _
  | false =>
      rw [noLines] at cut
      exact perform_bind_of_error cut _

/-- Without an interpreter no command is evaluated, and so nothing is shown. -/
theorem exists_perform_sourceFile_of_released (files : FileTree) (path : Path)
    (released : host.interpreter = none) :
    ∃ answer exiting, ∀ echo verbose,
      (sourceFile files path echo verbose).perform host = (answer, { host with exiting }) := by
  cases damaged : TextFile.damage? files path with
  | some failure =>
      exact ⟨_, host.exiting, fun _ _ => perform_sourceFile_of_damage damaged⟩
  | none =>
      rcases TextFile.exists_text_or_fault damaged with ⟨text, readable⟩ | ⟨error, place, refused⟩
      · exact ⟨_, false, fun _ _ => perform_sourceFile_of_released readable released⟩
      · exact ⟨_, host.exiting, fun _ _ => perform_sourceFile_of_fault refused⟩

/-- A host that raises only errors of the language comes to an outcome for every file that
is not damaged. -/
theorem exists_perform_sourceFile (sound : TextFile.damage? files path = none)
    (raisesOnly : host.RaisesErrorsOnly) (echo verbose : Bool) :
    ∃ outcome after, (sourceFile files path echo verbose).perform host = (.ok outcome, after) ∧
      after.RaisesErrorsOnly := by
  rcases TextFile.exists_text_or_fault sound with ⟨text, readable⟩ | ⟨error, place, refused⟩
  · have cleared : RaisesErrorsOnly { host with exiting := false } :=
      raisesOnly.of_continues (.of_eq rfl rfl)
    obtain ⟨interpreter, held⟩ := Option.isSome_iff_exists.mp raisesOnly.isSome
    rw [perform_sourceFile_of_text readable held]
    exact succeeds_runCommands echo verbose (.success "") _ _ cleared
  · exact ⟨_, host, perform_sourceFile_of_fault refused, raisesOnly⟩

/-- A host that raises only errors of the language raises damage, and nothing else of a
file. -/
theorem perform_sourceFile_eq_error_iff (raisesOnly : host.RaisesErrorsOnly) {failure : Failure}
    {after : Host} :
    (sourceFile files path echo verbose).perform host = (.error failure, after) ↔
      TextFile.damage? files path = some failure ∧ after = host := by
  cases damaged : TextFile.damage? files path with
  | some raised =>
      rw [perform_sourceFile_of_damage damaged]
      simp [eq_comm]
  | none =>
      obtain ⟨outcome, between, succeeds, _⟩ :=
        exists_perform_sourceFile damaged raisesOnly echo verbose
      simp [succeeds]

theorem perform_sourceFile_eq_ok_iff (raisesOnly : host.RaisesErrorsOnly) :
    (∃ outcome after, (sourceFile files path echo verbose).perform host = (.ok outcome, after)) ↔
      TextFile.damage? files path = none := by
  cases damaged : TextFile.damage? files path with
  | some raised => simp [perform_sourceFile_of_damage damaged]
  | none =>
      obtain ⟨outcome, after, succeeds, _⟩ :=
        exists_perform_sourceFile damaged raisesOnly echo verbose
      simp [succeeds]

end Evaluator

end CommandShell
