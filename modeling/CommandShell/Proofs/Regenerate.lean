/-
# The module that is regenerated

Where the script of a source tree can be read and the module can be written, a run always
succeeds: fragments decode to the script that they were made from, so the check before the
module is written cannot fail.  The module is all that is changed, and the script can be
read back from it, line by line.  The script itself is left alone, so that another run
finds what the first one found.  In any other case nothing is written.
-/

import CommandShell.Regenerate
import CommandShell.Proofs.FileTree.Places
import CommandShell.Proofs.Payload.Module

namespace CommandShell

open CommandShell.Text

theorem TextFile.read_eq_ok_iff {files : FileTree} {path : Path} {source : String} :
    TextFile.read files path = .ok source ↔
      ∃ text, files.read path = .ok (Utf8.encode text) ∧
        source = String.ofList (unifyNewlines text) := by
  rw [TextFile.read]
  cases there : files.read path with
  | error refusal => simp [bind, Except.bind]
  | ok bytes =>
      have bound : (TextFile.refuse (.ok bytes) >>= TextFile.decode) = TextFile.decode bytes := rfl
      rw [bound, TextFile.decode]
      cases decoded : Utf8.decode bytes with
      | error fault =>
          simp only [reduceCtorEq, false_iff, not_exists, not_and]
          rintro text same
          rw [Except.ok.inj same, Utf8.decode_encode] at decoded
          cases decoded
      | ok text =>
          obtain rfl := Utf8.decode_eq_ok_iff.mp decoded
          constructor
          · intro same
            exact ⟨text, rfl, (Except.ok.inj same).symm⟩
          · rintro ⟨other, same, rfl⟩
            have again : Utf8.decode (Utf8.encode other) = .ok other := Utf8.decode_encode other
            rw [← Except.ok.inj same, decoded] at again
            rw [Except.ok.inj again]

namespace Regenerate

variable {root : Path} {files : FileTree}

/-- The script of a source tree. -/
def script (root : Path) : Path :=
  root.join (Path.ofString scriptName)

/-- The module of a source tree. -/
def target (root : Path) : Path :=
  root.join (Path.ofString moduleName)

/-- The script can be read as text, and the directory of the module is there, with no
directory in the module's place. -/
structure IsReady (root : Path) (files : FileTree) (text : List Char) : Prop where
  script : files.read (script root) = .ok (Utf8.encode text)
  directory : files.LeadsToDirectory (target root).parent
  free : files.isDirectory (target root) = .ok false

/-- The fragments of a script that has been read. -/
def fragments (text : List Char) : List String :=
  Payload.encode Payload.fragmentBytes (String.ofList (unifyNewlines text))

/-- The text of the module for a script that has been read. -/
def moduleText (text : List Char) : String :=
  Payload.renderModule (fragments text) scriptName

/-! ## The two paths -/

theorem names_script (root : Path) :
    (script root).names = (root.names ++ ["tcl"]) ++ ["init.tcl"] := by
  have name : Path.ofString scriptName = ⟨.relative, ["tcl", "init.tcl"]⟩ := by decide
  rw [script, name, Path.join, List.append_assoc]
  rfl

theorem names_target (root : Path) :
    (target root).names = (root.names ++ ["src", "stashell"]) ++ ["tcl_inits.py"] := by
  have name : Path.ofString moduleName = ⟨.relative, ["src", "stashell", "tcl_inits.py"]⟩ := by
    decide
  rw [target, name, Path.join, List.append_assoc]
  rfl

theorem isWritable_target_iff :
    files.IsWritable (target root) ↔
      files.LeadsToDirectory (target root).parent ∧ files.isDirectory (target root) = .ok false :=
  FileTree.isWritable_iff (names_target root) (by decide) (by decide)

/-! ## A run -/

theorem fragmentsOf_eq (source : String) :
    fragmentsOf source = some (Payload.encode Payload.fragmentBytes source) := by
  rw [fragmentsOf]
  simp only [Payload.decode_encode, if_true]

/-- What is said of a module that has been written. -/
def report (text : List Char) : Event :=
  .output ("Wrote " ++ toString (fragments text).length ++ " fragments to " ++ moduleName)

section Ready

variable {text : List Char} {location : Location}

theorem IsReady.exists_location (ready : IsReady root files text) :
    ∃ location, files.resolve (target root) = .ok location ∧
      files.get? location ≠ some .directory :=
  isWritable_target_iff.mpr ⟨ready.directory, ready.free⟩

/-- A run on a tree that is ready puts the module in its place. -/
theorem IsReady.run_eq (ready : IsReady root files text)
    (led : files.resolve (target root) = .ok location)
    (free : files.get? location ≠ some .directory) :
    run root files = (.ok 0, [report text],
      files.put location (.file (TextFile.encode (moduleText text)))) := by
  have source : TextFile.read files (root.join (Path.ofString scriptName)) =
      .ok (String.ofList (unifyNewlines text)) :=
    TextFile.read_eq_ok_iff.mpr ⟨text, ready.script, rfl⟩
  have written : files.write (root.join (Path.ofString moduleName))
      (TextFile.encode (moduleText text)) =
        .ok (files.put location (.file (TextFile.encode (moduleText text)))) :=
    FileTree.write_eq_ok_iff.mpr ⟨location, led, free, rfl⟩
  rw [moduleText, fragments] at written
  rw [run, source]
  simp only [fragmentsOf_eq, TextFile.write, written, TextFile.refuse_ok]
  rfl

/-- The script stands elsewhere, so a tree that is ready stays so. -/
theorem IsReady.put (ready : IsReady root files text)
    (led : files.resolve (target root) = .ok location)
    (free : files.get? location ≠ some .directory) (bytes : List UInt8) :
    IsReady root (files.put location (.file bytes)) text := by
  have leads := FileTree.resolve_put led free (.file bytes)
  have standing := files.get?_put_self (.file bytes) (FileTree.isBase_eq_false free)
  have writable : (files.put location (.file bytes)).IsWritable (target root) :=
    ⟨location, leads, by simp [standing]⟩
  obtain ⟨directory, stillFree⟩ := isWritable_target_iff.mp writable
  obtain ⟨place, scriptLed, found⟩ := FileTree.read_eq_ok_iff.mp ready.script
  -- Wherever the directories are, the last names tell the two places apart.
  have elsewhere : place ≠ location :=
    FileTree.resolve_ne (names_script root) (names_target root) (by decide) (by decide)
      (by decide) scriptLed led
  refine ⟨?_, directory, stillFree⟩
  rw [FileTree.read_put_of_ne scriptLed free elsewhere, ready.script]

end Ready

/-- A tree that is not ready is left as it is. -/
theorem exists_failure (unready : ∀ text, ¬ IsReady root files text) :
    ∃ failure, run root files = (.error failure, [], files) := by
  rw [run]
  cases reading : TextFile.read files (root.join (Path.ofString scriptName)) with
  | error failure => exact ⟨failure, rfl⟩
  | ok source =>
      simp only [fragmentsOf_eq, TextFile.write]
      cases writing : files.write (root.join (Path.ofString moduleName)) (TextFile.encode
          (Payload.renderModule (Payload.encode Payload.fragmentBytes source) scriptName)) with
      | error refusal => exact ⟨.file refusal, rfl⟩
      | ok written =>
          obtain ⟨text, there, -⟩ := TextFile.read_eq_ok_iff.mp reading
          obtain ⟨location, led, noDirectory, -⟩ := FileTree.write_eq_ok_iff.mp writing
          obtain ⟨directory, free⟩ := isWritable_target_iff.mp ⟨location, led, noDirectory⟩
          exact absurd ⟨there, directory, free⟩ (unready text)

/-! ## The module -/

theorem not_mem_moduleText (text : List Char) : '\r' ∉ (moduleText text).toList :=
  Payload.not_mem_renderModule (by decide) fun _ => Payload.isOneLine_of_mem_encode

theorem fragmentsIn?_moduleText (text : List Char) :
    Payload.fragmentsIn? (moduleText text) = some (fragments text) :=
  Payload.fragmentsIn?_renderModule (by decide) fun _ => Payload.isOneLine_of_mem_encode

/-- **A regenerated module is faithful to its script.**  On every tree that is ready a run
succeeds and changes nothing but the module, from which the fragments can be read back; they
decode to the script with its line endings unified, and running it again leaves every file as
it is.  On any other tree the run fails, and leaves everything as it was. -/
theorem regenerated_module_faithful (root : Path) (files : FileTree) :
    (∀ text, IsReady root files text → ∃ written location,
      run root files = (.ok 0, [report text], written) ∧
      files.resolve (target root) = .ok location ∧
      (∀ other, other ≠ location → written.get? other = files.get? other) ∧
      written.read (target root) = .ok (TextFile.encode (moduleText text)) ∧
      TextFile.read written (target root) = .ok (moduleText text) ∧
      Payload.fragmentsIn? (moduleText text) = some (fragments text) ∧
      Payload.decode (fragments text) = .ok (String.ofList (unifyNewlines text)) ∧
      ∃ again, run root written = (.ok 0, [report text], again) ∧
        again.read (target root) = written.read (target root) ∧
        ∀ place, again.get? place = written.get? place) ∧
    ((∀ text, ¬ IsReady root files text) →
      ∃ failure, run root files = (.error failure, [], files)) := by
  refine ⟨fun text ready => ?_, exists_failure⟩
  obtain ⟨location, led, free⟩ := ready.exists_location
  have isFile := FileTree.isBase_eq_false free
  let bytes := TextFile.encode (moduleText text)
  let written := files.put location (.file bytes)
  have standing : written.get? location = some (.file bytes) := files.get?_put_self _ isFile
  have ledAgain : written.resolve (target root) = .ok location :=
    FileTree.resolve_put led free (.file bytes)
  have freeAgain : written.get? location ≠ some .directory := by simp [standing]
  have unchanged : ∀ place,
      (written.put location (.file bytes)).get? place = written.get? place := by
    intro place
    by_cases here : place = location
    · rw [here, standing]
      exact written.get?_put_self _ isFile
    · exact written.get?_put_of_ne _ here
  have readBack : written.read (target root) = .ok bytes :=
    FileTree.read_eq_ok_iff.mpr ⟨location, ledAgain, standing⟩
  have asText : TextFile.read written (target root) = .ok (moduleText text) :=
    TextFile.read_eq_ok_iff.mpr ⟨_, readBack, by
      rw [unifyNewlines_of_not_mem (not_mem_moduleText text), String.ofList_toList]⟩
  have readAgain : (written.put location (.file bytes)).read (target root) = .ok bytes :=
    FileTree.read_eq_ok_iff.mpr ⟨location, FileTree.resolve_put ledAgain freeAgain _,
      (unchanged location).trans standing⟩
  exact ⟨written, location, ready.run_eq led free, led,
    fun other elsewhere => files.get?_put_of_ne _ elsewhere,
    readBack, asText, fragmentsIn?_moduleText text, Payload.decode_encode _ _,
    written.put location (.file bytes), (ready.put led free bytes).run_eq ledAgain freeAgain,
    readAgain.trans readBack.symm, unchanged⟩

/-- A source tree with line endings of all kinds in its script, and no module yet. -/
def mixedEndings : FileTree where
  nodes := [
    (["repo"], .directory), (["repo", "tcl"], .directory), (["repo", "src"], .directory),
    (["repo", "src", "stashell"], .directory),
    (["repo", "tcl", "init.tcl"], .file (Utf8.encode "puts \"é\"\r\nexit\r\r\n".toList))]

/-- A tree where the directory of the module is missing. -/
def noDirectory : FileTree where
  nodes := [
    (["repo"], .directory), (["repo", "tcl"], .directory),
    (["repo", "tcl", "init.tcl"], .file [0x70])]

theorem regenerated_module_faithful_mixedEndings :
    let root : Path := ⟨.relative, ["repo"]⟩
    let text := "puts \"é\"\r\nexit\r\r\n".toList
    IsReady root mixedEndings text ∧
      (∃ written, run root mixedEndings = (.ok 0, [report text], written) ∧
        (∀ other, other ≠ ["repo", "src", "stashell", "tcl_inits.py"] →
          written.get? other = mixedEndings.get? other) ∧
        TextFile.read written (target root) = .ok (moduleText text) ∧
        Payload.fragmentsIn? (moduleText text) = some (fragments text) ∧
        Payload.decode (fragments text) = .ok "puts \"é\"\nexit\n\n" ∧
        ∃ again, run root written = (.ok 0, [report text], again) ∧
          again.read (target root) = written.read (target root)) ∧
      (∀ text, ¬ IsReady root noDirectory text) ∧
      ∃ failure, run root noDirectory = (.error failure, [], noDirectory) := by
  intro root text
  have ready : IsReady root mixedEndings text :=
    ⟨rfl, FileTree.isDirectory_eq_true_iff.mp rfl, rfl⟩
  have unready : ∀ text, ¬ IsReady root noDirectory text := by
    rintro text ⟨-, directory, -⟩
    have missing : noDirectory.isDirectory (target root).parent = .ok false := rfl
    rw [FileTree.isDirectory_eq_true_iff.mpr directory] at missing
    cases missing
  have faithful := regenerated_module_faithful root mixedEndings
  obtain ⟨written, location, runs, led, others, -, readBack, readable, decoded, again, runsAgain,
    same, -⟩ := faithful.1 text ready
  have there : mixedEndings.resolve (target root) =
      .ok ["repo", "src", "stashell", "tcl_inits.py"] := rfl
  obtain rfl : ["repo", "src", "stashell", "tcl_inits.py"] = location :=
    Except.ok.inj (there.symm.trans led)
  have source : String.ofList (unifyNewlines text) = "puts \"é\"\nexit\n\n" := by decide
  rw [source] at decoded
  exact ⟨ready, ⟨written, runs, others, readBack, readable, decoded, again, runsAgain, same⟩,
    unready, (regenerated_module_faithful root noDirectory).2 unready⟩

end Regenerate

end CommandShell
