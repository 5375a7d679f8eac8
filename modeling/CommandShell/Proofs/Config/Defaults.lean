/-
# What a file of defaults may hold

A mapping is taken as it is.  Any other value is refused, but for those that count as
false: they are taken for a mapping without entries.  That is meant for a document with
nothing in it, and lets every empty list and every zero pass as well.
-/

import CommandShell.Config.Defaults
import CommandShell.Config.Document
import CommandShell.Proofs.FileTree.Places

namespace CommandShell.Config

namespace Loader

variable {loader : Loader} {name : String} {value : loader.Loaded}

/-- A mapping stands for itself, also if it is empty and so counts as false. -/
theorem defaultsOf_of_isMapping (mapping : loader.isMapping value = true) :
    loader.defaultsOf name value = .ok value := by
  cases truth : loader.truth value with
  | true => simp [defaultsOf, truth, mapping]
  | false =>
      obtain rfl := loader.eq_empty_of_isMapping mapping truth
      simp [defaultsOf, truth, mapping]

theorem defaultsOf_of_untrue (untrue : loader.truth value = false) :
    loader.defaultsOf name value = .ok loader.empty := by
  simp [defaultsOf, untrue, loader.isMapping_empty]

theorem defaultsOf_of_not_mapping (isTrue : loader.truth value = true)
    (noMapping : loader.isMapping value = false) :
    loader.defaultsOf name value = .error (.notMapping name) := by
  simp [defaultsOf, isTrue, noMapping]

/-! ## Reading a file -/

variable {files : FileTree} {directory : Path} {bytes : List UInt8}

/-- A file that is there and can be read is judged by its value. -/
theorem loadDefaults_of_read
    (there : files.read (directory.join (Path.ofString name)) = .ok bytes)
    (reads : loader.load (directory.join (Path.ofString name)).text bytes = .ok value) :
    loader.loadDefaults files directory name = loader.defaultsOf name value := by
  simp [loadDefaults, FileTree.isThere_of_read there, there, reads, bind, Except.bind]

theorem loadDefaults_of_not_there
    (absent : files.isThere (directory.join (Path.ofString name)) = .ok false) :
    loader.loadDefaults files directory name = .error (.missingDefaults name directory.text) := by
  simp [loadDefaults, absent, bind, Except.bind, throw, throwThe, MonadExceptOf.throw]

theorem loadDefaults_of_refused {refusal : Refusal}
    (refused : files.isThere (directory.join (Path.ofString name)) = .error refusal) :
    loader.loadDefaults files directory name = .error (.file refusal) := by
  simp [loadDefaults, refused, bind, Except.bind]

end Loader

/-- **What becomes of a file of defaults**, whatever loader reads it.  A mapping stands for
itself.  A value that counts as false stands for the empty mapping; the value of a document
with nothing in it is one of these.  Every other value is refused.  A file that is not there
is reported as missing, unless its name is too long to be looked up. -/
theorem loadDefaults_outcome (loader : Loader) (files : FileTree) (directory : Path)
    (name : String) :
    let path := directory.join (Path.ofString name)
    let loaded := loader.loadDefaults files directory name
    (∀ bytes value, files.read path = .ok bytes → loader.load path.text bytes = .ok value →
      (loader.isMapping value = true → loaded = .ok value) ∧
      (loader.truth value = false → loaded = .ok loader.empty) ∧
      (value = loader.null → loaded = .ok loader.empty) ∧
      (loader.truth value = true → loader.isMapping value = false →
        ∃ failure, loaded = .error failure ∧ failure.kind = "ValueError" ∧
          failure.message = "Defaults YAML " ++ name ++ " must load to a mapping/dict.")) ∧
    (files.IsAbsent path →
      (∃ failure, loaded = .error failure ∧ failure.kind = "FileNotFoundError" ∧
        failure.message =
          "Missing defaults YAML: " ++ name ++ " (looked in " ++ directory.text ++ ")") ∨
      ∃ place, files.resolve path = .error (.system .nameTooLong place) ∧
        loaded = .error (.file (.system .nameTooLong place))) := by
  intro path loaded
  constructor
  · intro bytes value there reads
    have judged : loaded = loader.defaultsOf name value := Loader.loadDefaults_of_read there reads
    rw [judged]
    refine ⟨Loader.defaultsOf_of_isMapping, Loader.defaultsOf_of_untrue, ?_, ?_⟩
    · rintro rfl
      exact Loader.defaultsOf_of_untrue loader.truth_null
    · intro isTrue noMapping
      exact ⟨_, Loader.defaultsOf_of_not_mapping isTrue noMapping, rfl, rfl⟩
  · intro absent
    rcases absent.isThere_eq with no | ⟨place, tooLong, refused⟩
    · exact .inl ⟨_, Loader.loadDefaults_of_not_there no, rfl, rfl⟩
    · exact .inr ⟨place, tooLong, Loader.loadDefaults_of_refused refused⟩

/-- A truth value is refused, a comment is an empty mapping, and a name under which there is
no file is reported as missing. -/
theorem loadDefaults_outcome_samples :
    let shelf : FileTree :=
      ⟨[(["shelf"], .directory), (["shelf", "flag"], .file (TextFile.encode "true")),
        (["shelf", "note"], .file (TextFile.encode "# none"))]⟩
    let load := Document.loader.loadDefaults shelf (Path.ofString "shelf")
    (∃ failure, load "flag" = .error failure ∧ failure.kind = "ValueError" ∧
      failure.message = "Defaults YAML flag must load to a mapping/dict.") ∧
    load "note" = .ok Document.loader.empty ∧
    ∃ failure, load "gone" = .error failure ∧ failure.kind = "FileNotFoundError" := by
  intro shelf load
  have outcome := loadDefaults_outcome Document.loader shelf (Path.ofString "shelf")
  refine ⟨?_, ?_, ?_⟩
  · have there : shelf.read ((Path.ofString "shelf").join (Path.ofString "flag")) =
        .ok (TextFile.encode "true") := by rfl
    have reads : Document.loader.load ((Path.ofString "shelf").join (Path.ofString "flag")).text
        (TextFile.encode "true") = .ok (Value.bool true) := by rfl
    exact ((outcome "flag").1 _ _ there reads).2.2.2 rfl rfl
  · have there : shelf.read ((Path.ofString "shelf").join (Path.ofString "note")) =
        .ok (TextFile.encode "# none") := by rfl
    have reads : Document.loader.load ((Path.ofString "shelf").join (Path.ofString "note")).text
        (TextFile.encode "# none") = .ok Value.null := by rfl
    exact ((outcome "note").1 _ _ there reads).2.2.1 rfl
  · have nothing : shelf.IsAbsent ((Path.ofString "shelf").join (Path.ofString "gone")) := by
      intro location led
      obtain rfl : ["shelf", "gone"] = location := Except.ok.inj led
      rfl
    rcases (outcome "gone").2 nothing with ⟨failure, refused, kind, -⟩ | ⟨place, tooLong, -⟩
    · exact ⟨failure, refused, kind⟩
    · cases tooLong

/-- The empty list is no mapping, and is taken for one. -/
theorem emptyList_taken_for_mapping :
    let shelf : FileTree :=
      ⟨[(["defaults"], .directory),
        (["defaults", "x.yaml"], .file (TextFile.encode "[]"))]⟩
    let path := (Path.ofString "defaults").join (Path.ofString "x.yaml")
    let loaded := Document.loader.loadDefaults shelf (Path.ofString "defaults") "x.yaml"
    shelf.read path = .ok (TextFile.encode "[]") ∧
      Document.loader.load path.text (TextFile.encode "[]") = .ok (Value.list []) ∧
      Document.loader.isMapping (Value.list []) = false ∧
      Document.loader.null ≠ Value.list [] ∧
      loaded = .ok Document.loader.empty ∧
      ∀ failure, loaded ≠ .error failure := by
  intro shelf path loaded
  have taken : loaded = .ok Document.loader.empty := by rfl
  refine ⟨by rfl, by rfl, by rfl, Value.noConfusion, taken, ?_⟩
  intro failure refused
  rw [taken] at refused
  cases refused

end CommandShell.Config
