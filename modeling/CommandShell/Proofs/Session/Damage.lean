/-
# Damaged files

A file that the file system does not give is a failure of the evaluation: it is reported,
and the session goes on to its conversation.  A damaged one, be it the user's init file
or the file given at launch, is raised instead, and nobody is there to take it: the run
is over where it stands, before any line has been asked for, with the history not saved
and the interpreter not released.
-/

import CommandShell.Proofs.Session.Steady

namespace CommandShell.Session

open Act Host

variable (setup : Setup)

/-! ## What files raise -/

/-- What the user's init file raises: it cannot be located, or it is damaged. -/
def initTrouble? (session : Session) : Option Failure :=
  if setup.args.hasFlag "-no_init" then none
  else match Config.initPath setup.config setup.environment with
    | .error failure => some failure
    | .ok path =>
      match session.files.isFile path with
      | .error refusal => some (.file refusal)
      | .ok true => TextFile.damage? session.files path
      | .ok false => none

/-- What the file given at launch raises, if there is one. -/
def launchTrouble? (session : Session) : Option Failure :=
  (setup.args.value? "-f").bind fun file =>
    TextFile.damage? session.files (Path.ofString file)

theorem perform_source_of_damage {session : Session} {path : Path} {failure : Failure}
    (damaged : TextFile.damage? session.files path = some failure) :
    (source path).perform session = (.error failure, session) := by
  have raised : (onHost (Evaluator.sourceFile session.files path true true)).perform session =
      (.error failure, session) :=
    perform_onHost (Evaluator.perform_sourceFile_of_damage damaged)
  rw [source, perform_bind_of_ok (perform_get session), perform_bind_of_error raised]

/-- A file that the file system does not give is reported. -/
theorem perform_source_of_fault {session : Session} {path place : Path} {error : SystemError}
    (refused : session.files.read path = .error (.system error place)) :
    (source path).perform session =
      (.ok (), session.taking [.errorLine (Evaluator.unreadable path error).text] []) := by
  have valued : (onHost (Evaluator.sourceFile session.files path true true)).perform session =
      (.ok (Evaluator.unreadable path error), session) :=
    perform_onHost (Evaluator.perform_sourceFile_of_fault refused)
  have reported : (Evaluator.unreadable path error).report? =
      some (Evaluator.unreadable path error).text := by
    simp [Evaluator.unreadable, Outcome.report?, Outcome.text]
  rw [source, perform_bind_of_ok (perform_get session), perform_bind_of_ok valued, report, reported]
  exact perform_emitAll _ session

/-- The init file is looked for unless the launch forbids it, and evaluated if it is
there. -/
theorem perform_runInitFile (session : Session) :
    (runInitFile setup).perform session =
      if setup.args.hasFlag "-no_init" then (.ok (), session)
      else match Config.initPath setup.config setup.environment with
        | .error failure => (.error failure, session)
        | .ok path =>
          match session.files.isFile path with
          | .error refusal => (.error (.file refusal), session)
          | .ok true => (source path).perform session
          | .ok false =>
            (.ok (), session.taking [.diagnostic .shell ("no init file at " ++ path.text)] []) := by
  rw [runInitFile]
  split
  · rfl
  rw [sourceInitFile]
  cases Config.initPath setup.config setup.environment with
  | error failure => rw [perform_bind_of_error (perform_lift _ session)]
  | ok path =>
      rw [perform_bind_of_ok (perform_lift _ session), perform_bind_of_ok (perform_get session)]
      cases found : session.files.isFile path with
      | error refusal =>
          rw [TextFile.refuse_error, perform_bind_of_error (perform_lift _ session)]
          simp only [found]
      | ok isFile =>
          rw [TextFile.refuse_ok, perform_bind_of_ok (perform_lift _ session)]
          cases isFile with
          | true => simp only [found, if_pos]
          | false =>
              simp only [found]
              exact perform_emitAll _ session

theorem perform_runInitFile_of_trouble {session : Session} {failure : Failure}
    (trouble : initTrouble? setup session = some failure) :
    (runInitFile setup).perform session = (.error failure, session) := by
  rw [initTrouble?] at trouble
  rw [perform_runInitFile]
  split at trouble
  · cases trouble
  next allowed =>
    rw [if_neg allowed]
    split at trouble
    · cases trouble
      rfl
    · split at trouble
      · cases trouble
        rfl
      · exact perform_source_of_damage trouble
      · cases trouble

theorem exists_perform_runInitFile {session : Session}
    (sound : initTrouble? setup session = none) (steady : Steady session) :
    ∃ after, (runInitFile setup).perform session = (.ok (), after) ∧ Steady after := by
  rw [initTrouble?] at sound
  rw [perform_runInitFile]
  split at sound
  next forbidden =>
    rw [if_pos forbidden]
    exact ⟨session, rfl, steady⟩
  next allowed =>
    rw [if_neg allowed]
    split at sound
    · cases sound
    · split at sound
      · cases sound
      · exact exists_perform_source sound steady
      · exact ⟨_, rfl, steady.of_eq rfl rfl (readings_taking _ _ _)⟩

/-! ## The parts before the conversation -/

/-- The command given at launch is evaluated, if there is one and the session has not
ended. -/
def runLaunchCommand : SessionM Unit := do
  if ← isTerminated then return
  else match setup.args.value? "-x" with
    | some command => evaluate command
    | none => return

/-- The file given at launch is evaluated, if there is one and the session has not
ended. -/
def runLaunchFile : SessionM Unit := do
  if ← isTerminated then return else sourceLaunchFile setup

theorem perform_runLaunchFile (session : Session) :
    (runLaunchFile setup).perform session =
      if session.host.terminated then (.ok (), session)
      else (sourceLaunchFile setup).perform session :=
  perform_unlessTerminated _ session

/-- The two one-shots are the command and the file, each unless the session has ended. -/
theorem perform_runOneShots (session : Session) :
    (runOneShots setup).perform session =
      (runLaunchCommand setup >>= fun _ => runLaunchFile setup).perform session := by
  rw [runOneShots_eq, perform_unlessTerminated, perform_bind, runLaunchCommand,
    perform_unlessTerminated]
  cases ended : session.host.terminated with
  | true => simp [perform_runLaunchFile, ended]
  | false =>
      rw [if_neg Bool.false_ne_true, if_neg Bool.false_ne_true]
      cases setup.args.value? "-x" with
      | none => simp [perform_runLaunchFile, ended]
      | some command => exact perform_bind _ _ session

/-- Everything of the user before the file given at launch. -/
def untilLaunchFile : SessionM Unit := do
  runInitFile setup
  runLaunchCommand setup

theorem perform_untilPrompt_of_beginning {session ready shot : Session}
    (begun : (beginning setup).perform session = (.ok (), ready))
    (shots : (untilLaunchFile setup).perform ready = (.ok (), shot)) :
    (untilPrompt setup).perform session = (runLaunchFile setup).perform shot := by
  obtain ⟨_, between, initialized, commanded⟩ := perform_bind_eq_ok shots
  rw [untilPrompt_eq, perform_bind_of_ok begun, perform_bind_of_ok initialized,
    perform_runOneShots, perform_bind_of_ok commanded]

/-- The conversation has not begun: no line was asked for, read or entered, and no file
was changed. -/
structure Unopened (before after : Session) : Prop extends Confined before after where
  phase : after.phase = .bootstrapping
  unasked : Host.Records (·.prompt? = none) before.host after.host
  /-- The interpreter is not released. -/
  held : after.host.interpreter.isSome = true

theorem unasked_of_keeps {before after : Session} (h : Keeps Event.IsAside before after) :
    OnHost (Host.Records (·.prompt? = none)) before after := by
  obtain ⟨_, events, log, asides⟩ := h
  refine ⟨events, log, fun event member => ?_⟩
  have noPrompt := (asides event member).2
  cases event <;> first | rfl | exact absurd rfl (noPrompt _)

theorem unasked_enter (target : Phase) :
    Moves (OnHost (Host.Records (·.prompt? = none))) (enter target) := by
  intro session
  rw [perform_enter]
  split
  · exact ⟨_, rfl, by simp [Event.prompt?]⟩
  · exact refl_of (OnHost (Host.Records (·.prompt? = none))) session

theorem unopened_of_beginning {session ready : Session}
    (begun : (beginning setup).perform session = (.ok (), ready))
    (held : ready.host.interpreter.isSome = true) : Unopened session ready := by
  have confined : Moves Confined (beginning setup) := by
    apply (moves_start (confined_prepare setup) (confined_enter _)).bind
    intro _
    exact (confined_enter _).bind fun _ => confined_scripts.startUp setup
  have unasked : Moves (OnHost (Host.Records (·.prompt? = none))) (beginning setup) := by
    apply (moves_start ((stays_prepare setup).mono unasked_of_keeps) (unasked_enter _)).bind
    intro _
    apply (unasked_enter _).bind
    intro _
    exact (stays_scripts.startUp setup).mono unasked_of_keeps
  exact
    { toConfined := confined.of_perform begun
      phase := phase_of_beginning setup begun
      unasked := unasked.of_perform begun
      held }

theorem KeptByScripts.untilLaunchFile {R : Session → Session → Prop} [IsPreorder Session R]
    (kept : KeptByScripts R) : Moves R (untilLaunchFile setup) := by
  apply (kept.runInitFile setup).bind
  intro _
  refine moves_isTerminated.bind fun ended => ?_
  split
  · exact moves_pure _
  split
  · exact kept.evaluate _
  · exact moves_pure _

theorem Unopened.untilLaunchFile {session ready shot : Session} (unopened : Unopened session ready)
    (shots : (untilLaunchFile setup).perform ready = (.ok (), shot))
    (held : shot.host.interpreter.isSome = true) : Unopened session shot := by
  have kept := (stays_scripts.untilLaunchFile setup).of_perform shots
  exact
    { toConfined := trans_of Confined unopened.toConfined
        ((confined_scripts.untilLaunchFile setup).of_perform shots)
      phase := kept.1.trans unopened.phase
      unasked := trans_of _ unopened.unasked (unasked_of_keeps kept)
      held }

theorem exists_perform_untilLaunchFile {session : Session}
    (sound : initTrouble? setup session = none) (steady : Steady session) :
    ∃ shot, (untilLaunchFile setup).perform session = (.ok (), shot) ∧ Steady shot := by
  obtain ⟨between, initialized, steadyThen⟩ := exists_perform_runInitFile setup sound steady
  rw [untilLaunchFile, perform_bind_of_ok initialized, runLaunchCommand, perform_unlessTerminated]
  split
  · exact ⟨between, rfl, steadyThen⟩
  split
  · obtain ⟨_, shot, evaluated, steadyShot⟩ := succeeds_evaluate _ _ steadyThen
    exact ⟨shot, evaluated, steadyShot⟩
  · exact ⟨between, rfl, steadyThen⟩

/-- The file given at launch is damaged. -/
theorem perform_runLaunchFile_of_trouble {session : Session} {failure : Failure}
    (running : session.host.terminated = false)
    (trouble : launchTrouble? setup session = some failure) :
    (runLaunchFile setup).perform session = (.error failure, session) := by
  rw [launchTrouble?, Option.bind_eq_some_iff] at trouble
  obtain ⟨file, given, damaged⟩ := trouble
  rw [perform_runLaunchFile, running, if_neg Bool.false_ne_true, sourceLaunchFile, given]
  exact perform_source_of_damage damaged

/-- The file given at launch is not damaged, or the session has ended before it. -/
theorem exists_perform_runLaunchFile {session : Session} (steady : Steady session)
    (sound : session.host.terminated = true ∨ launchTrouble? setup session = none) :
    ∃ after, (runLaunchFile setup).perform session = (.ok (), after) ∧ Steady after := by
  rw [perform_runLaunchFile]
  split
  · exact ⟨session, rfl, steady⟩
  next running =>
    have undamaged := sound.resolve_left running
    rw [launchTrouble?, Option.bind_eq_none_iff] at undamaged
    rw [sourceLaunchFile]
    cases given : setup.args.value? "-f" with
    | none => exact ⟨session, rfl, steady⟩
    | some file => exact exists_perform_source (undamaged file given) steady

/-! ## The run -/

/-- A file at launch that the file system does not give is complained of, and the run goes
on. -/
theorem errorLine_mem_of_fault {shot launched : Session} {file : String}
    {error : SystemError} {place : Path}
    (launches : (runLaunchFile setup).perform shot = (.ok (), launched))
    (running : shot.host.terminated = false) (given : setup.args.value? "-f" = some file)
    (refused : shot.files.read (Path.ofString file) = .error (.system error place)) :
    .errorLine (Evaluator.unreadable (Path.ofString file) error).text ∈ launched.host.log := by
  rw [perform_runLaunchFile, running, if_neg Bool.false_ne_true, sourceLaunchFile,
    given] at launches
  have reported := perform_source_of_fault refused
  have same := launches.symm.trans reported
  cases same
  simp [taking]

section Run

variable {setup} {session ready shot : Session} {failure : Failure}
  (begun : (beginning setup).perform session = (.ok (), ready))

include begun

/-- Damage of the init file ends the run where the scripts of the user begin. -/
theorem perform_run_of_initTrouble (trouble : initTrouble? setup ready = some failure) :
    (run setup).perform session = (.error failure, ready) := by
  have stopped : (untilPrompt setup).perform session = (.error failure, ready) := by
    rw [untilPrompt_eq, perform_bind_of_ok begun,
      perform_bind_of_error (perform_runInitFile_of_trouble setup trouble)]
  rw [run_eq_untilPrompt, perform_bind_of_error stopped]

/-- Damage of the file given at launch ends the run where that file comes. -/
theorem perform_run_of_launchTrouble
    (shots : (untilLaunchFile setup).perform ready = (.ok (), shot))
    (running : shot.host.terminated = false)
    (trouble : launchTrouble? setup shot = some failure) :
    (run setup).perform session = (.error failure, shot) := by
  have stopped : (untilPrompt setup).perform session = (.error failure, shot) := by
    rw [perform_untilPrompt_of_beginning setup begun shots,
      perform_runLaunchFile_of_trouble setup running trouble]
  rw [run_eq_untilPrompt, perform_bind_of_error stopped]

end Run

/-- **A file raises its damage, and nothing else.**  Let evaluations raise errors of the
language only.  Then a file comes to an outcome exactly if its path is free of U+0000 and
its bytes, if there are any, are those of a text.  A fault of the file system is a failed
outcome, and nothing is evaluated or shown.  What is raised instead is the damage, and
the host is left as it was.

Let such a session, in which nothing has been entered, have come to the scripts of the
user, with readings that are usual and a history path that a file system takes.  If the
init file is in trouble, the run is over with that trouble, before any of these scripts.
Otherwise the session comes to the file given at launch.  If that is damaged, and no exit
has ended the session, the run is over with the damage.  In both cases the conversation
has not begun.  If it is not damaged, or passed over after an exit, the session comes to the
end of its conversation, and a file that the file system does not give has been complained
of.  Then the run succeeds and the conversation is completed, if the save of the history
meets nothing but faults of the file system; else the run is over with a line that has no
encoding. -/
theorem sourcing_raises_damage_only :
    (∀ (files : FileTree) (path : Path) (host : Host), host.RaisesErrorsOnly →
      ∀ echo verbose,
        let ended := (Evaluator.sourceFile files path echo verbose).perform host
        ((∃ outcome after, ended = (.ok outcome, after)) ↔
          path.hasNul = false ∧
            ∀ bytes, files.read path = .ok bytes →
              ∃ text : String, bytes = text.toUTF8.data.toList) ∧
        (∀ error place, files.read path = .error (.system error place) →
          ended = (.ok (Evaluator.unreadable path error), host)) ∧
        ∀ failure after, ended = (.error failure, after) → after = host ∧
          (path.hasNul = true ∧ failure = .file .nulInPath ∨
            ∃ bytes fault, files.read path = .ok bytes ∧
              Text.Utf8.decode bytes = .error fault ∧ failure = .undecodable fault)) ∧
    ∀ session ready : Session, session.editor.entries = [] →
      (beginning setup).perform session = (.ok (), ready) →
      ready.host.RaisesErrorsOnly →
      (∀ reading ∈ session.editor.readings, reading.isUsual = true) →
      (Config.historyPath setup.config).hasNul = false →
      let ended := (run setup).perform session
      (∀ failure, initTrouble? setup ready = some failure →
        ended = (.error failure, ready) ∧ Unopened session ready) ∧
      (initTrouble? setup ready = none →
        ∃ shot, (untilLaunchFile setup).perform ready = (.ok (), shot) ∧
          Unopened session shot ∧
          (∀ failure, shot.host.terminated = false → launchTrouble? setup shot = some failure →
            ended = (.error failure, shot)) ∧
          (shot.host.terminated = true ∨ launchTrouble? setup shot = none →
            ∃ launched talked, (runLaunchFile setup).perform shot = (.ok (), launched) ∧
              (untilSave setup).perform session = (.ok (), talked) ∧
              Converses setup launched talked ∧ talked.host.log <+: ended.2.host.log ∧
              (SavesButForFaults setup talked →
                ended.1 = .ok () ∧ Completes setup session talked ended.2) ∧
              (¬ SavesButForFaults setup talked →
                ∃ fault, ended.1 = .error (.unencodable fault) ∧ ended.2.phase = .terminating) ∧
              ∀ file error place, shot.host.terminated = false →
                setup.args.value? "-f" = some file →
                session.files.read (Path.ofString file) = .error (.system error place) →
                .errorLine (Evaluator.unreadable (Path.ofString file) error).text ∈
                  launched.host.log)) := by
  constructor
  · intro files path host raisesOnly echo verbose ended
    refine ⟨?_, fun error place refused => Evaluator.perform_sourceFile_of_fault refused, ?_⟩
    · exact (Evaluator.perform_sourceFile_eq_ok_iff raisesOnly).trans TextFile.damage?_eq_none_iff
    · intro failure after failed
      obtain ⟨damaged, same⟩ := (Evaluator.perform_sourceFile_eq_error_iff raisesOnly).mp failed
      exact ⟨same, TextFile.damage?_eq_some_iff.mp damaged⟩
  · intro session ready blank begun raisesOnly usual noNul ended
    have unopened := unopened_of_beginning setup begun raisesOnly.isSome
    have steady : Steady ready := ⟨raisesOnly, by rwa [unopened.readings]⟩
    refine ⟨fun failure trouble => ⟨perform_run_of_initTrouble begun trouble, unopened⟩, ?_⟩
    intro sound
    obtain ⟨shot, shots, steadyShot⟩ := exists_perform_untilLaunchFile setup sound steady
    have unopenedShot := unopened.untilLaunchFile setup shots steadyShot.raisesOnly.isSome
    refine ⟨shot, shots, unopenedShot, ?_, ?_⟩
    · intro failure running trouble
      exact perform_run_of_launchTrouble begun shots running trouble
    · intro undamaged
      obtain ⟨launched, launches, steadyThen⟩ :=
        exists_perform_runLaunchFile setup steadyShot undamaged
      have prompts := (perform_untilPrompt_of_beginning setup begun shots).trans launches
      obtain ⟨talked, talks, converses⟩ := exists_converses setup prompts steadyThen noNul
      obtain ⟨logged, completes, stops⟩ := ends_run_of_talked talks converses.phase blank noNul
      refine ⟨launched, talked, launches, talks, converses, logged, completes, stops, ?_⟩
      intro file error place running given refused
      rw [← unopenedShot.files] at refused
      exact errorLine_mem_of_fault setup launches running given refused

/-- A launch with a file. -/
def launching : Setup :=
  { sampleSetup with args := ⟨["sta", "-no_init", "-no_splash", "-f", "run.tcl"]⟩ }

/-- The user enters a line after the launch. -/
def launched (files : FileTree) : Session :=
  fresh {} sampleEngine (sampleEditor ["keep"]) files

/-- An interpreter that knows no script accepts every one. -/
theorem raisesErrorsOnly_of_blank {host : Host}
    (blank : host.interpreter.map (·.table.scripts) = some []) : host.RaisesErrorsOnly := by
  obtain ⟨interpreter, held, scripts⟩ := Option.map_eq_some_iff.mp blank
  refine Host.raisesErrorsOnly_of_plain held fun entry member => ?_
  rw [scripts] at member
  cases member

/-- Without the file the session completes its conversation. -/
theorem sourcing_raises_damage_only_missing :
    let ready := ((beginning launching).perform (launched {})).2
    (beginning launching).perform (launched {}) = (.ok (), ready) ∧
      ready.host.RaisesErrorsOnly ∧ initTrouble? launching ready = none ∧
      ∃ final, (run launching).perform (launched {}) = (.ok (), final) ∧ final.phase = .done ∧
        .errorLine "couldn't read file \"run.tcl\": no such file or directory" ∈
          final.host.log := by
  intro ready
  have begun := @perform_eq_of_isOk _ (beginning launching) (launched {}) (by decide +kernel)
  have raisesOnly : ready.host.RaisesErrorsOnly := raisesErrorsOnly_of_blank (by decide +kernel)
  have usual : ∀ reading ∈ (launched {}).editor.readings, reading.isUsual = true := by
    decide +kernel
  have sound : initTrouble? launching ready = none := rfl
  obtain ⟨shot, shots, _, _, through⟩ := ((sourcing_raises_damage_only launching).2 (launched {})
    ready rfl begun raisesOnly usual (by decide +kernel)).2 sound
  have same : shot = ((untilLaunchFile launching).perform ready).2 :=
    (congrArg Prod.snd shots).symm
  have undamaged : launchTrouble? launching shot = none := by
    rw [same]
    decide +kernel
  have running : shot.host.terminated = false := by
    rw [same]
    decide +kernel
  obtain ⟨afterLaunch, talked, _, talks, converses, logged, completes, _, reported⟩ :=
    through (.inr undamaged)
  have clean : SavesButForFaults launching talked := by
    have same : talked = ((untilSave launching).perform (launched {})).2 :=
      (congrArg Prod.snd talks).symm
    refine History.savesButForFaults_iff.mpr ⟨by decide +kernel, fun _ => ⟨["keep"], ?_⟩⟩
    rw [same]
    decide +kernel
  obtain ⟨ran, done⟩ := completes clean
  have complaint := reported "run.tcl" .notFound (Path.ofString "run.tcl") running rfl rfl
  have text : (Evaluator.unreadable (Path.ofString "run.tcl") .notFound).text =
      "couldn't read file \"run.tcl\": no such file or directory" := by
    decide +kernel
  rw [text] at complaint
  have ended := perform_eq_of_isOk (congrArg Except.isOk ran)
  have reportedIn := logged.subset (converses.logged.subset complaint)
  exact ⟨begun, raisesOnly, sound, _, ended, done.phase, reportedIn⟩

def damagedFile : FileTree where
  nodes := [(["run.tcl"], .file [0x61, 0xff])]

/-- With a file of bytes that are not UTF-8 the run is over at once, although the
interpreter raises only errors of the language. -/
theorem damaged_file_ends_session :
    let path : Path := ⟨.relative, ["run.tcl"]⟩
    let failure : Failure := .undecodable ⟨1, [0xff], .invalidStart⟩
    let ready := ((beginning launching).perform (launched damagedFile)).2
    let ended := (run launching).perform (launched damagedFile)
    ready.host.RaisesErrorsOnly ∧
      (Evaluator.sourceFile damagedFile path true true).perform ready.host =
        (.error failure, ready.host) ∧
      ended.1 = .error failure ∧ ended.2.phase = .bootstrapping ∧
      Event.prompts ended.2.host.log = [] ∧ ended.2.files = damagedFile ∧
      ended.2.host.interpreter.isSome = true := by
  intro path failure ready ended
  refine ⟨raisesErrorsOnly_of_blank (by decide +kernel), ?_, ?_, by decide +kernel,
    by decide +kernel, by decide +kernel, by decide +kernel⟩
  · exact Evaluator.perform_sourceFile_of_damage (by decide +kernel)
  · rfl

end CommandShell.Session
