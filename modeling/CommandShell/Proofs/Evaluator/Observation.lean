/-
# Echo and results only show

However a file is asked to echo its commands and to show their results, its commands are
evaluated in the same way: an evaluation does not read the record, so what has been shown
before changes nothing.  The record of a file is then that of the quiet evaluation with
lines of output put in: a command before its events, and its result after them.
-/

import CommandShell.Proofs.Evaluator.Reading
import CommandShell.Proofs.Evaluator.Sourcing
import CommandShell.Proofs.Host.Mirrors

namespace CommandShell

/-- A line of output, as it is shown of a command or a result. -/
def Event.isOutput : Event → Bool
  | .output _ => true
  | _ => false

namespace Host

@[simp]
theorem showing_nil (host : Host) : host.showing [] = host := by
  simp [showing]

end Host

namespace Evaluator

open Act Host Event

namespace Trial

/-- The same command, taken up with another record. -/
def on (trial : Trial) (log : List Event) : Trial where
  command := trial.command
  before := { trial.before with log }

/-- What has been recorded before makes no difference to a command. -/
theorem perform_on (trial : Trial) (log : List Event) :
    (evaluateCommand (trial.on log).command).perform (trial.on log).before =
      (trial.answer, { trial.after with log := log ++ trial.events }) := by
  let Added (first second : List Event) : Prop :=
    ∃ events, first = trial.before.log ++ events ∧ second = log ++ events
  have grows : GrowsAlike Added := by
    rintro event own _ _ ⟨events, rfl, rfl⟩
    exact ⟨events ++ [event], List.append_assoc .., List.append_assoc ..⟩
  have start : Mirrors Added trial.before (trial.on log).before :=
    ⟨log, ⟨[], (List.append_nil _).symm, (List.append_nil _).symm⟩, rfl⟩
  obtain ⟨answer, after, _, ran, ran', _, ⟨events, added, rfl⟩, rfl⟩ :=
    blind_evaluateCommand grows trial.command _ _ start
  have same : trial.answer = answer := congrArg Prod.fst ran
  have left : trial.after = after := congrArg Prod.snd ran
  have recorded : trial.events = events := by
    rw [Trial.events, left, added, List.drop_left]
  have ranOn : (evaluateCommand (trial.on log).command).perform (trial.on log).before =
      (answer, { after with log := log ++ events }) := ran'
  rw [ranOn, same, left, recorded]

theorem answer_on (trial : Trial) (log : List Event) : (trial.on log).answer = trial.answer := by
  rw [answer, perform_on]

theorem after_on (trial : Trial) (log : List Event) :
    (trial.on log).after = { trial.after with log := log ++ trial.events } := by
  rw [after, perform_on]

theorem events_on (trial : Trial) (log : List Event) : (trial.on log).events = trial.events := by
  rw [events, after_on]
  exact List.drop_left

theorem verdict_on (trial : Trial) (log : List Event) : (trial.on log).verdict = trial.verdict := by
  rw [verdict, answer_on, events_on, ← verdict]

/-- If the file does not end with a command, the command has come to an outcome, and no
exit is noted after it. -/
theorem goes_on (trial : Trial) (cleared : trial.before.exiting = false)
    (verdict : trial.verdict = none) :
    ∃ outcome, trial.answer = .ok outcome ∧ trial.after.exiting = false := by
  rw [Trial.verdict] at verdict
  cases answered : trial.answer with
  | error failure => simp [answered] at verdict
  | ok outcome =>
      cases outcome with
      | failure text => simp [answered] at verdict
      | success text =>
          have unnoted : ¬trial.after.exiting = true := by
            simpa [answered, trial.exiting_after_iff cleared] using verdict
          exact ⟨_, rfl, Bool.eq_false_iff.mpr unnoted⟩

/-- The result of a command that there is to show: the text of a success, if it is not
empty and the command has not run the exit. -/
def result? (trial : Trial) : Option Text :=
  match trial.answer with
  | .ok (.success text) => if text = "" ∨ .exitRun ∈ trial.events then none else some text
  | _ => none

theorem shown_eq (trial : Trial) (verbose : Bool) :
    trial.shown verbose = if verbose then trial.result?.toList else [] := by
  rw [shown, verdict, result?]
  cases trial.answer with
  | error failure => simp
  | ok outcome =>
      cases outcome with
      | failure text => simp
      | success text =>
          by_cases exits : .exitRun ∈ trial.events <;> by_cases empty : text = "" <;>
            cases verbose <;> simp [exits, empty, Outcome.text]

/-- What is recorded of a command: the command, if it is echoed, its events, and its
result, if results are shown. -/
def transcript (echo verbose : Bool) (trial : Trial) : List Event :=
  (if echo then [.output trial.command] else []) ++ trial.events ++
    (if verbose then trial.result?.toList else []).map .output

theorem transcript_quiet : transcript false false = events := by
  funext trial
  simp [transcript]

theorem isOutput_of_mem_events (trial : Trial) {event : Event} (member : event ∈ trial.events) :
    event.isOutput = false := by
  obtain ⟨steps, recorded, runs⟩ := trial.exists_runs
  rw [recorded, List.mem_append] at member
  rcases member with handed | stepped
  · rcases trial.before.handing_eq_nil_or trial.command with none | one
    · simp [none] at handed
    · rw [one, List.mem_singleton] at handed
      rw [handed]
      rfl
  · have step := runs.isStep event stepped
    cases event <;> first | rfl | cases step

/-- No command has lines of output among its own events, so those that are shown can be
told from the others. -/
theorem filter_transcript (echo verbose : Bool) (trial : Trial) :
    (trial.transcript echo verbose).filter (!·.isOutput) = trial.events := by
  have echoed : (if echo then [Event.output trial.command] else []).filter (!·.isOutput) = [] := by
    cases echo <;> rfl
  have shown (texts : List Text) : (texts.map Event.output).filter (!·.isOutput) = [] := by
    simp [isOutput]
  have own : trial.events.filter (!·.isOutput) = trial.events := by
    rw [List.filter_eq_self]
    intro event member
    rw [Bool.not_eq_true']
    exact trial.isOutput_of_mem_events member
  rw [transcript, List.filter_append, List.filter_append, echoed, shown, own, List.nil_append,
    List.append_nil]

/-- The command, taken up with another record and after it has been echoed, if it is. -/
def echoed (echo : Bool) (trial : Trial) (log : List Event) : Trial :=
  trial.on (log ++ if echo then [.output trial.command] else [])

theorem before_echoed (echo : Bool) (trial : Trial) (log : List Event) :
    (trial.echoed echo log).before =
      Host.showing { trial.before with log } (if echo then [trial.command] else []) := by
  cases echo <;> rfl

/-- Once its result is shown, if it is, the transcript of the command has been added to
the record. -/
theorem after_echoed (echo verbose : Bool) (trial : Trial) (log : List Event) :
    (trial.echoed echo log).after.showing ((trial.echoed echo log).shown verbose) =
      { trial.after with log := log ++ trial.transcript echo verbose } := by
  have sameResult : (trial.echoed echo log).result? = trial.result? := by
    rw [result?, echoed, answer_on, events_on, ← result?]
  rw [shown_eq, sameResult, echoed, after_on, showing, transcript, List.append_assoc,
    List.append_assoc, List.append_assoc]

theorem after_of_quiet (trial : Trial) :
    { trial.after with log := trial.before.log ++ trial.transcript false false } = trial.after := by
  rw [transcript_quiet, ← log_after]

end Trial

/-- A run of commands, quiet or not, is told by the commands that are evaluated. -/
structure Observed (host : Host) (run : Bool → Bool → HostM Outcome) (trials : List Trial) :
    Prop where
  consecutive : Consecutive false false host trials ((run false false).perform host).2
  /-- Whatever is shown and whatever the record holds, the answer and the state are those
  of the quiet run, and the record has the transcripts added. -/
  told : ∀ echo verbose log, (run echo verbose).perform { host with log } =
    (((run false false).perform host).1,
      { ((run false false).perform host).2 with
        log := log ++ trials.flatMap (Trial.transcript echo verbose) })

section Step

variable (last : Outcome) (rest : List String) (trial : Trial)
  (working : Script.isIdle trial.command = false) (cleared : trial.before.exiting = false)

include working cleared

/-- A command that ends the file does so whatever is shown. -/
theorem Observed.stop {answer : Except Failure Outcome} (verdict : trial.verdict = some answer) :
    Observed trial.before (runCommands · · last (trial.command :: rest)) [trial] := by
  have told (echo verbose : Bool) (log : List Event) :
      (runCommands echo verbose last (trial.command :: rest)).perform { trial.before with log } =
        (answer, { trial.after with log := log ++ trial.transcript echo verbose }) := by
    have verdict' : (trial.echoed echo log).verdict = some answer := by
      rw [Trial.echoed, Trial.verdict_on, verdict]
    have quiet : (trial.echoed echo log).shown verbose = [] := by
      simp [Trial.shown, verdict']
    have left := trial.after_echoed echo verbose log
    rw [quiet, showing_nil] at left
    rw [← left]
    exact runCommands_of_verdict (trial.echoed echo log) working (trial.before_echoed echo log)
      cleared verdict'
  have quiet : (runCommands false false last (trial.command :: rest)).perform trial.before =
      (answer, trial.after) := by
    rw [← trial.after_of_quiet]
    exact told false false trial.before.log
  constructor
  · rw [quiet]
    refine .next trial.before.showing_nil.symm ?_
    rw [trial.shown_eq false, if_neg Bool.false_ne_true, showing_nil]
    exact .none _
  · intro echo verbose log
    rw [quiet, told, List.flatMap_singleton]

/-- After any other command the rest of the file is told after its transcript. -/
theorem Observed.next (verdict : trial.verdict = none)
    {outcome : Outcome} (answered : trial.answer = .ok outcome) {trials : List Trial}
    (observed : Observed trial.after (runCommands · · outcome rest) trials) :
    Observed trial.before (runCommands · · last (trial.command :: rest)) (trial :: trials) := by
  have told (echo verbose : Bool) (log : List Event) :
      (runCommands echo verbose last (trial.command :: rest)).perform { trial.before with log } =
        (runCommands echo verbose outcome rest).perform
          { trial.after with log := log ++ trial.transcript echo verbose } := by
    have verdict' : (trial.echoed echo log).verdict = none := by
      rw [Trial.echoed, Trial.verdict_on, verdict]
    obtain ⟨outcome', answered', _, goesOn⟩ :=
      runCommands_of_verdict_eq_none (trial.echoed echo log) working
        (trial.before_echoed echo log) cleared verdict'
    rw [Trial.echoed, Trial.answer_on, answered] at answered'
    cases answered'
    rw [← trial.after_echoed]
    exact goesOn
  have quiet : (runCommands false false last (trial.command :: rest)).perform trial.before =
      (runCommands false false outcome rest).perform trial.after := by
    rw [← trial.after_of_quiet]
    exact told false false trial.before.log
  constructor
  · rw [quiet]
    refine .next trial.before.showing_nil.symm ?_
    rw [trial.shown_eq false, if_neg Bool.false_ne_true, showing_nil]
    exact observed.consecutive
  · intro echo verbose log
    rw [quiet, told, observed.told, List.flatMap_cons, List.append_assoc]

end Step

/-- The commands of a file are told in order.  As in the evaluation itself, what carries
the induction is that no exit is noted when a command is taken up. -/
theorem exists_observed (last : Outcome) (commands : List String) {host : Host}
    (cleared : host.exiting = false) :
    ∃ trials, trials.map Trial.command <+: commands.filter (!Script.isIdle ·) ∧
      Observed host (runCommands · · last commands) trials := by
  induction commands generalizing last host with
  | nil =>
      refine ⟨[], List.nil_prefix, .none host, fun echo verbose log => ?_⟩
      simp [runCommands]
  | cons command rest ih =>
      cases idle : Script.isIdle command with
      | true =>
          have skips (echo verbose : Bool) : runCommands echo verbose last (command :: rest) =
              runCommands echo verbose last rest := by
            rw [runCommands_cons, idle, if_pos rfl]
          rw [List.filter_cons_of_neg (by simp [idle])]
          simpa only [skips] using ih last cleared
      | false =>
          rw [List.filter_cons_of_pos (by simp [idle])]
          let trial : Trial := ⟨command, host⟩
          cases verdict : trial.verdict with
          | some answer =>
              have observed := Observed.stop last rest trial idle cleared verdict
              exact ⟨[trial], by simp [trial], observed⟩
          | none =>
              obtain ⟨outcome, answered, clearedAfter⟩ := trial.goes_on cleared verdict
              obtain ⟨trials, inOrder, observed⟩ := ih outcome clearedAfter
              refine ⟨trial :: trials, (List.prefix_cons_inj command).mpr inOrder, ?_⟩
              exact Observed.next last rest trial idle cleared verdict answered observed

/-- The evaluation of a file is told by commands of the file, from a host that differs in
the note of an exit at most. -/
def TellsFile (files : FileTree) (path : Path) (host : Host) (trials : List Trial) : Prop :=
  trials.map Trial.command <+: (commandsOf host files path).filter (!Script.isIdle ·) ∧
    ∃ exiting run,
      (∀ echo verbose, (sourceFile files path echo verbose).perform host =
        (run echo verbose).perform { host with exiting }) ∧
      Observed { host with exiting } run trials

/-- A file that does the same whatever is to be shown is told by no commands. -/
theorem tellsFile_nil {files : FileTree} {path : Path} {host : Host}
    {answer : Except Failure Outcome} {exiting : Bool}
    (silent : ∀ echo verbose,
      (sourceFile files path echo verbose).perform host = (answer, { host with exiting })) :
    TellsFile files path host [] := by
  refine ⟨List.nil_prefix, exiting, fun _ _ => liftM answer, ?_, ?_, ?_⟩
  · intro echo verbose
    rw [silent, perform_lift]
  · rw [perform_lift]
    exact .none _
  · intro echo verbose log
    simp only [perform_lift, List.flatMap_nil, List.append_nil]

/-- Every file is told by commands, none if it cannot be read or there is no
interpreter. -/
theorem exists_tellsFile (files : FileTree) (path : Path) (host : Host) :
    ∃ trials, TellsFile files path host trials := by
  cases held : host.interpreter with
  | none =>
      obtain ⟨answer, exiting, silent⟩ := exists_perform_sourceFile_of_released files path held
      exact ⟨[], tellsFile_nil silent⟩
  | some interpreter =>
      cases damaged : TextFile.damage? files path with
      | some failure =>
          exact ⟨[], tellsFile_nil fun _ _ => perform_sourceFile_of_damage damaged⟩
      | none =>
          rcases TextFile.exists_text_or_fault damaged with ⟨text, readable⟩ | ⟨_, _, refused⟩
          · let commands := Script.commands interpreter.table.complete text
            have cut : commandsOf host files path = commands := by
              rw [commandsOf, held, readable]
            have cleared : { host with exiting := false }.exiting = false := rfl
            obtain ⟨trials, inOrder, observed⟩ := exists_observed (.success "") commands cleared
            refine ⟨trials, cut ▸ inOrder, false, _, ?_, observed⟩
            exact fun _ _ => perform_sourceFile_of_text readable held
          · exact ⟨[], tellsFile_nil fun _ _ => perform_sourceFile_of_fault refused⟩

/-- **Echo and results only show.**  For every file and every host there are commands,
each evaluated once and in the host that the one before it has left, such that the quiet
evaluation of the file records their events, and every other evaluation comes to the same
answer and leaves the same host, with their transcripts for a record: a command that is
echoed stands right before its events, and a result right after them, if the command has
succeeded with a text and has not run the exit.  All else in the transcripts is what the
quiet evaluation records.  This holds of files that cannot be read and of an interpreter
that is released, too: no command is evaluated then. -/
theorem echo_and_results_only_show (files : FileTree) (path : Path) (host : Host) :
    let ended (echo verbose : Bool) := (sourceFile files path echo verbose).perform host
    ∃ trials : List Trial,
      trials.map Trial.command <+: (commandsOf host files path).filter (!Script.isIdle ·) ∧
      (∃ exiting, Consecutive false false { host with exiting } trials (ended false false).2) ∧
      (ended false false).2.log = host.log ++ trials.flatMap Trial.events ∧
      ∀ echo verbose,
        ended echo verbose =
          ((ended false false).1,
            { (ended false false).2 with
              log := host.log ++ trials.flatMap (Trial.transcript echo verbose) }) ∧
        (trials.flatMap (Trial.transcript echo verbose)).filter (!·.isOutput) =
          trials.flatMap Trial.events := by
  intro ended
  obtain ⟨trials, inOrder, exiting, run, runs, observed⟩ := exists_tellsFile files path host
  have quiet : ended false false = (run false false).perform { host with exiting } :=
    runs false false
  have told (echo verbose : Bool) : ended echo verbose = ((ended false false).1,
      { (ended false false).2 with
        log := host.log ++ trials.flatMap (Trial.transcript echo verbose) }) := by
    rw [quiet]
    exact (runs echo verbose).trans (observed.told echo verbose host.log)
  refine ⟨trials, inOrder, ⟨exiting, quiet ▸ observed.consecutive⟩, ?_, fun echo verbose => ?_⟩
  · have recorded := congrArg (·.2.log) (told false false)
    simpa only [Trial.transcript_quiet] using recorded
  · refine ⟨told echo verbose, ?_⟩
    simp only [List.filter_flatMap, Trial.filter_transcript]

/-- A result that is shown, and a command that runs the exit, which has none. -/
example :
    let table : ScriptTable := { scripts := [("six", [.result "6"]), ("quit", [.catchExit])] }
    let commands := [(exitCallbackName, Command.exitCallback .session)]
    let host : Host := { interpreter := some { table, commands }, engine := { version := "1" } }
    ((runCommands true true (.success "") ["six", "quit", "never"]).perform host).2.log =
      [.output "six", .script "six", .output "6", .output "quit", .script "quit", .exitRun] := by
  decide +kernel

end Evaluator

end CommandShell
