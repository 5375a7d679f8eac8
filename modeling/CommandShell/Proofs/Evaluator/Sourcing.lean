/-
# The evaluation of a file

A file is evaluated command by command, idle commands apart, each command once and from
where the one before it left off.  It ends with the first command that raises a failure,
fails or runs the exit, and otherwise with its last command.  Which exits count is told
from the record: those among the events of the command itself, whatever was noted of
exits before the file was taken up.
-/

import CommandShell.Proofs.Host.Records

namespace CommandShell

namespace Host

/-- The host once it has shown some texts. -/
def showing (host : Host) (texts : List Text) : Host :=
  { host with log := host.log ++ texts.map .output }

end Host

namespace Evaluator

open Act Host Event

/-- A command of a file that is evaluated, with the host that takes it up. -/
structure Trial where
  command : String
  before : Host

namespace Trial

/-- The command as it is handed over. -/
abbrev script (trial : Trial) : Text :=
  trial.command

/-- What the command comes to. -/
def answer (trial : Trial) : Except Failure Outcome :=
  ((evaluateCommand trial.script).perform trial.before).1

/-- The host that the command leaves. -/
def after (trial : Trial) : Host :=
  ((evaluateCommand trial.script).perform trial.before).2

/-- The events of the command. -/
def events (trial : Trial) : List Event :=
  trial.after.log.drop trial.before.log.length

/-- What the file comes to if it ends with this command.  A failure counts before an
exit, and after a success without an exit the file goes on. -/
def verdict (trial : Trial) : Option (Except Failure Outcome) :=
  match trial.answer with
  | .error failure => some (.error failure)
  | .ok (.failure text) => some (.ok (.failure text))
  | .ok (.success _) => if .exitRun ∈ trial.events then some (.ok (.success "")) else none

/-- What is shown of the result, if results are to be shown: a text that is not empty,
unless the file ends with this command. -/
def shown (verbose : Bool) (trial : Trial) : List Text :=
  match trial.verdict, trial.answer with
  | none, .ok outcome => if verbose && outcome.text != "" then [outcome.text] else []
  | _, _ => []

theorem evaluates (trial : Trial) : Evaluates trial.script trial.before trial.after :=
  evaluates_evaluateCommand trial.script trial.before

/-- What a command records: itself, and then the steps that it runs. -/
theorem exists_runs (trial : Trial) :
    ∃ steps, trial.events = trial.before.handing trial.script ++ steps ∧
      Runs { trial.before with log := trial.before.log ++ trial.before.handing trial.script }
        steps trial.after := by
  obtain ⟨steps, runs⟩ := trial.evaluates
  refine ⟨steps, ?_, runs⟩
  rw [events, runs.log, List.append_assoc, List.drop_left]

theorem log_after (trial : Trial) : trial.after.log = trial.before.log ++ trial.events := by
  obtain ⟨steps, recorded, runs⟩ := trial.exists_runs
  rw [recorded, runs.log, List.append_assoc]

/-- The note of an exit tells whether the command has run one, if there was none
before. -/
theorem exiting_after_iff (trial : Trial) (cleared : trial.before.exiting = false) :
    trial.after.exiting = true ↔ .exitRun ∈ trial.events := by
  obtain ⟨steps, recorded, runs⟩ := trial.exists_runs
  have noExit : .exitRun ∉ trial.before.handing trial.script := by
    rcases trial.before.handing_eq_nil_or trial.script with none | one
    · simp [none]
    · simp [one]
  rw [recorded, List.mem_append, or_iff_right noExit]
  constructor
  · intro noted
    refine (runs.exitingOnly noted).resolve_left ?_
    simp [cleared]
  · exact fun ran => runs.exiting (.inr ran)

theorem isSome_after (trial : Trial) (held : trial.before.interpreter.isSome = true) :
    trial.after.interpreter.isSome = true := by
  obtain ⟨_, _, runs⟩ := trial.exists_runs
  rcases runs.interpreter with ⟨released, _⟩ | ⟨_, _, _, kept, _⟩
  · have none_left : trial.before.interpreter = none := released
    rw [none_left] at held
    cases held
  · rw [kept]
    rfl

/-- A command is handed over once, unless it is a query of the host itself. -/
theorem scripts_events (trial : Trial) (held : trial.before.interpreter.isSome = true) :
    scripts trial.events = [trial.script].filter (!isOwnQuery ·) := by
  obtain ⟨events, log, handed⟩ := trial.evaluates.exists_scripts held
  rw [Trial.events, log, List.drop_left, handed]

end Trial

/-- Commands are evaluated one after the other, each in the host that the one before it
has left.  Only what is to be shown comes between: the command before its evaluation,
and its result after it. -/
inductive Consecutive (echo verbose : Bool) : Host → List Trial → Host → Prop
  | none (host : Host) : Consecutive echo verbose host [] host
  | next {host last : Host} {trial : Trial} {trials : List Trial}
      (before : trial.before = host.showing (if echo then [trial.script] else []))
      (rest : Consecutive echo verbose (trial.after.showing (trial.shown verbose)) trials last) :
      Consecutive echo verbose host (trial :: trials) last

theorem Consecutive.scripts {echo verbose : Bool} {host last : Host} {trials : List Trial}
    (h : Consecutive echo verbose host trials last) (held : host.interpreter.isSome = true) :
    ∃ events, last.log = host.log ++ events ∧
      Event.scripts events = (trials.map Trial.script).filter (!isOwnQuery ·) := by
  have shownOnly (texts : List Text) : Event.scripts (texts.map .output) = [] :=
    scripts_eq_nil (by simp [script?])
  induction h with
  | none host => exact ⟨[], (List.append_nil _).symm, rfl⟩
  | next before rest ih =>
      next host last trial trials =>
      have heldBefore : trial.before.interpreter.isSome = true := by
        rw [before]
        exact held
      obtain ⟨events, log, handed⟩ := ih (trial.isSome_after heldBefore)
      refine ⟨(if echo then [trial.script] else []).map .output ++ trial.events ++
        (trial.shown verbose).map .output ++ events, ?_, ?_⟩
      · rw [log, showing, trial.log_after, before, showing]
        simp only [List.append_assoc]
      · rw [scripts_append, scripts_append, scripts_append, shownOnly, shownOnly, handed,
          trial.scripts_events heldBefore, List.map_cons, List.nil_append, List.append_nil,
          ← List.filter_append, List.singleton_append]

/-- The commands of a file have been evaluated as far as they come. -/
structure Tried (echo verbose : Bool) (host : Host) (last : Outcome) (commands : List String)
    (trials : List Trial) (ended : Except Failure Outcome × Host) : Prop where
  /-- They are evaluated in order, from the first one on. -/
  inOrder : trials.map Trial.command <+: commands
  consecutive : Consecutive echo verbose host trials ended.2
  /-- The file goes on from all but the last one. -/
  goesOn : ∀ trial ∈ trials.dropLast, trial.verdict = none
  /-- It ends with a command that ends it. -/
  ends : ∀ answer, trials.getLast?.bind Trial.verdict = some answer → ended.1 = answer
  /-- If no command ends it, all are evaluated, and the last one decides. -/
  runsOut : trials.getLast?.bind Trial.verdict = none →
    trials.map Trial.command = commands ∧
      ended.1 = (trials.getLast?.map Trial.answer).getD (.ok last)

section Tried

variable {echo verbose : Bool} {host final : Host} {last : Outcome} {trial : Trial}
  {commands : List String}

theorem Tried.nothing : Tried echo verbose host last [] [] (.ok last, host) where
  inOrder := List.nil_prefix
  consecutive := .none host
  goesOn := by simp
  ends := by simp
  runsOut := by simp

theorem Tried.stop {answer : Except Failure Outcome}
    (before : trial.before = host.showing (if echo then [trial.script] else []))
    (verdict : trial.verdict = some answer) :
    Tried echo verbose host last (trial.command :: commands) [trial] (answer, trial.after) where
  inOrder := ⟨commands, rfl⟩
  consecutive := by
    have quiet : trial.after.showing (trial.shown verbose) = trial.after := by
      simp [Trial.shown, verdict, showing]
    refine .next before ?_
    rw [quiet]
    exact .none _
  goesOn := by simp
  ends := by
    intro other same
    exact Option.some.inj (verdict.symm.trans same)
  runsOut := by
    intro none
    have same : trial.verdict = .none := none
    rw [verdict] at same
    cases same

theorem Tried.next {outcome : Outcome} {trials : List Trial} {ended : Except Failure Outcome × Host}
    (before : trial.before = host.showing (if echo then [trial.script] else []))
    (verdict : trial.verdict = none) (answer : trial.answer = .ok outcome)
    (rest : Tried echo verbose (trial.after.showing (trial.shown verbose)) outcome commands trials
      ended) :
    Tried echo verbose host last (trial.command :: commands) (trial :: trials) ended where
  inOrder := (List.prefix_cons_inj trial.command).mpr rest.inOrder
  consecutive := .next before rest.consecutive
  goesOn := by
    cases trials with
    | nil => simp
    | cons second others =>
        rw [List.dropLast_cons_cons, List.forall_mem_cons]
        exact ⟨verdict, rest.goesOn⟩
  ends := by
    cases trials with
    | nil => simp [verdict]
    | cons second others => exact rest.ends
  runsOut := by
    intro none
    cases trials with
    | nil =>
        obtain ⟨all, decided⟩ := rest.runsOut rfl
        exact ⟨congrArg (trial.command :: ·) all, decided.trans answer.symm⟩
    | cons second others =>
        obtain ⟨all, decided⟩ := rest.runsOut none
        exact ⟨congrArg (trial.command :: ·) all, decided⟩

end Tried

theorem perform_showIf (asked : Bool) (text : Text) (host : Host) :
    (showIf asked text).perform host = (.ok (), host.showing (if asked then [text] else [])) := by
  cases asked <;> simp [showIf, showing]

section Step

variable {echo verbose : Bool} {last : Outcome} {host : Host} {rest : List String} (trial : Trial)

/-- A command that ends the file is the last one to be evaluated. -/
theorem runCommands_of_verdict (working : Script.isIdle trial.command = false)
    (before : trial.before = host.showing (if echo then [trial.script] else []))
    (cleared : trial.before.exiting = false) {answer : Except Failure Outcome}
    (verdict : trial.verdict = some answer) :
    (runCommands echo verbose last (trial.command :: rest)).perform host =
      (answer, trial.after) := by
  have performed : (evaluateCommand trial.script).perform trial.before =
      (trial.answer, trial.after) := rfl
  rw [runCommands_cons, working, if_neg Bool.false_ne_true,
    perform_bind_of_ok (perform_showIf echo trial.script host), ← before]
  rw [Trial.verdict] at verdict
  cases answered : trial.answer with
  | error failure =>
      rw [answered] at performed verdict
      cases verdict
      rw [perform_bind_of_error performed]
  | ok outcome =>
      rw [answered] at performed verdict
      rw [perform_bind_of_ok performed]
      cases outcome with
      | failure text =>
          cases verdict
          rfl
      | success text =>
          by_cases exits : .exitRun ∈ trial.events
          · have noted := (trial.exiting_after_iff cleared).mpr exits
            simp only [if_pos exits, Option.some.injEq] at verdict
            simp only [Outcome.isSuccess, Bool.not_true, Bool.false_eq_true, if_false]
            rw [perform_bind_of_ok (perform_get _), if_pos noted, ← verdict]
            rfl
          · simp [exits] at verdict

/-- After any other command the file goes on from what that has left, and no exit is
noted there. -/
theorem runCommands_of_verdict_eq_none (working : Script.isIdle trial.command = false)
    (before : trial.before = host.showing (if echo then [trial.script] else []))
    (cleared : trial.before.exiting = false) (verdict : trial.verdict = none) :
    ∃ outcome, trial.answer = .ok outcome ∧ trial.after.exiting = false ∧
      (runCommands echo verbose last (trial.command :: rest)).perform host =
        (runCommands echo verbose outcome rest).perform
          (trial.after.showing (trial.shown verbose)) := by
  have performed : (evaluateCommand trial.script).perform trial.before =
      (trial.answer, trial.after) := rfl
  have goesOn := verdict
  rw [Trial.verdict] at goesOn
  cases answered : trial.answer with
  | error failure => simp [answered] at goesOn
  | ok outcome =>
      cases outcome with
      | failure text => simp [answered] at goesOn
      | success text =>
          have unnoted : ¬trial.after.exiting = true := by
            simpa [answered, trial.exiting_after_iff cleared] using goesOn
          have shown : trial.shown verbose = if verbose && text != "" then [text] else [] := by
            simp [Trial.shown, verdict, answered, Outcome.text]
          refine ⟨_, rfl, by simpa using unnoted, ?_⟩
          rw [answered] at performed
          rw [runCommands_cons, working, if_neg Bool.false_ne_true,
            perform_bind_of_ok (perform_showIf echo trial.script host), ← before,
            perform_bind_of_ok performed]
          simp only [Outcome.isSuccess, Bool.not_true, Bool.false_eq_true, if_false]
          rw [perform_bind_of_ok (perform_get _), if_neg unnoted,
            perform_bind_of_ok (perform_showIf _ _ _), shown]
          rfl

end Step

/-- The commands of a file are evaluated up to the first one that ends it.  What carries
the induction is that no exit is noted when a command is taken up. -/
theorem exists_tried (echo verbose : Bool) (last : Outcome) (commands : List String) {host : Host}
    (cleared : host.exiting = false) :
    ∃ trials, Tried echo verbose host last (commands.filter (!Script.isIdle ·)) trials
      ((runCommands echo verbose last commands).perform host) := by
  induction commands generalizing last host with
  | nil => exact ⟨[], Tried.nothing⟩
  | cons command rest ih =>
      cases idle : Script.isIdle command with
      | true =>
          rw [runCommands_cons, idle, if_pos rfl, List.filter_cons_of_neg (by simp [idle])]
          exact ih last cleared
      | false =>
          rw [List.filter_cons_of_pos (by simp [idle])]
          let trial : Trial := ⟨command, host.showing (if echo then [command] else [])⟩
          cases verdict : trial.verdict with
          | some answer =>
              rw [runCommands_of_verdict trial idle rfl cleared verdict]
              exact ⟨[trial], Tried.stop rfl verdict⟩
          | none =>
              obtain ⟨outcome, answered, clearedAfter, goesOn⟩ :=
                runCommands_of_verdict_eq_none trial idle rfl cleared verdict
              have clearedThen : (trial.after.showing (trial.shown verbose)).exiting = false :=
                clearedAfter
              obtain ⟨trials, tried⟩ := ih outcome clearedThen
              rw [goesOn]
              exact ⟨trial :: trials, Tried.next rfl verdict answered tried⟩

/-- **A file is evaluated up to the command that ends it.**  The commands of a file that
can be read, less the idle ones, are handed to an interpreter that is held one after the
other, each once, up to and including the first one that raises a failure, fails or runs
the exit.  The file comes to that failure, to that failed outcome, or to an empty success
after an exit without a failure; if no command ends it, to the outcome of its last
command, or to an empty success if there is none.  What was noted of exits before makes
no difference. -/
theorem file_ends_at_first_verdict {files : FileTree} {path : Path} {text : String} {host : Host}
    {interpreter : Interpreter} (readable : TextFile.read files path = .ok text)
    (held : host.interpreter = some interpreter) (echo verbose : Bool) :
    let commands := (Script.commands interpreter.table.complete text).filter (!Script.isIdle ·)
    let ended := (sourceFile files path echo verbose).perform host
    (∃ trials, Tried echo verbose { host with exiting := false } (.success "") commands trials
        ended ∧
      ∃ events, ended.2.log = host.log ++ events ∧
        Event.scripts events = (trials.map Trial.script).filter (!isOwnQuery ·)) ∧
      ∀ exiting, (sourceFile files path echo verbose).perform { host with exiting } = ended := by
  intro commands ended
  let cleared : Host := { host with exiting := false }
  have runs (host' : Host) (same : { host' with exiting := false } = cleared) :
      (sourceFile files path echo verbose).perform host' =
        (runCommands echo verbose (.success "")
          (Script.commands interpreter.table.complete text)).perform cleared := by
    have there : cleared.interpreter = some interpreter := held
    have cleans : (setExiting false).perform host' = (.ok (), cleared) := by
      rw [← same]
      rfl
    rw [sourceFile, readable, perform_bind_of_ok cleans,
      perform_bind_of_ok (perform_commandsIn there text)]
  refine ⟨?_, fun exiting => (runs { host with exiting } rfl).trans (runs host rfl).symm⟩
  obtain ⟨trials, tried⟩ :=
    exists_tried echo verbose (.success "") (Script.commands interpreter.table.complete text)
      (rfl : cleared.exiting = false)
  rw [← runs host rfl] at tried
  exact ⟨trials, tried, tried.consecutive.scripts (held ▸ rfl)⟩

/-- A comment, a command, a blank line, a command that catches an exit and then fails,
and a command that is not reached. -/
def sampleScript : String :=
  "# set up\nset a 1\n\nslip\nnever\n"

def sampleScriptFile : FileTree where
  nodes := [(["run.tcl"], .file (TextFile.encode sampleScript))]

def sampleInterpreter : Interpreter where
  table := { scripts := [("slip", [.catchExit, .error "boom" "NONE"])] }
  commands := [(exitCallbackName, .exitCallback .session)]

/-- A host on which an exit has been noted before. -/
def sampleHost : Host where
  interpreter := some sampleInterpreter
  exiting := true
  engine := { version := "1" }

theorem file_ends_at_first_verdict_sample :
    let path : Path := ⟨.relative, ["run.tcl"]⟩
    let ended := (sourceFile sampleScriptFile path true true).perform sampleHost
    TextFile.read sampleScriptFile path = .ok sampleScript ∧
      sampleHost.interpreter = some sampleInterpreter ∧
      (∃ trials, Tried true true { sampleHost with exiting := false } (.success "")
        ["set a 1", "slip", "never"] trials ended) ∧
      ended.1.toOption = some (.failure "boom") ∧
      Event.scripts ended.2.log = (["set a 1", "slip"] : List Text) := by
  have readable : TextFile.read sampleScriptFile ⟨.relative, ["run.tcl"]⟩ = .ok sampleScript := by
    rfl
  have held : sampleHost.interpreter = some sampleInterpreter := rfl
  obtain ⟨⟨trials, tried, _⟩, _⟩ := file_ends_at_first_verdict readable held true true
  have commands :
      (Script.commands sampleInterpreter.table.complete sampleScript).filter (!Script.isIdle ·) =
        ["set a 1", "slip", "never"] := by
    decide +kernel
  rw [commands] at tried
  exact ⟨readable, held, ⟨trials, tried⟩, by decide +kernel, by decide +kernel⟩

end Evaluator

end CommandShell
