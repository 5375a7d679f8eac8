/-
# Sessions whose evaluations raise only errors

Errors of the command language are outcomes, so a session whose evaluations raise nothing
else, and which reads what is usual, comes through every part that evaluates or converses.
Once it has come to its conversation it asks for a line, unless an exit has ended it
before, and then it saves its history and is done, unless a line without an encoding is to
be saved.
-/

import CommandShell.Proofs.Evaluator.Reading
import CommandShell.Proofs.Session.Interrupts

namespace CommandShell.Session

open Act Host

/-- Evaluations raise errors of the language only, and what is to be read is usual. -/
structure Steady (session : Session) : Prop where
  raisesOnly : session.host.RaisesErrorsOnly
  usual : ∀ reading ∈ session.editor.readings, reading.isUsual = true

theorem Steady.of_eq {before after : Session} (steady : Steady before)
    (interpreter : after.host.interpreter = before.host.interpreter)
    (engine : after.host.engine = before.host.engine)
    (readings : after.editor.readings = before.editor.readings) : Steady after where
  raisesOnly := steady.raisesOnly.of_continues (.of_eq interpreter engine)
  usual := by
    rw [readings]
    exact steady.usual

/-! ## Parts that evaluate -/

theorem succeeds_onHost {α : Type} {act : HostM α} (h : Succeeds RaisesErrorsOnly act) :
    Succeeds Steady (onHost act) := by
  intro session steady
  obtain ⟨value, host, performed, raisesOnly⟩ := h session.host steady.raisesOnly
  exact ⟨value, _, perform_onHost performed, raisesOnly, steady.usual⟩

theorem succeeds_report (outcome : Outcome) : Succeeds Steady (report outcome) := by
  rw [report]
  split
  · exact succeeds_modify fun _ steady => steady.of_eq rfl rfl rfl
  · exact succeeds_pure _

theorem succeeds_evaluate (script : Text) : Succeeds Steady (evaluate script) :=
  (succeeds_onHost (Evaluator.succeeds_evaluate script)).bind succeeds_report

/-- A file that is not damaged is evaluated, and its outcome is reported. -/
theorem exists_perform_source {session : Session} {path : Path}
    (sound : TextFile.damage? session.files path = none) (steady : Steady session) :
    ∃ after, (source path).perform session = (.ok (), after) ∧ Steady after := by
  obtain ⟨outcome, host, sourced, raisesOnly⟩ :=
    Evaluator.exists_perform_sourceFile sound steady.raisesOnly true true
  obtain ⟨_, after, reported, steadyAfter⟩ :=
    succeeds_report outcome { session with host } ⟨raisesOnly, steady.usual⟩
  refine ⟨after, ?_, steadyAfter⟩
  rw [source, perform_bind_of_ok (perform_get session), perform_bind_of_ok (perform_onHost sourced),
    reported]

theorem succeeds_addEntry (line : Text) : Succeeds Steady (addEntry line) := by
  intro session steady
  obtain ⟨events, added⟩ := perform_addEntry line session
  exact ⟨_, _, added, steady.of_eq rfl rfl (readings_taking _ _ _)⟩

section Setup

variable (setup : Setup)

theorem succeeds_answerLine (line : Text) : Succeeds Steady (answerLine setup line) := by
  rw [answerLine_eq]
  refine Succeeds.bind ((succeeds_evaluate line).tryCatch _) fun _ => ?_
  split
  · exact succeeds_pure _
  · exact succeeds_addEntry line

/-! ## The conversation -/

theorem Steady.asking {session : Session} (steady : Steady session) (prompt : String) :
    Steady (session.asking prompt) where
  raisesOnly := steady.raisesOnly.of_continues (.of_eq rfl rfl)
  usual := by
    intro reading member
    rw [readings_asking] at member
    exact steady.usual reading (List.mem_of_mem_tail member)

/-- Every round is passed. -/
theorem succeeds_round : Succeeds Steady (round setup) := by
  intro session steady
  have asked := steady.asking (Config.prompt setup.config)
  rw [perform_round]
  cases coming : session.editor.coming with
  | line text => exact succeeds_answerLine setup text _ asked
  | ended => exact succeeds_pure _ _ asked
  | interrupted message => exact succeeds_pure _ _ asked
  | failed failure => exact absurd coming (Editor.coming_ne_failed steady.usual failure)

theorem Passes.steady {session last : Session} {rounds : List Session}
    (passes : Passes setup session rounds last) (steady : Steady session) : Steady last := by
  induction passes with
  | stay session => exact steady
  | pass running asked passed rest ih =>
      obtain ⟨_, after, passed', steadyAfter⟩ := succeeds_round setup _ steady
      rw [passed] at passed'
      cases passed'
      exact ih steadyAfter

theorem Ends.eq_ok_of_steady {session final : Session} {result : Except Failure Unit}
    (ends : Ends setup session result final) (steady : Steady session) : result = .ok () := by
  cases ends with
  | halt ended => rfl
  | leave running asked => rfl
  | fail running failed =>
      obtain ⟨_, after, passed, _⟩ := succeeds_round setup _ steady
      rw [failed] at passed
      cases passed

theorem prompt_mem_demandsOf (host : Host) (answer : Answer) :
    .prompt (Config.prompt setup.config) ∈ demandsOf setup host answer := by
  cases answer <;> exact List.mem_cons_self

/-- A conversation that comes to its end has asked for a line, unless the session had ended
before it. -/
theorem Passes.prompt_mem {session last final : Session} {rounds : List Session}
    (passes : Passes setup session rounds last) (ends : Ends setup last (.ok ()) final)
    (running : session.host.terminated = false) :
    .prompt (Config.prompt setup.config) ∈ final.host.log := by
  obtain ⟨events, log, demanded⟩ := (passes.demands).trans ends.demands
  have member : .prompt (Config.prompt setup.config) ∈ events.filter (·.isDemand) := by
    rw [demanded]
    cases passes with
    | stay session =>
        have same : final.host.terminated = false := ends.terminated_eq.trans running
        simp [same]
    | pass running asked passed rest =>
        rw [List.map_cons, List.flatMap_cons, List.append_assoc]
        exact List.mem_append_left _ (prompt_mem_demandsOf setup _ _)
  rw [log]
  exact List.mem_append_right _ (List.mem_filter.mp member).1

theorem exists_perform_interact_of_steady {session : Session}
    (ready : session.phase = .bootstrapping) (steady : Steady session)
    (noNul : (Config.historyPath setup.config).hasNul = false) :
    ∃ talked, (interact setup).perform session = (.ok (), talked) ∧
      (session.host.terminated = false →
        .prompt (Config.prompt setup.config) ∈ talked.host.log) := by
  cases loads : (History.load session.files (Config.historyPath setup.config)).1 with
  | error failure =>
      rw [History.load_eq_error_iff, noNul] at loads
      cases loads.1
  | ok loaded =>
      obtain ⟨talking, rounds, last, takenUp, _, _, _, passes, ends⟩ :=
        exists_passes_of_interact setup ready loads
      obtain ⟨events, takenUp'⟩ :=
        perform_takeUpHistory setup (session.entering .interactive) loads
      rw [takenUp'] at takenUp
      cases takenUp
      have steadyLast : Steady last :=
        passes.steady setup (steady.of_eq rfl rfl (readings_taking _ _ _))
      have ok := ends.eq_ok_of_steady setup steadyLast
      rw [ok] at ends
      exact ⟨_, Prod.ext ok rfl, passes.prompt_mem setup ends⟩

/-! ## The end -/

/-- A session that has come to its prompt comes to the end of its conversation. -/
structure Converses (launched talked : Session) : Prop where
  phase : talked.phase = .interactive
  logged : launched.host.log <+: talked.host.log
  /-- A line was asked for, unless an exit had ended the session before. -/
  prompted : launched.host.terminated = false →
    .prompt (Config.prompt setup.config) ∈ talked.host.log

/-- A session that has come to its conversation completes it: it is done, with its
interpreter released. -/
structure Completes (session talked final : Session) : Prop extends EndsFrom talked final where
  /-- If the history can be saved, it is what was loaded and read. -/
  remembered :
    let path := Config.historyPath setup.config
    (History.save talked.files path talked.editor.entries).1 = .ok () →
    ∃ (loaded : List String) (consumed : List Reading) (kept : List String),
      (History.load session.files path).1 = .ok loaded ∧
      session.editor.readings = consumed ++ final.editor.readings ∧
      (consumed.filterMap Reading.line?).filter History.isStorable = kept.map .plain ∧
      final.files.read path =
        .ok (String.join ((loaded ++ kept).map (· ++ "\n"))).toUTF8.data.toList

/-- **A steady session comes to the end of its conversation.** -/
theorem exists_converses {session launched : Session}
    (begun : (untilPrompt setup).perform session = (.ok (), launched)) (steady : Steady launched)
    (noNul : (Config.historyPath setup.config).hasNul = false) :
    ∃ talked, (untilSave setup).perform session = (.ok (), talked) ∧
      Converses setup launched talked := by
  obtain ⟨talked, interacted, prompted⟩ := exists_perform_interact_of_steady setup
    (phase_of_untilPrompt setup begun) steady noNul
  obtain ⟨events, log, _⟩ := (advances_interact setup).of_perform interacted
  have parts : untilSave setup = (do untilPrompt setup; interact setup) := by
    simp only [untilSave, untilPrompt, bind_assoc]
  refine ⟨talked, by rw [parts, perform_bind_of_ok begun, interacted], ?_⟩
  exact ⟨phase_of_interact setup interacted, ⟨events, log.symm⟩, prompted⟩

section Talked

variable {setup} {session talked : Session}
  (talks : (untilSave setup).perform session = (.ok (), talked))
  (talking : talked.phase = .interactive)

include talks talking

/-- **It is completed if the save meets nothing but faults of the file system.** -/
theorem exists_completes (blank : session.editor.entries = [])
    (clean : SavesButForFaults setup talked) :
    ∃ final, (run setup).perform session = (.ok (), final) ∧
      Completes setup session talked final := by
  obtain ⟨final, closes, ends⟩ := exists_endsFrom_of_interactive setup talking clean
  refine ⟨final, by rw [run_eq_untilSave, perform_bind_of_ok talks, closes], ends, ?_⟩
  intro path saves
  exact exists_read_of_saved setup blank talks closes saves

/-- A line that has no encoding ends the run at the save. -/
theorem exists_perform_run_of_fault (noNul : (Config.historyPath setup.config).hasNul = false)
    (fails : ¬ SavesButForFaults setup talked) :
    ∃ fault left, (run setup).perform session = (.error (.unencodable fault), left) ∧
      left.phase = .terminating ∧ talked.host.log <+: left.host.log := by
  obtain ⟨writable, _, _, _, fault, met, broken⟩ :=
    History.exists_fault_of_not_savesButForFaults noNul fails
  obtain ⟨_, saves, _⟩ := History.exists_save_of_fault met broken writable
  have closes := perform_shutdown_of_fault setup talking saves
  rw [run_eq_untilSave, perform_bind_of_ok talks]
  exact ⟨fault, _, closes, rfl, _, (List.append_assoc ..).symm⟩

/-- Either way the run goes on from the end of the conversation. -/
theorem ends_run_of_talked (blank : session.editor.entries = [])
    (noNul : (Config.historyPath setup.config).hasNul = false) :
    let ended := (run setup).perform session
    talked.host.log <+: ended.2.host.log ∧
      (SavesButForFaults setup talked →
        ended.1 = .ok () ∧ Completes setup session talked ended.2) ∧
      (¬ SavesButForFaults setup talked →
        ∃ fault, ended.1 = .error (.unencodable fault) ∧ ended.2.phase = .terminating) := by
  intro ended
  by_cases clean : SavesButForFaults setup talked
  · obtain ⟨final, ran, completes⟩ := exists_completes talks talking blank clean
    obtain ⟨events, log, _⟩ := completes.announced
    rw [show ended = _ from ran]
    exact ⟨⟨events, log.symm⟩, fun _ => ⟨rfl, completes⟩, (absurd clean ·)⟩
  · obtain ⟨fault, left, ran, phase, logged⟩ :=
      exists_perform_run_of_fault talks talking noNul clean
    rw [show ended = _ from ran]
    exact ⟨logged, (absurd · clean), fun _ => ⟨fault, rfl, phase⟩⟩

end Talked

end Setup

end CommandShell.Session
