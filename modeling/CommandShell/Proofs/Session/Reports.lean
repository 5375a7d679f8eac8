/-
# What is reported

Whatever goes wrong in a session is reported on the error channel, once and in its
place.  A failure may come as the outcome of an evaluation or escape from it; either
way the stage in which it happens makes one complaint at most, which is laid down by
the session that comes to the stage, and nothing else is ever written there.
-/

import CommandShell.Proofs.Session.Course

namespace CommandShell

namespace Event

theorem complaints_flatMap {α : Type} (list : List α) (events : α → List Event) :
    complaints (list.flatMap events) = list.flatMap fun value => complaints (events value) :=
  List.filterMap_flatMap

end Event

namespace Evaluator

open Act

/-- A script that is unwound by an exit comes to an empty success. -/
theorem perform_evaluate_of_unwound {text message : Text} {host after : Host}
    (unwound : (Host.evaluate text).perform { host with exiting := false } =
      (.error (.script message), after))
    (byExit : (errorCode.perform after).1 = .ok exitErrorCode) :
    (evaluate text).perform host = (.ok (.success ""), after) := by
  have same : (errorCode.perform after).2 = after := (moves_errorCode after).symm
  have code : errorCode.perform after = (.ok exitErrorCode, after) := Prod.ext byExit same
  have cleared : (setExiting false).perform host = (.ok (), { host with exiting := false }) := rfl
  rw [evaluate, perform_bind_of_ok cleared, evaluateCommand, perform_tryCatch, perform_map,
    unwound]
  dsimp only
  rw [judge, perform_bind_of_ok code, if_pos rfl]
  rfl

end Evaluator

namespace Outcome

theorem complaints_ok (outcome : Outcome) :
    complaints (.ok outcome) =
      if outcome.isSuccess = false ∧ outcome.text ≠ "" then [outcome.text] else [] := by
  cases outcome with
  | success text => rfl
  | failure text =>
      by_cases empty : text = "" <;> simp [complaints, report?, isSuccess, Outcome.text, empty]

theorem length_complaints_le_one (answer : Except Failure Outcome) :
    (complaints answer).length ≤ 1 := by
  cases answer with
  | error obstacle => exact Nat.zero_le 1
  | ok outcome =>
      rw [complaints_ok]
      split <;> simp

theorem length_lineComplaints_le_one (answer : Except Failure Outcome) :
    (lineComplaints answer).length ≤ 1 := by
  cases answer with
  | error obstacle =>
      rw [lineComplaints]
      split <;> simp
  | ok outcome => exact length_complaints_le_one (.ok outcome)

end Outcome

namespace Session

open Act

variable (setup : Setup)

theorem Course.complaints {session last : Session} {legs : List Leg}
    {result : Except Failure Unit} (course : Course setup session legs result last) :
    Event.complaints last.host.log = Event.complaints session.host.log ++
      legs.flatMap fun leg => leg.stage.complained setup leg.before := by
  have made (leg : Leg) : Event.complaints (leg.events setup) =
      leg.stage.complained setup leg.before :=
    (leg.tells setup).2.2.1
  simp only [course.log, Event.complaints_append, Event.complaints_flatMap, made]

/-- A stage makes one complaint at most, however many commands a file has. -/
theorem Stage.length_complained_le_one (stage : Stage) (session : Session) :
    (stage.complained setup session).length ≤ 1 := by
  cases stage with
  | threads =>
      simp only [complained, threadComplaints]
      split <;> simp
  | banner => exact Outcome.length_complaints_le_one _
  | definition => exact Outcome.length_complaints_le_one _
  | importing => exact Outcome.length_complaints_le_one _
  | initFile =>
      simp only [complained]
      cases initFile? setup session with
      | none => exact Nat.zero_le 1
      | some path => exact Outcome.length_complaints_le_one _
  | command text => exact Outcome.length_complaints_le_one _
  | launchFile path => exact Outcome.length_complaints_le_one _
  | round =>
      simp only [complained, roundComplaints]
      split
      · exact Outcome.length_lineComplaints_le_one _
      · exact Nat.zero_le 1
  | save =>
      simp only [complained, saveComplaints]
      split <;> simp
  | _ => exact Nat.zero_le 1

/-- **Every failure is reported once.**  The lines on the error channel of a run are
those of its stages, in order, one for a stage at most: the warning of a thread count
that was refused, then the error of the banner, of the definition and the import of
the commands, of the init file, of the command and the file of the launch and of each
line that was read, then the warning of a history that could not be saved.  The stages
are the first ones of an itinerary, and all of them if the run succeeds.  An evaluation
is reported if and only if it has failed with a text, or, for a line, with a failure
that the conversation survives; one that an exit has unwound is not. -/
theorem failures_reported_once (table : ScriptTable) (engine : Engine) (editor : Editor)
    (files : FileTree) :
    let session := fresh table engine editor files
    let ended := (run setup).perform session
    (∃ legs shots rounds, shots.Sublist (oneShots setup) ∧
      Course setup session legs ended.1 ended.2 ∧
      Covers (itinerary setup shots rounds) legs ended.1 ∧
      Event.complaints ended.2.host.log =
        legs.flatMap (fun leg => leg.stage.complained setup leg.before) ∧
      ∀ leg ∈ legs, (leg.stage.complained setup leg.before).length ≤ 1) ∧
    (∀ outcome, Outcome.complaints (.ok outcome) = Outcome.lineComplaints (.ok outcome) ∧
      Outcome.complaints (.ok outcome) =
        if outcome.isSuccess = false ∧ outcome.text ≠ "" then [outcome.text] else []) ∧
    ∀ text message host after,
      (Host.evaluate text).perform { host with exiting := false } =
        (.error (.script message), after) →
      (Evaluator.errorCode.perform after).1 = .ok exitErrorCode →
      Outcome.lineComplaints ((Evaluator.evaluate text).perform host).1 = [] := by
  intro session ended
  refine ⟨?_, ?_, ?_⟩
  · have created : session.phase = .created := rfl
    obtain ⟨legs, shots, rounds, areShots, course, covers⟩ := travels_run setup created
    refine ⟨legs, shots, rounds, areShots, course, covers, course.complaints, ?_⟩
    intro leg _
    exact leg.stage.length_complained_le_one setup leg.before
  · intro outcome
    exact ⟨rfl, Outcome.complaints_ok outcome⟩
  · intro text message host after unwound byExit
    rw [Evaluator.perform_evaluate_of_unwound unwound byExit]
    rfl

end Session

end CommandShell
