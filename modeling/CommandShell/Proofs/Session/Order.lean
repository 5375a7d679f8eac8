/-
# The order of the beginning

Everything that a script of the user may rely on is there when it comes: the commands
are bound before the start-up script, the start-up script has succeeded, and the
commands it defines have been imported.  All of this is read off the itinerary, which
every run follows as far as it gets.
-/

import Mathlib.Data.List.Nodup
import CommandShell.Proofs.Session.Course

namespace CommandShell

open Act

namespace Host

theorem log_of_register {name : String} {command : Command} {host after : Host}
    (h : (register name command).perform host = (.ok (), after)) :
    after.log = host.log ++ [.createCommand name] := by
  obtain ⟨_, _, rfl⟩ := exists_eq_of_register h
  rfl

theorem createCommand_mem_of_forM {queries : List Engine.Query} {host after : Host}
    (h : (queries.forM fun query => register query.name (.engine query)).perform host =
      (.ok (), after)) {query : Engine.Query} (member : query ∈ queries) :
    .createCommand query.name ∈ after.log := by
  induction queries generalizing host with
  | nil => cases member
  | cons first rest ih =>
      obtain ⟨_, between, registered, others⟩ := perform_bind_eq_ok h
      rcases List.mem_cons.mp member with rfl | later
      · have kept : Moves RecordsOwn (rest.forM fun query => register query.name (.engine query)) :=
          recordsOwn_of_setUp (moves_forM fun _ _ => hands_register _ _)
        obtain ⟨events, log, _⟩ := kept.of_perform others
        rw [log, log_of_register registered]
        simp
      · exact ih others later

end Host

/-- An evaluation that comes to an outcome has handed over its script, unless that is a
query of the host itself. -/
theorem Evaluator.exists_scripts_of_evaluate {script : Text} {outcome : Outcome}
    {host after : Host} (h : (evaluate script).perform host = (.ok outcome, after)) :
    ∃ events, after.log = host.log ++ events ∧
      Event.scripts events = [script].filter (!Host.isOwnQuery ·) := by
  let cleared : Host := { host with exiting := false }
  have evaluated : (evaluateCommand script).perform cleared = (.ok outcome, after) := h
  cases held : host.interpreter with
  | none =>
      have released : cleared.interpreter = none := held
      rw [perform_evaluateCommand_of_released released script] at evaluated
      cases evaluated
  | some interpreter =>
      have there : cleared.interpreter.isSome = true := by
        simp [cleared, held]
      have handed := evaluates_evaluateCommand script cleared
      rw [evaluated] at handed
      exact handed.exists_scripts there

theorem Evaluator.createCommand_mem_of_registerExit {listener : ExitListener}
    {host after : Host} (h : (registerExit listener).perform host = (.ok (), after)) :
    .createCommand exitCallbackName ∈ after.log := by
  obtain ⟨_, between, registered, evaluated⟩ := perform_bind_eq_ok h
  have grown := (Host.recordsOwn_evaluate exitProcedure).discard.of_perform evaluated
  obtain ⟨events, log, _⟩ := grown
  rw [log, Host.log_of_register registered]
  simp

namespace Session

variable (setup : Setup)

/-- The start-up script succeeds only if it decodes and is evaluated with success. -/
theorem evaluate_of_runPayload {session after : Session}
    (h : (runPayload setup).perform session = (.ok (), after)) :
    ∃ script text, Payload.decode setup.payload = .ok script ∧
      (Evaluator.evaluate script).perform session.host = (.ok (.success text), after.host) := by
  rw [runPayload] at h
  cases decoded : Payload.decode setup.payload with
  | error defect =>
      rw [decoded] at h
      cases h
  | ok script =>
      simp only [decoded] at h
      obtain ⟨outcome, between, evaluated, h⟩ := perform_bind_eq_ok h
      cases outcome with
      | success text =>
          cases h
          exact ⟨script, text, rfl, perform_host_of_onHost evaluated⟩
      | failure text =>
          obtain ⟨trace, _, _, h⟩ := perform_bind_eq_ok h
          cases trace <;> cases h

/-- The script that a stage evaluates in every session. -/
def Stage.script? : Stage → Option String
  | .banner => some bannerScript
  | .definition => some definitionScript
  | .importing => some importScript
  | _ => none

/-- An evaluation that is reported has handed over its script. -/
theorem exists_scripts_of_evaluate {script : Text} {session after : Session}
    (notOwn : Host.isOwnQuery script = false)
    (passed : (evaluate script).perform session = (.ok (), after)) :
    ∃ events, after.host.log = session.host.log ++ events ∧ Event.scripts events = [script] := by
  obtain ⟨outcome, between, evaluated, reported⟩ := perform_bind_eq_ok passed
  have onHost := perform_host_of_onHost evaluated
  obtain ⟨events, log, handed⟩ := Evaluator.exists_scripts_of_evaluate onHost
  obtain ⟨_, same, others, log', none, _⟩ := exists_perform_report outcome between
  obtain rfl : after = _ := congrArg Prod.snd (reported.symm.trans same)
  refine ⟨events ++ others, by rw [log', log, List.append_assoc], ?_⟩
  rw [Event.scripts_append, handed, List.sublist_nil.mp none]
  simp [notOwn]

theorem Leg.scripts_of_passed {leg : Leg} {script : String}
    (fixed : leg.stage.script? = some script)
    (passed : (leg.stage.act setup).perform leg.before = (.ok (), leg.after setup)) :
    Event.scripts (leg.events setup) = [Text.plain script] := by
  have evaluated : Host.isOwnQuery script = false ∧
      (evaluate script).perform leg.before = (.ok (), leg.after setup) := by
    obtain ⟨stage, before⟩ := leg
    cases stage <;> cases fixed <;> exact ⟨by decide, passed⟩
  obtain ⟨events, log, handed⟩ := exists_scripts_of_evaluate evaluated.1 evaluated.2
  rw [Leg.events, log, List.drop_left, handed]

/-! ## What precedes what -/

/-- Where something is met that is not in the first part of a plan, that part has been
gone through. -/
theorem prefix_of_not_mem {α : Type} {plan rest front back : List α} {value : α}
    (h : front ++ value :: back <+: plan ++ rest) (elsewhere : value ∉ plan) :
    plan <+: front := by
  have met : front ++ [value] <+: plan ++ rest := by
    refine List.IsPrefix.trans ⟨back, ?_⟩ h
    rw [List.append_assoc, List.singleton_append]
  rcases List.prefix_or_prefix_of_prefix met (List.prefix_append plan rest) with inside | beyond
  · exact absurd (inside.subset (by simp)) elsewhere
  rcases List.prefix_concat_iff.mp beyond with same | through
  · exact absurd (same ▸ List.mem_append_right front (List.mem_singleton_self value)) elsewhere
  · exact through

theorem isUser_of_mem_opening {stage : Stage} (h : stage ∈ opening setup) :
    stage.isUser = false := by
  have none : (opening setup).all fun stage => !stage.isUser := by
    rw [opening]
    cases setup.args.hasFlag "-no_splash" <;> rfl
  simpa using List.all_eq_true.mp none stage h

/-- Before a stage that is not in the first part of a plan, that part has been gone
through. -/
theorem Covers.gone_through {plan rest : List Stage} {front back : List Leg} {leg : Leg}
    {result : Except Failure Unit} (covers : Covers (plan ++ rest) (front ++ leg :: back) result)
    (elsewhere : leg.stage ∉ plan) : plan <+: front.map Leg.stage := by
  have partly := covers.1
  rw [List.map_append, List.map_cons] at partly
  exact prefix_of_not_mem partly elsewhere

theorem exists_leg_of_mem {stage : Stage} {plan : List Stage} {legs : List Leg}
    (h : plan <+: legs.map Leg.stage) (member : stage ∈ plan) :
    ∃ leg ∈ legs, leg.stage = stage :=
  List.mem_map.mp (h.subset member)

/-- No stage but the rounds of the conversation comes twice. -/
theorem count_itinerary_le_one {shots : List Stage} (areShots : shots.Sublist (oneShots setup))
    (rounds : Nat) {stage : Stage} (notRound : stage ≠ .round) :
    (itinerary setup shots rounds).count stage ≤ 1 := by
  have nodup : (itinerary setup (oneShots setup) 0).Nodup := by
    rw [itinerary, opening, preparation, oneShots]
    cases setup.args.hasFlag "-no_splash" <;> cases setup.args.hasFlag "-no_init" <;>
      cases setup.args.value? "-x" <;> cases setup.args.value? "-f" <;> simp
  have once := List.nodup_iff_count_le_one.mp nodup stage
  have fewer := areShots.count_le stage
  simp only [itinerary, List.count_append, List.count_replicate, notRound.symm,
    beq_iff_eq, if_false, List.replicate_zero, List.count_nil] at once ⊢
  omega

section Itinerary

variable {setup} {shots : List Stage} {rounds : Nat} {front back : List Leg} {leg : Leg}
  {result : Except Failure Unit}

theorem Covers.opening_prefix
    (covers : Covers (itinerary setup shots rounds) (front ++ leg :: back) result)
    (user : leg.stage.isUser = true) : opening setup <+: front.map Leg.stage := by
  simp only [itinerary, List.append_assoc] at covers
  refine covers.gone_through fun member => ?_
  rw [isUser_of_mem_opening setup member] at user
  cases user

theorem Covers.preparation_prefix
    (covers : Covers (itinerary setup shots rounds) (front ++ leg :: back) result)
    (isPayload : leg.stage = .payload) : preparation <+: front.map Leg.stage := by
  simp only [itinerary, opening, List.append_assoc] at covers
  refine covers.gone_through ?_
  rw [isPayload]
  decide

end Itinerary

/-- When the start-up script comes, the commands that the interpreter is set up with are
there. -/
theorem createCommand_mem_of_preparation {front back : List Leg} {leg : Leg}
    {session last : Session} {result : Except Failure Unit}
    (course : Course setup session (front ++ leg :: back) result last)
    (prepared : preparation <+: front.map Leg.stage) {name : String}
    (named : name ∈ exitCallbackName :: Engine.queries.map Engine.Query.name) :
    .createCommand name ∈ leg.before.host.log := by
  rcases List.mem_cons.mp named with rfl | isQuery
  · have isThere : .exitCommand ∈ preparation := by decide
    obtain ⟨earlier, inFront, stage⟩ := exists_leg_of_mem prepared isThere
    obtain ⟨passed, onRecord⟩ := course.passed inFront
    rw [stage] at passed
    have bound := perform_host_of_onHost passed
    exact onRecord.subset (Evaluator.createCommand_mem_of_registerExit bound)
  · obtain ⟨query, known, rfl⟩ := List.mem_map.mp isQuery
    have isThere : .engineCommands ∈ preparation := by decide
    obtain ⟨earlier, inFront, stage⟩ := exists_leg_of_mem prepared isThere
    obtain ⟨passed, onRecord⟩ := course.passed inFront
    rw [stage] at passed
    have registered := perform_host_of_onHost passed
    exact onRecord.subset (Host.createCommand_mem_of_forM registered known)

/-- A run that has only just begun comes to the thread count first. -/
theorem exists_eq_cons_of_covers {shots : List Stage} {rounds : Nat} {legs : List Leg}
    {session last : Session} {result : Except Failure Unit}
    (course : Course setup session legs result last)
    (covers : Covers (itinerary setup shots rounds) legs result) :
    ∃ rest, legs = ⟨.threads, session⟩ :: rest := by
  cases course with
  | stay session => cases covers.2 rfl
  | pass passed rest =>
      obtain ⟨_, same⟩ := covers.1
      cases (List.cons.inj same).1
      exact ⟨_, rfl⟩
  | fail failed =>
      obtain ⟨_, same⟩ := covers.1
      cases (List.cons.inj same).1
      exact ⟨_, rfl⟩

theorem events_of_rejected {value : Text} (session : Session)
    (rejected : setup.args.threadCount setup.processors = .error (.threadCount value)) :
    Leg.events setup ⟨.threads, session⟩ = [.errorLine threadsWarning] := by
  have warned : (Stage.threads.act setup).perform session =
      (.ok (), session.taking [.errorLine threadsWarning] []) := by
    rw [Stage.act, perform_discard, applyThreadHint, rejected]
    simp [emit, perform_emitAll]
  rw [Leg.events, Leg.after, warned]
  exact List.drop_left

/-- **The beginning has an order, and the user comes last in it.**  Every run of a
fresh session, cut short or not, is a course of stages that follows an itinerary: the
interpreter is set up, the start-up script is evaluated, the banner is shown unless
that is forbidden, the commands are defined and imported, and only then come the init
file, the command and the file of the launch and the lines that are read, in this
order whatever the order of the launch arguments, each at most once but for the lines.

A warning about the thread count comes before everything else.  The exit command and
the commands of the engine are there when the start-up script comes.  Before every
script of the user the whole beginning has been gone through, and the start-up script
has succeeded.  A stage hands over no other scripts than its own, those of the init
file only if it is found; the banner, the definition and the import of the commands are
handed over where their stage is passed, so before every stage that follows.  A line is
asked for in the rounds of the conversation alone. -/
theorem start_up_in_order (table : ScriptTable) (engine : Engine) (editor : Editor)
    (files : FileTree) :
    let session := fresh table engine editor files
    let ended := (run setup).perform session
    ∃ legs shots rounds, shots.Sublist (oneShots setup) ∧
      Course setup session legs ended.1 ended.2 ∧
      Covers (itinerary setup shots rounds) legs ended.1 ∧
      ended.2.host.log = legs.flatMap (Leg.events setup) ∧
      (∀ stage, stage ≠ .round → (legs.map Leg.stage).count stage ≤ 1) ∧
      (∀ value, setup.args.threadCount setup.processors = .error (.threadCount value) →
        ∃ rest, ended.2.host.log = .errorLine threadsWarning :: rest) ∧
      (∀ leg ∈ legs, leg.stage = .payload →
        ∀ name ∈ exitCallbackName :: Engine.queries.map Engine.Query.name,
          .createCommand name ∈ leg.before.host.log) ∧
      (∀ front leg back, legs = front ++ leg :: back → leg.stage.isUser = true →
        opening setup <+: front.map Leg.stage ∧
          ∃ payload ∈ front, payload.stage = .payload ∧
            ∃ script text, Payload.decode setup.payload = .ok script ∧
              (Evaluator.evaluate script).perform payload.before.host =
                (.ok (.success text), (payload.after setup).host)) ∧
      (∀ front leg back, legs = front ++ leg :: back →
        back ≠ [] ∨ ended.1 = .ok () → ∀ script, leg.stage.script? = some script →
          Event.scripts (leg.events setup) = [Text.plain script]) ∧
      ∀ leg ∈ legs,
        (Event.scripts (leg.events setup)).Sublist (leg.stage.handed setup leg.before) ∧
          ∀ text, .prompt text ∈ leg.events setup → leg.stage = .round := by
  intro session ended
  have created : session.phase = .created := rfl
  obtain ⟨legs, shots, rounds, areShots, course, covers⟩ := travels_run setup created
  have log : ended.2.host.log = legs.flatMap (Leg.events setup) := course.log
  refine ⟨legs, shots, rounds, areShots, course, covers, log, ?_, ?_, ?_, ?_, ?_, ?_⟩
  · intro stage notRound
    have once := count_itinerary_le_one setup areShots rounds notRound
    exact Nat.le_trans (covers.1.sublist.count_le stage) once
  · intro value rejected
    obtain ⟨rest, rfl⟩ := exists_eq_cons_of_covers setup course covers
    rw [log, List.flatMap_cons, events_of_rejected setup session rejected]
    exact ⟨_, rfl⟩
  · intro leg member isPayload
    obtain ⟨front, back, rfl⟩ := List.append_of_mem member
    intro name named
    have prepared := covers.preparation_prefix isPayload
    exact createCommand_mem_of_preparation setup course prepared named
  · rintro front leg back rfl user
    have gone := covers.opening_prefix user
    have inOpening : Stage.payload ∈ opening setup := by
      simp [opening]
    obtain ⟨payload, inFront, isPayload⟩ := exists_leg_of_mem gone inOpening
    have passed := (course.passed inFront).1
    rw [isPayload] at passed
    exact ⟨gone, payload, inFront, isPayload, evaluate_of_runPayload setup passed⟩
  · rintro front leg back rfl goesOn script fixed
    refine leg.scripts_of_passed setup fixed ?_
    rcases goesOn with more | succeeded
    · obtain ⟨between, begun, _⟩ := (List.append_cons front leg back ▸ course).split more
      exact (begun.passed_of_ok rfl (by simp)).1
    · exact (course.passed_of_ok succeeded (by simp)).1
  · intro leg _
    obtain ⟨_, handed, _, prompted⟩ := leg.tells setup
    refine ⟨handed, fun text shown => ?_⟩
    have isThere : text ∈ leg.stage.prompted setup := by
      rw [← prompted]
      exact List.mem_filterMap.mpr ⟨_, shown, rfl⟩
    cases stage : leg.stage <;> rw [stage] at isThere <;> first | rfl | cases isThere

/-- The command of a launch comes before its file, in whatever order they are given. -/
example : oneShots { sampleSetup with args := ⟨["sta", "-f", "run.tcl", "-x", "go"]⟩ } =
    [.command "go", .launchFile ⟨.relative, ["run.tcl"]⟩] := by
  decide +kernel

end Session

end CommandShell
