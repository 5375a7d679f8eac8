/-
# Sessions that have not begun

A start registers the commands of the engine last, and then nothing of it fails any more.
So a session that is still in its first phase, because nothing has been started or because
a start has failed, holds an interpreter in which no command asks the engine, whatever has
been requested of it.
-/

import CommandShell.Proofs.Evaluator.Release
import CommandShell.Proofs.Host.EngineCommands
import CommandShell.Proofs.Host.EngineFree
import CommandShell.Proofs.Session.Speech

namespace CommandShell

open Act Host

namespace Session

variable (setup : Setup)

/-! ## A start in parts -/

/-- What is set up besides the thread count and the commands of the engine. -/
def equip : SessionM Unit := do
  onHost (Evaluator.registerExit .session)
  modify fun session => { session with editor := session.editor.setHook Completion.builtin }
  onHost (Evaluator.publish setup.args.words)

/-- What a start does once the thread count is settled. -/
def startSettled : SessionM Unit := do
  equip setup
  onHost registerEngine
  enter .initialized

theorem perform_start_eq {session : Session} (created : session.phase = .created) :
    (start setup).perform session =
      (applyThreadHint setup >>= fun _ => startSettled setup).perform session := by
  rw [perform_start_of_created setup created]
  simp only [prepare, startSettled, equip, bind_assoc]
  rw [perform_bind, perform_bind, perform_discard]
  rcases (applyThreadHint setup).perform session with ⟨failure | hint, after⟩ <;> rfl

/-! ## What keeps an interpreter free of the engine -/

/-- The phase is kept, and a host that is free of the engine stays so. -/
structure KeepsFree (before after : Session) : Prop where
  phase : after.phase = before.phase
  free : StaysFree before.host after.host

instance : IsPreorder Session KeepsFree where
  refl session := ⟨rfl, refl_of StaysFree session.host⟩
  trans _ _ _ ab bc := ⟨bc.phase.trans ab.phase, trans_of StaysFree ab.free bc.free⟩

theorem Remarks.keepsFree {before after : Session} (remarks : Remarks before after) :
    KeepsFree before after := by
  refine ⟨remarks.phase, StaysFree.of_shrinks ?_⟩
  rw [remarks.interpreter]
  exact Shrinks.refl _

theorem keepsFree_onHost {α : Type} {act : HostM α} (h : Moves StaysFree act) :
    Moves KeepsFree (onHost act) := by
  intro session
  exact ⟨rfl, h session.host⟩

/-- What registers nothing takes commands away at most. -/
theorem keepsFree_of_registersNothing {α : Type} {act : HostM α}
    (h : Moves Evaluator.RegistersNothing act) : Moves KeepsFree (onHost act) :=
  keepsFree_onHost (h.mono fun nothing => StaysFree.of_shrinks nothing.interpreter)

theorem keepsFree_scripts : KeptByScripts KeepsFree where
  script script := by
    apply keepsFree_of_registersNothing
    exact (Evaluator.registersNothing_setExiting false).bind fun _ =>
      Evaluator.registersNothing_evaluateCommand script
  file files path :=
    keepsFree_of_registersNothing (Evaluator.registersNothing_sourceFile files path true true)
  remark _ isRemark := (remarks_emit isRemark).mono Remarks.keepsFree

theorem keepsFree_equip : Moves KeepsFree (equip setup) := by
  have defined : Moves StaysFree (Host.evaluate exitProcedure) :=
    (Evaluator.registersNothing_hostEvaluate _).mono fun nothing =>
      StaysFree.of_shrinks nothing.interpreter
  have bound : Moves StaysFree (Evaluator.registerExit .session) :=
    (staysFree_register _ (by simp)).bind fun _ => defined.discard
  apply (keepsFree_onHost bound).bind
  intro _
  refine Moves.bind (R := KeepsFree) (moves_modify fun _ => ⟨rfl, id⟩) fun _ => ?_
  exact keepsFree_of_registersNothing (Evaluator.registersNothing_publish _)

/-! ## Sessions in their first phase -/

/-- The session has begun, or no command of its interpreter asks the engine. -/
def FreeUntilBegun (session : Session) : Prop :=
  session.phase = .created → session.host.IsEngineFree

/-- The commands of the engine are registered with an interpreter that is held, and then
the first phase is over; without one there is nothing to be registered with. -/
theorem freeUntilBegun_registerEngine {session : Session} (created : session.phase = .created) :
    (((do onHost registerEngine; enter .initialized : SessionM Unit).perform
      session).2).FreeUntilBegun := by
  cases held : session.host.interpreter with
  | none =>
      have refused : (onHost registerEngine).perform session = (.error .finalized, session) := by
        apply perform_onHost
        simp [registerEngine, Engine.queries, Evaluator.perform_register_of_released held]
      rw [perform_bind_of_error refused]
      intro _ interpreter held'
      rw [held] at held'
      cases held'
  | some interpreter =>
      have holds : session.host.Holds := Option.isSome_iff_exists.mpr ⟨interpreter, held⟩
      obtain ⟨host, registered, -⟩ := exists_perform_registerEngine holds
      have next : ({ session with host } : Session).phase.precedes .initialized = true := by
        rw [show ({ session with host } : Session).phase = .created from created]
        rfl
      rw [perform_bind_of_ok (perform_onHost registered), perform_enter_of_precedes next]
      rintro ⟨⟩

/-- What a session was before it had begun, it still is unless it has begun since. -/
def KeepsFreeUntilBegun (before after : Session) : Prop :=
  before.FreeUntilBegun → after.FreeUntilBegun

instance : IsPreorder Session KeepsFreeUntilBegun where
  refl _ := id
  trans _ _ _ := fun first second free => second (first free)

theorem KeepsFree.untilBegun {before after : Session} (kept : KeepsFree before after) :
    KeepsFreeUntilBegun before after := by
  intro free created
  exact kept.free (free (kept.phase.symm.trans created))

/-- A session that has begun does not go back. -/
theorem Advances.freeUntilBegun {before after : Session} (advances : Advances before after)
    (begun : before.phase ≠ .created) : after.FreeUntilBegun := by
  obtain ⟨_, _, path, _⟩ := advances
  intro created
  have none : before.phase.path = [] := by
    rw [created] at path
    exact (List.append_eq_nil_iff.mp path.symm).1
  revert begun none
  cases before.phase <;> simp [Phase.path, Phase.line, Phase.rank]

theorem keepsFreeUntilBegun_start : Moves KeepsFreeUntilBegun (start setup) := by
  intro session
  by_cases created : session.phase = .created
  · rw [perform_start_eq setup created]
    have hint := (remarks_applyThreadHint setup session).keepsFree
    refine related_bind hint.untilBegun fun _ hinted taken => ?_
    have equipped := keepsFree_equip setup hinted
    refine related_bind equipped.untilBegun fun _ ready equips _ => ?_
    rw [taken] at hint
    rw [equips] at equipped
    exact freeUntilBegun_registerEngine (equipped.phase.trans (hint.phase.trans created))
  · rw [perform_start_of_not_created setup created]
    exact refl_of KeepsFreeUntilBegun session

theorem keepsFreeUntilBegun_run : Moves KeepsFreeUntilBegun (run setup) := by
  intro session
  refine related_bind (keepsFreeUntilBegun_start setup session) fun _ started starts _ => ?_
  obtain ⟨between, _, rfl⟩ := eq_entering_of_start setup starts
  have advances := advances_requests setup
  have rest : Moves Advances (do
      bootstrap setup
      runOneShots setup
      interact setup
      shutdown setup) := by
    apply advances.bootstrap.bind
    intro _
    apply (advances.runOneShots setup).bind
    intro _
    exact advances.interact.bind fun _ => advances.shutdown
  exact (rest _).freeUntilBegun nofun

theorem keepsFreeUntilBegun_serve (request : Request) :
    Moves KeepsFreeUntilBegun (serve setup request) := by
  have kept {α : Type} {act : SessionM α} (h : Moves KeepsFree act) :
      Moves KeepsFreeUntilBegun act := h.mono KeepsFree.untilBegun
  have remarked {α : Type} {act : SessionM α} (h : Moves Remarks act) :
      Moves KeepsFreeUntilBegun act := kept (h.mono Remarks.keepsFree)
  -- Other phases than the first are entered from one another, so what belongs to them is refused.
  have later {needed : Phase} (needs : request.phase? = some needed)
      (notFirst : needed ≠ .created) : Moves KeepsFreeUntilBegun (serve setup request) := by
    intro session
    by_cases created : session.phase = .created
    · have elsewhere : session.phase ≠ needed := created ▸ notFirst.symm
      obtain ⟨_, refused⟩ := perform_serve_of_misplaced setup needs elsewhere
      rw [refused]
      exact refl_of KeepsFreeUntilBegun session
    · exact fun _ => ((advances_requests setup).serve request session).freeUntilBegun created
  cases request with
  | start => exact (keepsFreeUntilBegun_start setup).bind fun _ => moves_pure _
  | run => exact (keepsFreeUntilBegun_run setup).bind fun _ => moves_pure _
  | bootstrap => exact later rfl nofun
  | interact => exact later rfl nofun
  | shutdown => exact later rfl nofun
  | runOneShots => exact (kept (keepsFree_scripts.runOneShots setup)).bind fun _ => moves_pure _
  | sourceInitFile =>
      exact (kept (keepsFree_scripts.sourceInitFile setup)).bind fun _ => moves_pure _
  | saveHistory => exact (remarked (remarks_saveHistory setup)).bind fun _ => moves_pure _
  | addEntry line => exact (remarked (remarks_addEntry line)).bind fun _ => moves_pure _
  | applyThreadHint =>
      apply (remarked (remarks_applyThreadHint setup)).bind
      intro count
      cases count <;> exact moves_pure _
  | complete typed =>
      refine moves_get.bind fun session => ?_
      split <;> exact moves_pure _

/-- Whatever has been requested of a fresh session, until it has begun no command of its
interpreter asks the engine. -/
theorem freeUntilBegun_leftBy (table : ScriptTable) (engine : Engine) (editor : Editor)
    (files : FileTree) (requests : List Request) :
    (leftBy setup (fresh table engine editor files) requests).FreeUntilBegun := by
  have free : (fresh table engine editor files).FreeUntilBegun :=
    fun _ => isEngineFree_fresh table engine
  generalize fresh table engine editor files = session at free
  induction requests generalizing session with
  | nil => exact free
  | cons first rest ih => exact ih _ (keepsFreeUntilBegun_serve setup first session free)

end Session

end CommandShell
