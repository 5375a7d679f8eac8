/-
# Hearing an exit

An exit that the session listens for ends it on the spot.  A single evaluation
stops there by itself; whatever else demands something of the interpreter or of
the user has to look first whether the session has ended.  So there are two kinds
of computations, those that stop at an exit of their own and those that also
respect an earlier one, and one of each kind makes one of the first.
-/

import CommandShell.History
import CommandShell.Proofs.Host.Steps

namespace CommandShell

namespace Event

/-- Something is demanded: a script is handed over or a line asked for, or a
command or its result is shown.  The announcement of the save is an output too,
but demands nothing. -/
def isDemand : Event → Bool
  | .script _ | .prompt _ => true
  | .output text => text != History.saveMessage
  | _ => false

/-- Nothing is demanded after an exit. -/
def QuietAfterExit (events : List Event) : Prop :=
  events.Pairwise fun earlier later => earlier = .exitRun → later.isDemand = false

theorem isDemand_of_isStep {event : Event} (h : event.isStep = true) : event.isDemand = false := by
  cases event <;> first | rfl | cases h

theorem quietAfterExit_of_not_mem {events : List Event} (h : .exitRun ∉ events) :
    QuietAfterExit events := by
  apply List.pairwise_of_forall_mem_list
  rintro earlier member _ _ rfl
  exact absurd member h

theorem QuietAfterExit.append {first second : List Event} (hfirst : QuietAfterExit first)
    (hsecond : QuietAfterExit second)
    (quiet : .exitRun ∈ first → ∀ event ∈ second, event.isDemand = false) :
    QuietAfterExit (first ++ second) := by
  rw [QuietAfterExit, List.pairwise_append]
  refine ⟨hfirst, hsecond, ?_⟩
  rintro earlier member later member' rfl
  exact quiet member later member'

theorem QuietAfterExit.not_isDemand {before after : List Event}
    (h : QuietAfterExit (before ++ .exitRun :: after)) :
    ∀ event ∈ after, event.isDemand = false := by
  intro event member
  have tail := (List.pairwise_append.mp h).2.1
  exact (List.pairwise_cons.mp tail).1 event member rfl

end Event

namespace Host

open Act Event

/-- What a computation records and does about the end of the session, if it
hears every exit. -/
structure Heeds (before : Host) (events : List Event) (after : Host) : Prop where
  log : after.log = before.log ++ events
  hearsExit : after.HearsExit
  staysTerminated : before.terminated = true → after.terminated = true
  terminated : .exitRun ∈ events → after.terminated = true
  quiet : QuietAfterExit events

theorem Heeds.refl {host : Host} (hears : host.HearsExit) : Heeds host [] host where
  log := (List.append_nil _).symm
  hearsExit := hears
  staysTerminated := id
  terminated := by simp
  quiet := List.Pairwise.nil

/-- What follows an exit must demand nothing. -/
theorem Heeds.trans {a b c : Host} {first second : List Event} (hab : Heeds a first b)
    (hbc : Heeds b second c)
    (quiet : .exitRun ∈ first → ∀ event ∈ second, event.isDemand = false) :
    Heeds a (first ++ second) c where
  log := by rw [hbc.log, hab.log, List.append_assoc]
  hearsExit := hbc.hearsExit
  staysTerminated := fun h => hbc.staysTerminated (hab.staysTerminated h)
  terminated := by
    intro member
    rcases List.mem_append.mp member with inFirst | inSecond
    · exact hbc.staysTerminated (hab.terminated inFirst)
    · exact hbc.terminated inSecond
  quiet := hab.quiet.append hbc.quiet quiet

/-- The computation stops at an exit of its own. -/
def StopsAtExit (before after : Host) : Prop :=
  before.HearsExit → ∃ events, Heeds before events after

/-- The computation stops at an exit of its own, and demands nothing if the
session has ended before. -/
def ObeysExit (before after : Host) : Prop :=
  before.HearsExit → ∃ events, Heeds before events after ∧
    (before.terminated = true → ∀ event ∈ events, event.isDemand = false)

/-- The computation runs no exit. -/
def AvoidsExit (before after : Host) : Prop :=
  before.HearsExit → ∃ events, Heeds before events after ∧ .exitRun ∉ events

/-- Exits are heard as before, and the end of the session is final. -/
def KeepsHearing (before after : Host) : Prop :=
  (before.HearsExit → after.HearsExit) ∧
    (before.HearsExit → before.terminated = true → after.terminated = true)

theorem ObeysExit.stops {before after : Host} (h : ObeysExit before after) :
    StopsAtExit before after := by
  intro hears
  obtain ⟨events, heeds, _⟩ := h hears
  exact ⟨events, heeds⟩

theorem AvoidsExit.stops {before after : Host} (h : AvoidsExit before after) :
    StopsAtExit before after := by
  intro hears
  obtain ⟨events, heeds, _⟩ := h hears
  exact ⟨events, heeds⟩

theorem StopsAtExit.keepsHearing {before after : Host} (h : StopsAtExit before after) :
    KeepsHearing before after := by
  constructor
  · intro hears
    obtain ⟨_, heeds⟩ := h hears
    exact heeds.hearsExit
  · intro hears
    obtain ⟨_, heeds⟩ := h hears
    exact heeds.staysTerminated

/-- Before the session has ended, stopping at one's own exit is all there is to
obey. -/
theorem StopsAtExit.obeys {before after : Host} (h : StopsAtExit before after)
    (running : before.terminated = false) : ObeysExit before after := by
  intro hears
  obtain ⟨events, heeds⟩ := h hears
  refine ⟨events, heeds, ?_⟩
  intro ended
  rw [running] at ended
  cases ended

/-- After one's own exit the session has ended, and the rest obeys. -/
theorem StopsAtExit.trans_obeys {a b c : Host} (hab : StopsAtExit a b) (hbc : ObeysExit b c) :
    StopsAtExit a c := by
  intro hears
  obtain ⟨first, heeds⟩ := hab hears
  obtain ⟨second, heeds', obeys⟩ := hbc heeds.hearsExit
  exact ⟨first ++ second, heeds.trans heeds' fun ran => obeys (heeds.terminated ran)⟩

theorem AvoidsExit.trans_stops {a b c : Host} (hab : AvoidsExit a b) (hbc : StopsAtExit b c) :
    StopsAtExit a c := by
  intro hears
  obtain ⟨first, heeds, avoids⟩ := hab hears
  obtain ⟨second, heeds'⟩ := hbc heeds.hearsExit
  exact ⟨first ++ second, heeds.trans heeds' fun ran => absurd ran avoids⟩

instance : IsPreorder Host ObeysExit where
  refl _ := fun hears => ⟨[], Heeds.refl hears, by simp⟩
  trans _ _ _ := by
    intro hab hbc hears
    obtain ⟨first, heeds, obeys⟩ := hab hears
    obtain ⟨second, heeds', obeys'⟩ := hbc heeds.hearsExit
    refine ⟨first ++ second, heeds.trans heeds' fun ran => obeys' (heeds.terminated ran), ?_⟩
    intro ended event member
    rcases List.mem_append.mp member with inFirst | inSecond
    · exact obeys ended event inFirst
    · exact obeys' (heeds.staysTerminated ended) event inSecond

instance : IsPreorder Host AvoidsExit where
  refl _ := fun hears => ⟨[], Heeds.refl hears, by simp⟩
  trans _ _ _ := by
    intro hab hbc hears
    obtain ⟨first, heeds, avoids⟩ := hab hears
    obtain ⟨second, heeds', avoids'⟩ := hbc heeds.hearsExit
    refine ⟨first ++ second, heeds.trans heeds' fun ran => absurd ran avoids, ?_⟩
    simpa [avoids] using avoids'

instance : IsPreorder Host KeepsHearing where
  refl _ := ⟨id, fun _ => id⟩
  trans _ _ _ := by
    rintro ⟨hears, ended⟩ ⟨hears', ended'⟩
    exact ⟨fun h => hears' (hears h), fun h was => ended' (hears h) (ended h was)⟩

/-! ## Computations on the host -/

theorem avoidsExit_of_log {before after : Host} (events : List Event)
    (log : after.log = before.log ++ events) (interpreter : after.interpreter = before.interpreter)
    (terminated : after.terminated = before.terminated) (avoids : .exitRun ∉ events) :
    AvoidsExit before after := by
  intro hears
  refine ⟨events, ?_, avoids⟩
  exact
    { log
      hearsExit := by rwa [HearsExit, interpreter]
      staysTerminated := fun ended => terminated.trans ended
      terminated := fun ran => absurd ran avoids
      quiet := quietAfterExit_of_not_mem avoids }

theorem AvoidsExit.obeys_of_log {before after : Host} (events : List Event)
    (h : AvoidsExit before after) (log : after.log = before.log ++ events)
    (quiet : ∀ event ∈ events, event.isDemand = false) : ObeysExit before after := by
  intro hears
  obtain ⟨recorded, heeds, _⟩ := h hears
  have same : recorded = events := List.append_cancel_left (heeds.log.symm.trans log)
  exact ⟨recorded, heeds, fun _ => same ▸ quiet⟩

theorem avoidsExit_emit {event : Event} (h : event ≠ .exitRun) : Moves AvoidsExit (emit event) := by
  intro host
  exact avoidsExit_of_log [event] rfl rfl rfl (by simpa using h.symm)

/-- What precedes a computation that stops at an exit may record anything but
an exit. -/
theorem avoidsExit_bind_stops {α β : Type} {act : HostM α} {next : α → HostM β}
    (first : Moves AvoidsExit act) (second : ∀ value, Moves StopsAtExit (next value)) :
    Moves StopsAtExit (act >>= next) :=
  first.seq second AvoidsExit.trans_stops AvoidsExit.stops

theorem Evaluates.heeds {script : Text} {before after : Host} (h : Evaluates script before after)
    (hears : before.HearsExit) :
    ∃ events, Heeds before events after ∧ (.exitRun ∈ events → after.exiting = true) := by
  obtain ⟨steps, runs⟩ := h
  have script_handed := before.handing_eq_nil_or script
  generalize before.handing script = handed at script_handed runs
  have notHanded : .exitRun ∉ handed := by
    rcases script_handed with rfl | rfl <;> simp
  have inSteps (member : .exitRun ∈ handed ++ steps) : .exitRun ∈ steps :=
    (List.mem_append.mp member).resolve_left notHanded
  have quietSteps : ∀ event ∈ steps, event.isDemand = false :=
    fun event member => isDemand_of_isStep (runs.isStep event member)
  refine ⟨handed ++ steps, ?_, fun ran => runs.exiting (.inr (inSteps ran))⟩
  exact
    { log := by rw [runs.log, List.append_assoc]
      hearsExit := runs.hearsExit hears
      staysTerminated := runs.staysTerminated
      terminated := fun ran => runs.terminated hears (inSteps ran)
      quiet :=
        (quietAfterExit_of_not_mem notHanded).append
          (List.pairwise_of_forall_mem_list fun _ _ later member _ => quietSteps later member)
          fun _ => quietSteps }

theorem stopsAtExit_evaluate (script : Text) : Moves StopsAtExit (evaluate script) := by
  intro host hears
  obtain ⟨events, heeds, _⟩ := (evaluates_evaluate script host).heeds hears
  exact ⟨events, heeds⟩

theorem obeysExit_emit (event : Event) (h : event ≠ .exitRun) (quiet : event.isDemand = false) :
    Moves ObeysExit (emit event) := by
  intro host
  exact (avoidsExit_emit h host).obeys_of_log [event] rfl (by simpa using quiet)

theorem obeysExit_of_shrinks {before after : Host} (log : after.log = before.log)
    (terminated : after.terminated = before.terminated)
    (interpreter : Shrinks before.interpreter after.interpreter ∨ after.interpreter = none) :
    ObeysExit before after := by
  intro hears
  refine ⟨[], ?_, by simp⟩
  have hears' : after.HearsExit := by
    rcases interpreter with shrinks | released
    · exact hears.of_shrinks shrinks
    · simp [HearsExit, released]
  exact { Heeds.refl hears with
    log := by rw [log, List.append_nil]
    hearsExit := hears'
    staysTerminated := fun ended => terminated.trans ended
    terminated := by simp }

theorem obeysExit_remove (name : String) :
    Moves ObeysExit (changeInterpreter (·.remove name)) := by
  intro host
  obtain ⟨events, runs⟩ := runsTo_remove name host
  exact obeysExit_of_shrinks rfl rfl (.inl runs.interpreter)

/-- A further command is no harm if it is not an exit that goes unheard. -/
theorem keepsHearing_define (name : String) {command : Command}
    (bound : ∀ listener, command = .exitCallback listener → listener = .session) :
    Moves KeepsHearing (changeInterpreter (·.define name command)) := by
  intro host
  refine ⟨?_, fun _ ended => ended⟩
  intro hears last defined other listener entry
  obtain ⟨interpreter, held, rfl⟩ := Option.map_eq_some_iff.mp defined
  rcases List.mem_cons.mp entry with same | kept
  · cases same
    exact bound listener rfl
  · exact hears interpreter held other listener (List.mem_filter.mp kept).1

theorem keepsHearing_register (name : String) {command : Command}
    (bound : ∀ listener, command = .exitCallback listener → listener = .session) :
    Moves KeepsHearing (register name command) := by
  refine moves_interpreterNow.discard.bind fun _ => ?_
  refine Moves.bind (R := KeepsHearing) ?_ fun _ => ?_
  · exact (avoidsExit_emit (by simp)).mono fun avoids => avoids.stops.keepsHearing
  apply (keepsHearing_define name bound).bind
  intro _
  exact moves_modify fun host => ⟨id, fun _ => id⟩

end Host

namespace Evaluator

open Act Host Event

theorem avoidsExit_setExiting (exiting : Bool) : Moves AvoidsExit (setExiting exiting) := by
  intro host
  exact avoidsExit_of_log [] (List.append_nil _).symm rfl rfl (by simp)

theorem avoidsExit_showIf (asked : Bool) (text : Text) :
    Moves AvoidsExit (showIf asked text) := by
  cases asked with
  | false => exact moves_pure _
  | true => exact avoidsExit_emit (by simp)

theorem avoidsExit_commandsIn (script : String) : Moves AvoidsExit (commandsIn script) := by
  rw [commandsIn]
  split
  · exact moves_pure _
  · exact moves_interpreterNow.bind fun _ => moves_pure _

theorem stopsAtExit_evaluate (script : Text) : Moves StopsAtExit (evaluate script) := by
  have evaluated : Moves StopsAtExit (evaluateCommand script) := by
    intro host hears
    obtain ⟨events, heeds, _⟩ := (evaluates_evaluateCommand script host).heeds hears
    exact ⟨events, heeds⟩
  exact avoidsExit_bind_stops (avoidsExit_setExiting false) fun _ => evaluated

/-- A file is left at the command that runs an exit, whatever the command comes
to: a failure ends the file by itself, and after a success the note of the exit
does. -/
theorem stopsAtExit_runCommands (echo verbose : Bool) (last : Outcome) (commands : List String) :
    Moves StopsAtExit (runCommands echo verbose last commands) := by
  induction commands generalizing last with
  | nil => exact Moves.mono (moves_pure _) ObeysExit.stops
  | cons command rest ih =>
      rw [runCommands_cons]
      split
      · exact ih last
      refine avoidsExit_bind_stops (avoidsExit_showIf echo command) fun _ => ?_
      intro host hears
      obtain ⟨events, heeds, noted⟩ := (evaluates_evaluateCommand command host).heeds hears
      rw [perform_bind]
      rcases hact : (evaluateCommand command).perform host with ⟨failure | outcome, between⟩ <;>
        rw [hact] at heeds noted
      · exact ⟨events, heeds⟩
      dsimp only
      split
      · exact ⟨events, heeds⟩
      rw [perform_bind_of_ok (perform_get between)]
      split
      · exact ⟨events, heeds⟩
      next running =>
      have shown := avoidsExit_showIf (verbose && outcome.text != "") outcome.text
      have goesOn := avoidsExit_bind_stops shown fun _ => ih outcome
      obtain ⟨more, heeds'⟩ := goesOn between heeds.hearsExit
      exact ⟨events ++ more, heeds.trans heeds' fun ran => absurd (noted ran) running⟩

theorem stopsAtExit_sourceFile (files : FileTree) (path : Path) (echo verbose : Bool) :
    Moves StopsAtExit (sourceFile files path echo verbose) := by
  rw [sourceFile]
  split
  · apply avoidsExit_bind_stops (avoidsExit_setExiting false)
    intro _
    apply avoidsExit_bind_stops (avoidsExit_commandsIn _)
    intro commands
    exact stopsAtExit_runCommands _ _ _ _
  · exact Moves.mono (moves_pure _) ObeysExit.stops
  · exact Moves.mono (moves_throw _) ObeysExit.stops

theorem keepsHearing_registerExit : Moves KeepsHearing (registerExit .session) := by
  refine (keepsHearing_register _ fun listener same => ?_).bind fun _ => ?_
  · cases same
    rfl
  · have evaluated := (Host.stopsAtExit_evaluate exitProcedure).mono StopsAtExit.keepsHearing
    exact evaluated.discard

theorem keepsHearing_publish (words : List String) : Moves KeepsHearing (publish words) := by
  have emitted {event : Event} (h : event ≠ .exitRun) : Moves KeepsHearing (emit event) :=
    (avoidsExit_emit h).mono fun avoids => avoids.stops.keepsHearing
  have set (name : String) (value : Setting) : Moves KeepsHearing (setVariable name value) :=
    moves_interpreterNow.discard.bind fun _ => emitted (by simp)
  apply (set _ _).bind
  intro _
  apply (set _ _).bind
  intro _
  apply (set _ _).bind
  intro _
  apply (set _ _).bind
  intro _
  have evaluated := (Host.stopsAtExit_evaluate releaseQuery).mono StopsAtExit.keepsHearing
  exact evaluated.bind fun release => emitted (by simp)

theorem keepsHearing_registerEngine : Moves KeepsHearing registerEngine :=
  moves_forM fun query _ => keepsHearing_register _ (by simp)

theorem obeysExit_release : Moves ObeysExit release := by
  refine moves_get.bind fun host => ?_
  have unregister (name : String) : Moves ObeysExit (unregister name) := by
    apply (obeysExit_emit _ (by simp) rfl).bind
    intro _
    refine moves_interpreterNow.bind fun interpreter => ?_
    split
    · exact obeysExit_remove name
    · exact obeysExit_emit _ (by simp) rfl
  split
  · exact moves_pure _
  · refine moves_get.bind fun host => ?_
    refine Moves.bind (R := ObeysExit) (moves_forM fun name _ => unregister name) fun _ => ?_
    exact moves_modify fun _ => obeysExit_of_shrinks rfl rfl (.inr rfl)

end Evaluator

end CommandShell
