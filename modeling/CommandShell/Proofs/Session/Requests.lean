/-
# What every request keeps

The requests are put together from a few computations.  What these keep, every
request keeps, and every sequence of requests, whatever fails on the way.
-/

import CommandShell.Proofs.Session.Asides
import CommandShell.Session.Request

namespace CommandShell.Session

open Act

/-- The session that a sequence of requests leaves, each served from where the one
before it left off. -/
def leftBy (setup : Setup) (session : Session) (requests : List Request) : Session :=
  requests.foldl (fun session request => ((serve setup request).perform session).2) session

theorem moves_start {setup : Setup} {R : Session → Session → Prop} [IsPreorder Session R]
    (prepared : Moves R (prepare setup)) (entered : Moves R (enter .initialized)) :
    Moves R (start setup) := by
  intro session
  by_cases created : session.phase = .created
  · rw [perform_start_of_created setup created]
    exact prepared.bind (fun _ => entered) session
  · rw [perform_start_of_not_created setup created]
    exact refl_of R session

/-- Everything that requests consist of keeps the relation. -/
structure KeptByRequests (setup : Setup) (R : Session → Session → Prop) : Prop
    extends KeptByScripts R where
  hint : Moves R (applyThreadHint setup)
  prepare : Moves R (prepare setup)
  enter : ∀ target, Moves R (enter target)
  interact : Moves R (interact setup)
  entry : ∀ line, Moves R (addEntry line)
  saveHistory : Moves R (saveHistory setup)
  release : Moves R (onHost Evaluator.release)

section Kept

variable {setup : Setup} {R : Session → Session → Prop} [IsPreorder Session R]
  (kept : KeptByRequests setup R)

include kept

theorem KeptByRequests.start : Moves R (start setup) :=
  moves_start kept.prepare (kept.enter _)

theorem KeptByRequests.bootstrap : Moves R (bootstrap setup) := by
  rw [bootstrap_eq]
  apply (kept.enter _).bind
  intro _
  exact (kept.startUp setup).bind fun _ => kept.runInitFile setup

theorem KeptByRequests.shutdown : Moves R (shutdown setup) := by
  apply (kept.enter _).bind
  intro _
  apply kept.saveHistory.bind
  intro _
  exact kept.release.bind fun _ => kept.enter _

theorem KeptByRequests.run : Moves R (run setup) := by
  apply kept.start.bind
  intro _
  apply kept.bootstrap.bind
  intro _
  apply (kept.runOneShots setup).bind
  intro _
  exact kept.interact.bind fun _ => kept.shutdown

theorem KeptByRequests.serve (request : Request) : Moves R (serve setup request) := by
  cases request with
  | start => exact kept.start.bind fun _ => moves_pure _
  | bootstrap => exact kept.bootstrap.bind fun _ => moves_pure _
  | runOneShots => exact (kept.runOneShots setup).bind fun _ => moves_pure _
  | interact => exact kept.interact.bind fun _ => moves_pure _
  | saveHistory => exact kept.saveHistory.bind fun _ => moves_pure _
  | shutdown => exact kept.shutdown.bind fun _ => moves_pure _
  | run => exact kept.run.bind fun _ => moves_pure _
  | sourceInitFile => exact (kept.sourceInitFile setup).bind fun _ => moves_pure _
  | applyThreadHint =>
      apply kept.hint.bind
      intro count
      cases count <;> exact moves_pure _
  | complete typed =>
      refine moves_get.bind fun session => ?_
      split <;> exact moves_pure _
  | addEntry line => exact (kept.entry line).bind fun _ => moves_pure _

theorem KeptByRequests.leftBy (session : Session) (requests : List Request) :
    R session (leftBy setup session requests) := by
  induction requests generalizing session with
  | nil => exact refl_of R session
  | cons first rest ih => exact trans_of R (kept.serve first session) (ih _)

end Kept

end CommandShell.Session
