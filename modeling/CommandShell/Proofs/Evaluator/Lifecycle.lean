/-
# From the first request to the last

As long as the interpreter is held, each request enters the names of the commands that it
registers in the list of the host, and nothing else does.  Every command of the interpreter
is therefore one of that list, whatever scripts have removed in between and however often a
name was registered.  The first release finds them all, and it is the last thing that
happens to the interpreter.
-/

import CommandShell.Proofs.Evaluator.Release
import CommandShell.Proofs.Host.Records

namespace CommandShell.Evaluator

open Act Event Host

/-- Names are entered in the list of an interpreter that is held, and no command is known
under any other name than before. -/
structure Enrolls (names : List String) (before after : Host) : Prop where
  interpreter : ∃ first last, before.interpreter = some first ∧ after.interpreter = some last ∧
    ∀ entry ∈ last.commands, entry ∈ first.commands ∨ entry.1 ∈ names
  registered : after.registered = before.registered ++ names
  created : created after.log = created before.log ++ names

theorem Enrolls.refl {host : Host} {interpreter : Interpreter}
    (held : host.interpreter = some interpreter) : Enrolls [] host host where
  interpreter := ⟨interpreter, interpreter, held, held, fun _ => .inl⟩
  registered := (List.append_nil _).symm
  created := (List.append_nil _).symm

theorem Enrolls.trans {a b c : Host} {names more : List String} (ab : Enrolls names a b)
    (bc : Enrolls more b c) : Enrolls (names ++ more) a c := by
  obtain ⟨first, middle, heldA, heldB, fromA⟩ := ab.interpreter
  obtain ⟨_, last, heldB', heldC, fromB⟩ := bc.interpreter
  obtain rfl := Option.some.inj (heldB.symm.trans heldB')
  refine ⟨⟨first, last, heldA, heldC, ?_⟩, ?_, ?_⟩
  · intro entry member
    rw [List.mem_append]
    rcases fromB entry member with known | new
    · exact (fromA entry known).imp_right .inl
    · exact .inr (.inr new)
  · rw [bc.registered, ab.registered, List.append_assoc]
  · rw [bc.created, ab.created, List.append_assoc]

theorem RegistersNothing.enrolls {before after : Host} (nothing : RegistersNothing before after)
    {interpreter : Interpreter} (held : before.interpreter = some interpreter) :
    Enrolls [] before after := by
  rcases nothing.interpreter with ⟨none, _⟩ | ⟨first, last, heldBefore, heldAfter, _, commands⟩
  · rw [held] at none
    cases none
  · refine ⟨⟨first, last, heldBefore, heldAfter, fun _ member => .inl (commands member)⟩, ?_, ?_⟩
    · rw [nothing.registered, List.append_nil]
    · rw [nothing.created, List.append_nil]

/-! ## One request -/

section Held

variable {host : Host} {interpreter : Interpreter} (held : host.interpreter = some interpreter)

include held

theorem exists_enrolls_register (name : String) (command : Command) :
    ∃ after, (register name command).perform host = (.ok (), after) ∧
      Enrolls [name] host after := by
  refine ⟨_, perform_register_of_held held name command, ⟨?_, rfl, created_append _ _⟩⟩
  refine ⟨interpreter, _, held, rfl, ?_⟩
  intro entry member
  rcases List.mem_cons.mp member with rfl | kept
  · exact .inr List.mem_cons_self
  · exact .inl (List.mem_filter.mp kept).1

theorem exists_enrolls_queries (queries : List Engine.Query) :
    ∃ after, (queries.forM fun query => register query.name (.engine query)).perform host =
        (.ok (), after) ∧ Enrolls (queries.map Engine.Query.name) host after := by
  induction queries generalizing host interpreter with
  | nil => exact ⟨host, rfl, Enrolls.refl held⟩
  | cons query rest ih =>
      obtain ⟨between, registers, enrolls⟩ :=
        exists_enrolls_register held query.name (.engine query)
      obtain ⟨_, _, _, still, _⟩ := enrolls.interpreter
      obtain ⟨after, others, enrollsMore⟩ := ih still
      exact ⟨after, (perform_bind_of_ok registers _).trans others, enrolls.trans enrollsMore⟩

/-- A request enters its names, whatever it comes to otherwise. -/
theorem enrolls_serve (words : List String) (files : FileTree) {request : Request}
    (keeps : request ≠ .release) :
    Enrolls request.names host ((serve words files request).perform host).2 := by
  cases request with
  | register name answer =>
      obtain ⟨after, registers, enrolls⟩ := exists_enrolls_register held name (.recorder answer)
      rwa [serve, perform_bind_of_ok registers]
  | registerExit =>
      obtain ⟨between, registers, enrolls⟩ :=
        exists_enrolls_register held exitCallbackName (.exitCallback .observer)
      obtain ⟨_, _, _, still, _⟩ := enrolls.interpreter
      have defined : Moves RegistersNothing (discard (Host.evaluate exitProcedure)) :=
        (registersNothing_hostEvaluate exitProcedure).discard
      have answered : Moves RegistersNothing (discard (Host.evaluate exitProcedure) >>= fun _ =>
          (pure .nothing : HostM Reply)) := defined.bind fun _ => moves_pure _
      -- The name is entered before the procedure is defined, whatever comes of that.
      rw [serve, registerExit, bind_assoc, perform_bind_of_ok registers]
      exact enrolls.trans ((answered between).enrolls still)
  | registerEngine engine =>
      have heldWith : ({ host with engine } : Host).interpreter = some interpreter := held
      obtain ⟨after, registers, enrolls⟩ := exists_enrolls_queries heldWith Engine.queries
      have performed : ((serve words files (.registerEngine engine)).perform host).2 = after := by
        rw [serve, perform_bind_of_ok (perform_modify _ host), registerEngine,
          perform_bind_of_ok registers]
        rfl
      rw [performed]
      exact ⟨enrolls.interpreter, enrolls.registered, enrolls.created⟩
  | release => exact absurd rfl keeps
  | _ => exact (registersNothing_serve words files rfl (by simp) host).enrolls held

/-! ## All requests before a release -/

theorem enrolls_leftBy (words : List String) (files : FileTree) {requests : List Request}
    (first : .release ∉ requests) :
    Enrolls (requests.flatMap Request.names) host (leftBy words files host requests) := by
  induction requests generalizing host interpreter with
  | nil => exact Enrolls.refl held
  | cons request rest ih =>
      rw [List.mem_cons, not_or] at first
      have enrolls := enrolls_serve held words files (Ne.symm first.1)
      obtain ⟨_, _, _, still, _⟩ := enrolls.interpreter
      rw [List.flatMap_cons]
      exact enrolls.trans (ih still first.2)

end Held

/-- What an evaluator that has just been made comes to before the first release: its list
and its record name what the requests have registered, and so does its interpreter. -/
theorem exists_interpreter_of_fresh (words : List String) (files : FileTree)
    (table : ScriptTable) (engine : Engine) {before : List Request} (first : .release ∉ before) :
    let host := leftBy words files (.fresh table engine) before
    let names := before.flatMap Request.names
    ∃ interpreter, host.interpreter = some interpreter ∧ host.registered = names ∧
      created host.log = names ∧ ∀ entry ∈ interpreter.commands, entry.1 ∈ names := by
  have made : (Host.fresh table engine).interpreter = some { table } := rfl
  obtain ⟨⟨_, interpreter, fresh, held, commands⟩, registered, created⟩ :=
    enrolls_leftBy made words files first
  cases fresh
  refine ⟨interpreter, held, registered, created, ?_⟩
  intro entry member
  exact (commands entry member).resolve_left (by simp)

/-! ## All requests after a release -/

/-- After a release nothing is recorded or registered, and it stays released. -/
theorem leftBy_of_released (words : List String) (files : FileTree) {host : Host}
    (released : host.interpreter = none) (later : List Request) :
    ∃ exiting engine, leftBy words files host later = { host with exiting, engine } := by
  induction later generalizing host with
  | nil => exact ⟨host.exiting, host.engine, rfl⟩
  | cons request rest ih =>
      obtain ⟨_, exiting, engine, performed, _⟩ :=
        exists_perform_serve_of_released released words files request
      have still : ({ host with exiting, engine } : Host).interpreter = none := released
      obtain ⟨exiting', engine', left⟩ := ih still
      refine ⟨exiting', engine', ?_⟩
      rw [leftBy, List.foldl_cons, performed]
      exact left

/-- **The first release is the last thing that happens.**  Whatever is requested of an
evaluator before its first release, the release succeeds: it attempts to remove every name
that has been registered, once for each time and in order, notes those that are gone by
then, and lets go of an interpreter without commands.  Whatever is requested later, nothing
is recorded or registered any more, another release changes nothing, and a request is
refused exactly if it needs the interpreter. -/
theorem release_is_final (words : List String) (files : FileTree) (table : ScriptTable)
    (engine : Engine) {before : List Request} (first : .release ∉ before) :
    let host := leftBy words files (.fresh table engine) before
    let names := before.flatMap Request.names
    ∃ interpreter left released,
      host.interpreter = some interpreter ∧ created host.log = names ∧
      (host.registered.forM unregister).perform host = (.ok (), { host with
        interpreter := some left, log := host.log ++ removals interpreter names }) ∧
      (removals interpreter names).filterMap deleted? = names ∧ left.commands = [] ∧
      (serve words files .release).perform host = (.ok .nothing, released) ∧
      released = { host with
        interpreter := none, registered := [], log := host.log ++ removals interpreter names } ∧
      ∀ later,
        let last := leftBy words files released later
        last.interpreter = none ∧ last.registered = [] ∧ last.log = released.log ∧
        (serve words files .release).perform last = (.ok .nothing, last) ∧
        ∀ request, ((serve words files request).perform last).1 = .error .finalized ↔
          request.NeedsInterpreter files := by
  intro host names
  obtain ⟨interpreter, held, registered, created, known⟩ :=
    exists_interpreter_of_fresh words files table engine first
  have removed := perform_forM_unregister held host.registered
  have releases := perform_release_of_held held
  rw [registered] at removed releases
  -- Scripts may have removed commands, but none goes by a name that is not on the list.
  have emptied : (names.foldl Interpreter.remove interpreter).commands = [] := by
    rw [List.eq_nil_iff_forall_not_mem]
    intro entry member
    obtain ⟨there, unnamed⟩ := (Interpreter.mem_commands_foldl_remove _ _).mp member
    exact unnamed (known entry there)
  refine ⟨interpreter, _, _, held, created, registered ▸ removed, deleted_removals _ _, emptied,
    ?_, rfl, ?_⟩
  · rw [serve, perform_bind_of_ok releases]
    rfl
  intro later last
  let after : Host := { host with
    interpreter := none, registered := [], log := host.log ++ removals interpreter names }
  have letGo : after.interpreter = none := rfl
  obtain ⟨exiting, engine', left⟩ := leftBy_of_released words files letGo later
  have released : last.interpreter = none := congrArg Host.interpreter left
  have silent := congrArg Host.log left
  refine ⟨released, congrArg Host.registered left, silent, ?_, ?_⟩
  · rw [serve, perform_bind_of_ok (perform_release_of_released released)]
    rfl
  · intro request
    obtain ⟨answer, _, _, performed, refused_iff⟩ :=
      exists_perform_serve_of_released released words files request
    rw [performed]
    exact refused_iff

/-- A script that removes a command, and one that fails. -/
def removing : ScriptTable where
  scripts := [("forget", [.remove "greet", .result "gone"]), ("boom", [.error "boom" "NONE"])]

/-- A name registered twice and removed by a script, among other commands. -/
def crowded : List Request :=
  [.registerExit, .register "greet" (some "hello"), .register "greet" none, .evaluate "forget",
    .registerEngine { version := "2.6" }, .evaluate "boom"]

theorem release_is_final_crowded :
    let host := leftBy [] {} (.fresh removing { version := "2.6" }) crowded
    let late : List Request := [.register "late" none, .source ⟨.relative, ["a.tcl"]⟩ true true]
    .release ∉ crowded ∧
      ∃ released, (serve [] {} .release).perform host = (.ok .nothing, released) ∧
        released.log = host.log ++
          [.deleteCommand exitCallbackName, .deleteCommand "greet",
            .diagnostic .evaluator "command greet already deleted", .deleteCommand "greet",
            .diagnostic .evaluator "command greet already deleted",
            .deleteCommand "::sta::version", .deleteCommand "::sta::thread_count"] ∧
        (leftBy [] {} released late).log = released.log ∧
        ((serve [] {} (.evaluate "boom")).perform (leftBy [] {} released late)).1 =
          .error .finalized := by
  intro host late
  have first : Request.release ∉ crowded := by decide
  obtain ⟨interpreter, _, released, held, _, _, _, _, releases, rfl, final⟩ :=
    release_is_final [] {} removing { version := "2.6" } first
  have there : host.interpreter = some {
      table := removing
      commands := [("::sta::thread_count", .engine .threads), ("::sta::version", .engine .version),
        (exitCallbackName, .exitCallback .observer)] } := rfl
  obtain rfl := Option.some.inj (there.symm.trans held)
  obtain ⟨_, _, silent, _, refused_iff⟩ := final late
  refine ⟨first, _, releases, ?_, silent, (refused_iff (.evaluate "boom")).mpr trivial⟩
  exact congrArg (host.log ++ ·) (by decide)

end CommandShell.Evaluator
