/-
# From the launch to the commands of the engine

A thread count travels as a run of digits, as a number and as a run of digits again.  On the
way only the zeros in front of it are lost: the engine takes the number whatever becomes of
the rest of the start, and once the start is complete a command answers with its digits.
Later answers follow the engine.  What is no count stops at the first step.
-/

import CommandShell.Proofs.Host.EngineCommands
import CommandShell.Proofs.Session.Exit
import CommandShell.Proofs.Session.ThreadHint

namespace CommandShell

/-! ## Values that write out a count -/

/-- The value writes out a positive number within the digit limit, maybe with zeros in
front. -/
structure WritesCount (value : String) : Prop where
  numeral : Decimal.isNumeral value.toList = true
  short : value.length ≤ Failure.digitLimit
  nonzero : ∃ c ∈ value.toList, c ≠ '0'

/-- The value is no count within the digit limit: not the word for all processors, and with
other characters than digits, or without any, or a run of zeros. -/
def WritesNoCount (value : String) : Prop :=
  value ≠ "max" ∧
    (Decimal.isNumeral value.toList = false ∨
      value.length ≤ Failure.digitLimit ∧ ∀ c ∈ value.toList, c = '0')

namespace WritesCount

variable {value : String} (writes : WritesCount value)

include writes

theorem isDigit : ∀ c ∈ value.toList, Decimal.isDigit c = true :=
  (Decimal.isNumeral_iff.mp writes.numeral).2

theorem numeral_value :
    Decimal.numeral (Decimal.value value.toList) = Decimal.withoutZeros value.toList :=
  Decimal.numeral_value_eq_withoutZeros writes.isDigit writes.nonzero

theorem positive : 0 < Decimal.value value.toList := by
  refine Nat.pos_of_ne_zero fun zero => ?_
  obtain ⟨c, member, different⟩ := writes.nonzero
  exact different ((Decimal.value_eq_zero_iff writes.isDigit).mp zero c member)

theorem asks (processors : Option Int) :
    AsksThreads processors value (Decimal.value value.toList) :=
  .number writes.numeral writes.positive

theorem not_isOverlong : ¬ IsOverlong value :=
  fun overlong => Nat.not_lt.mpr writes.short overlong.2

theorem value_lt : Decimal.value value.toList < 10 ^ Failure.digitLimit := by
  rw [← Engine.length_numeral_le_digitLimit_iff, writes.numeral_value]
  have kept := (List.dropWhile_suffix (p := (· == '0')) (l := value.toList)).length_le
  exact Nat.le_trans kept (String.length_toList ▸ writes.short)

end WritesCount

/-- Every number within the digit limit is written out by its numeral. -/
theorem writesCount_numeral {n : Nat} (positive : 0 < n) (below : n < 10 ^ Failure.digitLimit) :
    WritesCount (String.ofList (Decimal.numeral n)) := by
  have numeral := Decimal.isNumeral_numeral n
  refine ⟨by rwa [String.toList_ofList], ?_, ?_⟩
  · rw [String.length_ofList]
    exact Engine.length_numeral_le_digitLimit_iff.mpr below
  · have someOther : ¬ ∀ c ∈ Decimal.numeral n, c = '0' := by
      rw [← Decimal.value_eq_zero_iff (Decimal.isNumeral_iff.mp numeral).2,
        Decimal.value_numeral]
      exact Nat.ne_of_gt positive
    rw [String.toList_ofList]
    simpa using someOther

section Reading

variable {value : String}

theorem readThreadCount_of_writesCount (writes : WritesCount value) (processors : Option Int) :
    readThreadCount processors value = .ok (Decimal.value value.toList) :=
  readThreadCount_of_asks (writes.asks processors) writes.not_isOverlong

theorem readThreadCount_of_writesNoCount (writesNone : WritesNoCount value)
    (processors : Option Int) :
    readThreadCount processors value = .error (.threadCount value) := by
  obtain ⟨notMax, bad⟩ := writesNone
  apply readThreadCount_of_asks_none
  · rintro _ (_ | ⟨numeral, positive⟩)
    · exact notMax rfl
    · rcases bad with noNumeral | ⟨_, zeros⟩
      · exact Bool.noConfusion (noNumeral.symm.trans numeral)
      · have zero := (Decimal.value_eq_zero_iff (Decimal.isNumeral_iff.mp numeral).2).mpr zeros
        exact Nat.ne_of_gt positive zero
  · rintro ⟨numeral, beyond⟩
    rcases bad with noNumeral | ⟨short, _⟩
    · exact Bool.noConfusion (noNumeral.symm.trans numeral)
    · exact Nat.not_lt.mpr short beyond

/-- All processors are as many as the host reports, and one if it reports none. -/
theorem readThreadCount_max (processors : Option Int) :
    (processors = none ∨ processors = some 0 → readThreadCount processors "max" = .ok 1) ∧
      ∀ known ≠ 0, processors = some known → readThreadCount processors "max" = .ok known := by
  constructor
  · rintro (rfl | rfl) <;> rfl
  · rintro known nonzero rfl
    rw [readThreadCount, if_pos rfl, hostThreads]
    simp only [if_neg nonzero]

end Reading

open Act Host

namespace Session

/-! ## The rest of a start -/

theorem keepsEngine_startSettled (setup : Setup) :
    Moves (OnHost KeepsEngine) (startSettled setup) := by
  have entered : Moves (OnHost KeepsEngine) (enter .initialized) := by
    intro session
    rw [perform_enter]
    split <;> rfl
  refine Moves.bind (R := OnHost KeepsEngine) ?_ fun _ => ?_
  · refine Moves.bind (moves_onHost (keepsEngine_registerExit _)) fun _ => ?_
    refine Moves.bind (R := OnHost KeepsEngine) (moves_modify fun _ => rfl) fun _ => ?_
    exact moves_onHost (keepsEngine_publish _)
  · exact Moves.bind (moves_onHost keepsEngine_registerEngine) fun _ => entered

section Settled

variable (setup : Setup) {session : Session}

/-- Once the exit command is bound nothing can fail, and the commands of the engine are
registered. -/
theorem exists_perform_startSettled (created : session.phase = .created) {bound : Host}
    (binds : (Evaluator.registerExit .session).perform session.host = (.ok (), bound)) :
    ∃ after, (startSettled setup).perform session = (.ok (), after) ∧
      after.host.AnswersQueries := by
  have holds : bound.Holds := holds_of_registerExit binds
  obtain ⟨_, published, publishes, holds⟩ := succeeds_publish setup.args.words bound holds
  obtain ⟨registered, registers, answers⟩ := exists_perform_registerEngine holds
  rw [startSettled, equip, bind_assoc, perform_bind_of_ok (perform_onHost binds), bind_assoc,
    perform_bind_of_ok (perform_modify _ _), perform_bind_of_ok (perform_onHost publishes),
    perform_bind_of_ok (perform_onHost registers), perform_enter, if_pos]
  · exact ⟨_, rfl, answers⟩
  · change session.phase.precedes .initialized = true
    rw [created]
    rfl

theorem exists_registerExit_of_startSettled {after : Session}
    (settled : (startSettled setup).perform session = (.ok (), after)) :
    ∃ bound, (Evaluator.registerExit .session).perform session.host = (.ok (), bound) := by
  obtain ⟨_, _, equipped, _⟩ := perform_bind_eq_ok settled
  obtain ⟨_, _, binds, _⟩ := perform_bind_eq_ok equipped
  exact ⟨_, perform_host_of_onHost binds⟩

end Settled

/-- A start hands the count to the engine whatever comes after, and defines the commands if
the exit command can be bound. -/
theorem start_of_writesCount {setup : Setup} {session after : Session} {value : String}
    {ended : Except Failure Unit} (created : session.phase = .created)
    (given : setup.args.value? "-threads" = some value) (writes : WritesCount value)
    (started : (start setup).perform session = (ended, after)) :
    let count : Int := Decimal.value value.toList
    after.host.engine = { session.host.engine with threads := count } ∧
      (ended = .ok () ↔ ∃ bound,
        (Evaluator.registerExit .session).perform (session.threading count).host =
          (.ok (), bound)) ∧
      (ended = .ok () → after.host.AnswersQueries) := by
  intro count
  have taken : (applyThreadHint setup).perform session =
      (.ok (some count), session.threading count) :=
    perform_applyThreadHint_of_asks given (writes.asks _) writes.not_isOverlong session
  have ready : (session.threading count).phase = .created := created
  rw [perform_start_eq setup created, perform_bind_of_ok taken] at started
  refine ⟨(keepsEngine_startSettled setup).of_perform started, ⟨?_, ?_⟩, ?_⟩
  · rintro rfl
    exact exists_registerExit_of_startSettled setup started
  · rintro ⟨bound, binds⟩
    obtain ⟨_, succeeds, _⟩ := exists_perform_startSettled setup ready binds
    exact congrArg Prod.fst (started.symm.trans succeeds)
  · rintro rfl
    obtain ⟨bound, binds⟩ := exists_registerExit_of_startSettled setup started
    obtain ⟨_, succeeds, answers⟩ := exists_perform_startSettled setup ready binds
    cases started.symm.trans succeeds
    exact answers

/-- **A thread count survives from the launch to the commands.**  A value that writes out a
positive number within the digit limit is read as that number, and every such number is
written out by its numeral; a value that writes out none is refused with a report that is the
value itself, and the word for all processors gives what the host reports.  When a session is
started with such a number, its engine has that count by the end, and is as it was otherwise,
even if the start fails, which it does only if the exit command cannot be bound.  If the start
succeeds the command for the count answers with the digits of the value, without the zeros in
front, and whatever the engine becomes later, its commands answer with its version and with
its count, if that is within the limit, as they are then.  This is so for every engine that
has defined its commands, whatever is requested of it before and after. -/
theorem thread_count_reaches_commands (processors : Option Int) :
    (∀ value, WritesCount value →
      readThreadCount processors value = .ok (Decimal.value value.toList)) ∧
    (∀ n : Nat, 0 < n → n < 10 ^ Failure.digitLimit →
      readThreadCount processors (String.ofList (Decimal.numeral n)) = .ok n) ∧
    (∀ value, WritesNoCount value →
      readThreadCount processors value = .error (.threadCount value) ∧
        (Failure.threadCount value).kind = "ThreadCountError" ∧
        (Failure.threadCount value).message = value) ∧
    (processors = none ∨ processors = some 0 → readThreadCount processors "max" = .ok 1) ∧
    (∀ known ≠ 0, processors = some known → readThreadCount processors "max" = .ok known) ∧
    (∀ (setup : Setup) (session : Session) (value : String), session.phase = .created →
      setup.args.value? "-threads" = some value → WritesCount value →
      let count : Int := Decimal.value value.toList
      let started := (start setup).perform session
      let host := started.2.host
      host.engine = { session.host.engine with threads := count } ∧
      (started.1 = .ok () ↔ ∃ bound,
        (Evaluator.registerExit .session).perform (session.threading count).host =
          (.ok (), bound)) ∧
      (started.1 = .ok () →
        (call "::sta::thread_count" []).perform host =
          (.ok (String.ofList (Decimal.withoutZeros value.toList)), host) ∧
        ∀ engine : Engine, let later := { host with engine }
          (call "::sta::version" []).perform later = (.ok engine.version, later) ∧
          (Engine.IsWritableCount engine.threads →
            (call "::sta::thread_count" []).perform later =
              (.ok (Decimal.integer engine.threads), later)))) ∧
    ∀ (catalog : Engine.Catalog) (requests : List Engine.Catalog.Request), .define ∈ requests →
      let now := catalog.leftBy requests
      now.engine.version = (requests.filterMap Engine.Catalog.Request.version?).getLast?.getD
        catalog.engine.version ∧
      now.engine.threads = (requests.filterMap Engine.Catalog.Request.count?).getLast?.getD
        catalog.engine.threads ∧
      now.serve (.call "::sta::version") = (.ok (.text now.engine.version), now) ∧
      (Engine.IsWritableCount now.engine.threads →
        now.serve (.call "::sta::thread_count") =
          (.ok (.text (Decimal.integer now.engine.threads)), now)) := by
  refine ⟨fun _ writes => readThreadCount_of_writesCount writes processors, ?_,
    fun _ writesNone => ⟨readThreadCount_of_writesNoCount writesNone processors, rfl, rfl⟩,
    (readThreadCount_max processors).1, (readThreadCount_max processors).2, ?_, ?_⟩
  · intro n positive below
    rw [readThreadCount_of_writesCount (writesCount_numeral positive below),
      String.toList_ofList, Decimal.value_numeral]
  · intro setup session value created given writes count started host
    have performed : (start setup).perform session = (started.1, started.2) := rfl
    obtain ⟨engine, completes, answering⟩ := start_of_writesCount created given writes performed
    refine ⟨engine, completes, fun complete => ⟨?_, fun other => ?_⟩⟩
    · have writable : Engine.IsWritableCount host.engine.threads := by
        rw [engine]
        exact writes.value_lt
      have digits : Decimal.integer count = String.ofList (Decimal.withoutZeros value.toList) := by
        rw [Decimal.integer, if_neg (by omega), Int.natAbs_natCast, writes.numeral_value]
      have answered := (answering complete).perform_call .threads
      rw [Engine.answer_threads_of_writable writable, engine] at answered
      rw [← digits]
      exact answered
    · have later : ({ host with engine := other } : Host).AnswersQueries := answering complete
      refine ⟨later.perform_call .version, fun writable => ?_⟩
      have answered := later.perform_call .threads
      rwa [Engine.answer_threads_of_writable writable] at answered
  · intro catalog requests defines now
    have engine := Engine.Catalog.engine_leftBy catalog requests
    have defined : now.defined = Engine.queries := Engine.Catalog.defined_leftBy (.inr defines)
    refine ⟨congrArg Engine.version engine, congrArg Engine.threads engine,
      Engine.Catalog.serve_call_of_defined defined .version, fun writable => ?_⟩
    have answered := Engine.Catalog.serve_call_of_defined defined .threads
    rwa [Engine.answer_threads_of_writable writable] at answered

theorem writesCount_padded : WritesCount "0012" where
  numeral := by decide
  short := by decide
  nonzero := ⟨'1', by decide, by decide⟩

/-- Twelve threads, with two zeros in front; later the engine has another count. -/
theorem thread_count_reaches_commands_padded :
    let setup := threadedSetup "0012"
    let started := (start setup).perform (sample [])
    let catalog : Engine.Catalog := { engine := { version := "1.0" } }
    let now := catalog.leftBy [.setThreads 8, .define, .setVersion "2.0", .setThreads 3]
    setup.args.value? "-threads" = some "0012" ∧
      readThreadCount (some 4) "0012" = .ok 12 ∧
      readThreadCount (some 4) "+3" = .error (.threadCount "+3") ∧
      readThreadCount (some 4) "000" = .error (.threadCount "000") ∧
      readThreadCount (some 4) "max" = .ok 4 ∧
      started.1 = .ok () ∧ started.2.host.engine.threads = 12 ∧
      (call "::sta::thread_count" []).perform started.2.host = (.ok "12", started.2.host) ∧
      now.serve (.call "::sta::version") = (.ok (.text "2.0"), now) ∧
      now.serve (.call "::sta::thread_count") = (.ok (.text "3"), now) := by
  intro setup started catalog now
  have given : setup.args.value? "-threads" = some "0012" := by decide
  have complete : started.1 = .ok () := congrArg Prod.fst (perform_eq_of_isOk (by decide +kernel))
  obtain ⟨counts, _, refused, _, all, launched, asked⟩ := thread_count_reaches_commands (some 4)
  obtain ⟨engine, _, answered⟩ := launched setup (sample []) "0012" rfl given writesCount_padded
  obtain ⟨_, count, version, threads⟩ :=
    asked catalog [.setThreads 8, .define, .setVersion "2.0", .setThreads 3] (by simp)
  have sign : WritesNoCount "+3" := ⟨by decide, .inl (by decide)⟩
  have zeros : WritesNoCount "000" :=
    ⟨by decide, .inr ⟨by decide, fun _ => List.eq_of_mem_replicate (n := 3)⟩⟩
  have within : Engine.IsWritableCount now.engine.threads := by
    have one_digit : (3 : Nat) < 10 ^ Failure.digitLimit :=
      Nat.lt_of_lt_of_le (by decide) (Nat.le_self_pow (by decide) 10)
    rw [count]
    exact one_digit
  have shown : Decimal.integer now.engine.threads = "3" := by
    rw [count]
    decide +kernel
  have latest := threads within
  rw [shown] at latest
  refine ⟨given, counts "0012" writesCount_padded, (refused "+3" sign).1, (refused "000" zeros).1,
    all 4 (by decide) rfl, complete, ?_, (answered complete).1, version, latest⟩
  rw [engine]
  decide

end Session

end CommandShell
