/-
# The thread count of a launch

A launch may ask for a number of threads.  The count goes to the engine; a value that
asks for none is warned of, and the set-up goes on as it would have without.  One kind of
value is beyond this: a numeral longer than the digit limit, with the zeros before it
counted.  Such a numeral cannot be read whatever number it writes out, and failing to read
it is not a bad thread count but a failure of its own, which ends the set-up.
-/

import CommandShell.Proofs.Session.Created

namespace CommandShell

/-- The value asks for a number of threads: for as many as the host has processors, or
for the positive number that it writes out. -/
inductive AsksThreads (processors : Option Int) : String → Int → Prop
  | all : AsksThreads processors "max" (hostThreads processors)
  | number {value : String} (numeral : Decimal.isNumeral value.toList = true)
      (positive : 0 < Decimal.value value.toList) :
      AsksThreads processors value (Decimal.value value.toList)

/-- A numeral beyond the digit limit, with the zeros before it counted. -/
def IsOverlong (value : String) : Prop :=
  Decimal.isNumeral value.toList = true ∧ Failure.digitLimit < value.length

section Reading

variable {processors : Option Int} {value : String} {count : Int}

theorem hostThreads_pos (natural : ∀ known ∈ processors, 0 ≤ known) :
    0 < hostThreads processors := by
  cases processors with
  | none => exact Int.one_pos
  | some known =>
      have := natural known rfl
      rw [hostThreads]
      split <;> omega

theorem AsksThreads.pos (asks : AsksThreads processors value count)
    (natural : ∀ known ∈ processors, 0 ≤ known) : 0 < count := by
  cases asks with
  | all => exact hostThreads_pos natural
  | number numeral positive => exact Int.natCast_pos.mpr positive

theorem ne_max_of_isNumeral (numeral : Decimal.isNumeral value.toList = true) : value ≠ "max" := by
  rintro rfl
  revert numeral
  decide

theorem readThreadCount_of_asks (asks : AsksThreads processors value count)
    (short : ¬ IsOverlong value) : readThreadCount processors value = .ok count := by
  cases asks with
  | all => rfl
  | number numeral positive =>
      have within : ¬ value.length > Failure.digitLimit := fun beyond => short ⟨numeral, beyond⟩
      rw [readThreadCount, if_neg (ne_max_of_isNumeral numeral), if_pos numeral, if_neg within,
        if_neg (Nat.ne_of_gt positive)]

theorem readThreadCount_of_asks_none (asksNone : ∀ count, ¬ AsksThreads processors value count)
    (short : ¬ IsOverlong value) :
    readThreadCount processors value = .error (.threadCount value) := by
  have notMax : value ≠ "max" := by
    rintro rfl
    exact asksNone _ .all
  rw [readThreadCount, if_neg notMax]
  by_cases numeral : Decimal.isNumeral value.toList = true
  · have within : ¬ value.length > Failure.digitLimit := fun beyond => short ⟨numeral, beyond⟩
    have zero : Decimal.value value.toList = 0 := by
      by_cases positive : 0 < Decimal.value value.toList
      · exact absurd (.number numeral positive) (asksNone _)
      · omega
    rw [if_pos numeral, if_neg within, if_pos zero]
  · rw [if_neg numeral]

theorem readThreadCount_of_overlong (overlong : IsOverlong value) :
    readThreadCount processors value = .error (.longNumeral value.length) := by
  rw [readThreadCount, if_neg (ne_max_of_isNumeral overlong.1), if_pos overlong.1,
    if_pos overlong.2]

end Reading

open Act Host

namespace Session

/-- The session with one more event on record. -/
def noting (session : Session) (event : Event) : Session :=
  { session with host.log := session.host.log ++ [event] }

/-- The session once its engine has taken a thread count. -/
def threading (session : Session) (count : Int) : Session :=
  { session.noting (.diagnostic .engine ("thread count " ++ Decimal.integer count)) with
    host.engine.threads := count }

section Hint

variable {setup : Setup} {value : String}

theorem perform_applyThreadHint_of_absent (absent : setup.args.value? "-threads" = none)
    (session : Session) : (applyThreadHint setup).perform session = (.ok none, session) := by
  rw [applyThreadHint, LaunchArgs.threadCount, absent]
  rfl

theorem perform_applyThreadHint_of_overlong
    (given : setup.args.value? "-threads" = some value) (overlong : IsOverlong value)
    (session : Session) :
    (applyThreadHint setup).perform session = (.error (.longNumeral value.length), session) := by
  rw [applyThreadHint, LaunchArgs.threadCount, given]
  dsimp only
  rw [readThreadCount_of_overlong overlong]
  rfl

theorem perform_applyThreadHint_of_asks {count : Int}
    (given : setup.args.value? "-threads" = some value)
    (asks : AsksThreads setup.processors value count) (short : ¬ IsOverlong value)
    (session : Session) :
    (applyThreadHint setup).perform session = (.ok (some count), session.threading count) := by
  rw [applyThreadHint, LaunchArgs.threadCount, given]
  dsimp only
  rw [readThreadCount_of_asks asks short]
  rfl

/-- Any other value is handed to the engine or warned of. -/
theorem perform_applyThreadHint_of_short (given : setup.args.value? "-threads" = some value)
    (short : ¬ IsOverlong value) (session : Session) :
    (∃ count, AsksThreads setup.processors value count ∧
      (applyThreadHint setup).perform session = (.ok (some count), session.threading count)) ∨
    (∀ count, ¬ AsksThreads setup.processors value count) ∧
      (applyThreadHint setup).perform session =
        (.ok none, session.noting (.errorLine threadsWarning)) := by
  by_cases asked : ∃ count, AsksThreads setup.processors value count
  · obtain ⟨count, asks⟩ := asked
    exact .inl ⟨count, asks, perform_applyThreadHint_of_asks given asks short session⟩
  · have asksNone := not_exists.mp asked
    rw [applyThreadHint, LaunchArgs.threadCount, given]
    dsimp only
    rw [readThreadCount_of_asks_none asksNone short]
    exact .inr ⟨asksNone, rfl⟩

theorem exists_perform_applyThreadHint (session : Session)
    (short : ∀ value, setup.args.value? "-threads" = some value → ¬ IsOverlong value) :
    ∃ hint after, (applyThreadHint setup).perform session = (.ok hint, after) := by
  cases given : setup.args.value? "-threads" with
  | none => exact ⟨_, _, perform_applyThreadHint_of_absent given session⟩
  | some value =>
      rcases perform_applyThreadHint_of_short given (short value given) session with
        ⟨count, _, taken⟩ | ⟨_, warned⟩
      · exact ⟨_, _, taken⟩
      · exact ⟨_, _, warned⟩

end Hint

/-! ## Starting with and without a thread count -/

/-- The sessions are in the same phase, and their hosts are related. -/
def Beside (R : Host → Host → Prop) (session twin : Session) : Prop :=
  R session.host twin.host ∧ twin.phase = session.phase

theorem agrees_onHost {α : Type} {R : Host → Host → Prop} {act act' : HostM α}
    (h : Agrees R act act') : Agrees (Beside R) (onHost act) (onHost act') := by
  rintro session twin ⟨related, phase⟩
  obtain ⟨answer, host, host', ran, ran', related'⟩ := h _ _ related
  exact ⟨answer, _, _, perform_onHost ran, perform_onHost ran', related', phase⟩

theorem agrees_equip (setup plain : Setup) :
    Agrees (Beside ShareEngineFree) (equip setup) (equip plain) := by
  apply (agrees_onHost (Evaluator.agrees_registerExit _)).bind
  intro _
  refine Agrees.bind (R := Beside ShareEngineFree) ?_ fun _ => ?_
  · exact agrees_modify fun _ _ related => related
  · exact agrees_onHost (Evaluator.agrees_publish _ _)

/-- The entry into a phase is refused to both or to none. -/
theorem answer_enter_eq {session twin : Session} (target : Phase)
    (same : twin.phase = session.phase) :
    ((enter target).perform twin).1 = ((enter target).perform session).1 := by
  rw [perform_enter, perform_enter, same]
  split <;> rfl

/-- From sessions that share an interpreter free of the engine, the rest of a start comes to
the same answer. -/
theorem answer_startSettled_eq (setup plain : Setup) {session twin : Session}
    (beside : Beside ShareEngineFree session twin) :
    ((startSettled setup).perform session).1 = ((startSettled plain).perform twin).1 := by
  rw [startSettled, startSettled]
  obtain ⟨answer, ready, ready', ran, ran', shared, phase⟩ :=
    agrees_equip setup plain session twin beside
  cases answer with
  | error failure => rw [perform_bind_of_error ran, perform_bind_of_error ran']
  | ok _ =>
      rw [perform_bind_of_ok ran, perform_bind_of_ok ran']
      -- The commands of the engine are defined from here on, but nothing is evaluated any more.
      obtain ⟨answer, last, last', ran, ran', _, phase⟩ :=
        agrees_onHost agrees_registerEngine ready ready' ⟨shared.share, phase⟩
      cases answer with
      | error failure => rw [perform_bind_of_error ran, perform_bind_of_error ran']
      | ok _ =>
          rw [perform_bind_of_ok ran, perform_bind_of_ok ran']
          exact (answer_enter_eq .initialized phase).symm

section Setup

variable {setup plain : Setup} {session : Session}

/-- Unless a thread count is overlong, the answer of a start depends on nothing that a
launch gives. -/
theorem answer_start_eq (created : session.phase = .created) (free : session.host.IsEngineFree)
    (short : ∀ value, setup.args.value? "-threads" = some value → ¬ IsOverlong value)
    (short' : ∀ value, plain.args.value? "-threads" = some value → ¬ IsOverlong value) :
    ((start setup).perform session).1 = ((start plain).perform session).1 := by
  obtain ⟨_, after, hinted⟩ := exists_perform_applyThreadHint session short
  obtain ⟨_, after', hinted'⟩ := exists_perform_applyThreadHint session short'
  have remarks := (remarks_applyThreadHint setup).of_perform hinted
  have remarks' := (remarks_applyThreadHint plain).of_perform hinted'
  rw [perform_start_eq setup created, perform_start_eq plain created,
    perform_bind_of_ok hinted, perform_bind_of_ok hinted']
  apply answer_startSettled_eq
  refine ⟨⟨remarks'.interpreter.trans remarks.interpreter.symm, ?_⟩,
    remarks'.phase.trans remarks.phase.symm⟩
  rwa [remarks.interpreter]

end Setup

/-- **A thread count stops a session only by its length.**  Without a thread count nothing
is done.  A value that asks for a number of threads is handed to the engine and answered
with, and the number is positive if the host reports no negative one; a value that asks for
none is warned of once, and nothing else is done.  But an overlong numeral, whatever number
it writes out, is a failure, which leaves the session as it was, and with which a start
ends.  With any other value a start comes to the answer that it comes to without one, if no
command of the interpreter asks the engine; and until a session has begun none does. -/
theorem thread_hint_stops_overlong_only (setup : Setup) (session : Session) :
    let hinted := (applyThreadHint setup).perform session
    (setup.args.value? "-threads" = none → hinted = (.ok none, session)) ∧
    (∀ value, setup.args.value? "-threads" = some value →
      IsOverlong value ∧ hinted = (.error (.longNumeral value.length), session) ∨
      ¬ IsOverlong value ∧
        ((∃ count, AsksThreads setup.processors value count ∧
          hinted = (.ok (some count), session.threading count) ∧
          ((∀ known ∈ setup.processors, 0 ≤ known) → 0 < count)) ∨
        (∀ count, ¬ AsksThreads setup.processors value count) ∧
          hinted = (.ok none, session.noting (.errorLine threadsWarning)))) ∧
    (session.phase = .created →
      (∀ value, setup.args.value? "-threads" = some value → IsOverlong value →
        (start setup).perform session = (.error (.longNumeral value.length), session)) ∧
      ((∀ value, setup.args.value? "-threads" = some value → ¬ IsOverlong value) →
        session.host.IsEngineFree →
          ∀ plain : Setup, plain.args.value? "-threads" = none →
            ((start setup).perform session).1 = ((start plain).perform session).1)) ∧
    ∀ (table : ScriptTable) (engine : Engine) (editor : Editor) (files : FileTree)
      (requests : List Request),
      let reached := leftBy setup (fresh table engine editor files) requests
      reached.phase = .created → reached.host.IsEngineFree := by
  intro hinted
  refine ⟨?_, ?_, fun created => ⟨?_, ?_⟩, freeUntilBegun_leftBy setup⟩
  · intro absent
    exact perform_applyThreadHint_of_absent absent session
  · intro value given
    by_cases overlong : IsOverlong value
    · exact .inl ⟨overlong, perform_applyThreadHint_of_overlong given overlong session⟩
    rcases perform_applyThreadHint_of_short given overlong session with
      ⟨count, asks, taken⟩ | warned
    · exact .inr ⟨overlong, .inl ⟨count, asks, taken, asks.pos⟩⟩
    · exact .inr ⟨overlong, .inr warned⟩
  · intro value given overlong
    rw [perform_start_eq setup created]
    exact perform_bind_of_error (perform_applyThreadHint_of_overlong given overlong session) _
  · intro short free plain absent
    exact answer_start_eq created free short (by simp [absent])

/-- A launch that asks for threads. -/
def threadedSetup (value : String) : Setup :=
  { sampleSetup with args := ⟨["sta", "-threads", value]⟩ }

theorem not_isOverlong_eight : ¬ IsOverlong "8" := by
  rintro ⟨_, beyond⟩
  revert beyond
  decide

/-- Eight threads are handed to the engine, and the start succeeds as it does without. -/
theorem thread_hint_stops_overlong_only_eight :
    let session := sample []
    (∃ count, AsksThreads none "8" count ∧
      (applyThreadHint (threadedSetup "8")).perform session =
        (.ok (some count), session.threading count)) ∧
      ((start (threadedSetup "8")).perform session).1 = .ok () := by
  intro session
  have given : (threadedSetup "8").args.value? "-threads" = some "8" := by
    decide
  obtain ⟨-, read, started, -⟩ := thread_hint_stops_overlong_only (threadedSetup "8") session
  constructor
  · rcases (read "8" given).resolve_left fun overlong => not_isOverlong_eight overlong.1 with
      ⟨-, ⟨count, asks, taken, -⟩ | ⟨asksNone, -⟩⟩
    · exact ⟨count, asks, taken⟩
    · exact absurd (.number (by decide) (by decide)) (asksNone _)
  · have short : ∀ value, (threadedSetup "8").args.value? "-threads" = some value →
        ¬ IsOverlong value := by
      intro value given'
      obtain rfl := Option.some.inj (given.symm.trans given')
      exact not_isOverlong_eight
    have same := (started rfl).2 short (Host.isEngineFree_fresh _ _) sampleSetup (by decide)
    rw [same]
    exact congrArg Prod.fst (perform_eq_of_isOk (by decide +kernel))

/-- The number one with as many zeros before it as the digit limit allows digits. -/
def paddedOne : String :=
  String.ofList (List.replicate Failure.digitLimit '0' ++ ['1'])

theorem valueFrom_zeros (n : Nat) : Decimal.valueFrom 0 (List.replicate n '0') = 0 := by
  induction n with
  | zero => rfl
  | succ n ih => exact ih

/-- One thread is asked for, in too many digits: nothing is warned of and no thread count is
taken, but the start fails with what is not a bad thread count. -/
theorem padded_one_stops_start :
    let session := sample []
    AsksThreads none paddedOne 1 ∧
      (applyThreadHint (threadedSetup paddedOne)).perform session =
        (.error (.longNumeral 4301), session) ∧
      (start (threadedSetup paddedOne)).perform session = (.error (.longNumeral 4301), session) ∧
      (Failure.longNumeral 4301).kind = "ValueError" := by
  intro session
  have letters : paddedOne.toList = List.replicate Failure.digitLimit '0' ++ ['1'] := by
    rw [paddedOne, String.toList_ofList]
  have length : paddedOne.length = 4301 := by
    rw [paddedOne, String.length_ofList, List.length_append, List.length_replicate]
    rfl
  have numeral : Decimal.isNumeral paddedOne.toList = true := by
    rw [letters, Decimal.isNumeral, List.all_append, List.all_replicate]
    decide
  have value : Decimal.value paddedOne.toList = 1 := by
    rw [letters, Decimal.value_append_singleton, Decimal.value, valueFrom_zeros]
    rfl
  have overlong : IsOverlong paddedOne := ⟨numeral, by rw [length]; decide⟩
  have given : (threadedSetup paddedOne).args.value? "-threads" = some paddedOne := rfl
  have failed := perform_applyThreadHint_of_overlong given overlong session
  rw [length] at failed
  refine ⟨?_, failed, ?_, rfl⟩
  · have asks : AsksThreads none paddedOne (Decimal.value paddedOne.toList) :=
      .number numeral (by rw [value]; decide)
    rwa [value] at asks
  · rw [perform_start_eq _ rfl]
    exact perform_bind_of_error failed _

end Session

end CommandShell
