/-
# The end of a session

A session that converses can be ended if a file system takes its history path and its
entries are strings, or if the history cannot be written at all.  The save is announced,
the interpreter is released and the last phase is entered.  If the history can be
written, the file holds all entries of the editor: an editor takes in storable lines only,
so the writer has none to pass over.  If it cannot, the files are left as they are and the
user is warned.

A storable line need not be a string, and such a line can be entered.  Then the save stops
at it with the file half written, and the session stops with the save: it never comes to
its last phase, and its interpreter is never released.
-/

import CommandShell.Proofs.Session.Speech

namespace CommandShell

namespace Event

/-- The line of output that an event is. -/
def output? : Event → Option Text
  | .output text => some text
  | _ => none

/-- The lines of output, in order. -/
def outputs (events : List Event) : List Text :=
  events.filterMap output?

theorem outputs_append (front back : List Event) :
    outputs (front ++ back) = outputs front ++ outputs back :=
  List.filterMap_append

section Removals

variable {events : List Event} (removals : ∀ event ∈ events, event.isRemoval = true)

include removals

theorem outputs_of_isRemoval : outputs events = [] := by
  refine List.filterMap_eq_nil_iff.mpr fun event member => ?_
  have removal := removals event member
  cases event <;> first | rfl | cases removal

theorem complaints_of_isRemoval : complaints events = [] := by
  refine List.filterMap_eq_nil_iff.mpr fun event member => ?_
  have removal := removals event member
  cases event <;> first | rfl | cases removal

end Removals

end Event

open Act Event

namespace Session

/-! ## Entries that can be stored -/

/-- All entries of the editor can be stored. -/
def Stores (session : Session) : Prop :=
  ∀ entry ∈ session.editor.entries, History.isStorable entry = true

/-- If all entries could be stored before, all can be stored after. -/
def KeepsStored (before after : Session) : Prop :=
  before.Stores → after.Stores

instance : IsPreorder Session KeepsStored where
  refl _ := id
  trans _ _ _ := fun first second stores => second (first stores)

theorem KeepsEntries.keepsStored {before after : Session} (kept : KeepsEntries before after) :
    KeepsStored before after := by
  intro stores
  rwa [Stores, kept.entries]

theorem Confined.keepsStored {before after : Session} (confined : Confined before after) :
    KeepsStored before after :=
  confined.toKeepsEntries.keepsStored

theorem keepsStored_addEntry (line : Text) : Moves KeepsStored (addEntry line) := by
  intro session stores
  obtain ⟨events, added⟩ := perform_addEntry line session
  rw [added, Stores, entries_taking]
  intro entry member
  rcases List.mem_append.mp member with old | new
  · exact stores entry old
  · exact (List.mem_filter.mp new).2

section Setup

variable (setup : Setup)

theorem keepsStored_takeUpHistory : Moves KeepsStored (takeUpHistory setup) := by
  refine moves_get.bind fun session => ?_
  apply ((confined_emitAll _).mono Confined.keepsStored).bind
  intro _
  exact (moves_lift _).bind fun entries => moves_forM fun entry _ => keepsStored_addEntry entry

theorem keepsStored_readLine (prompt : String) : Moves KeepsStored (readLine prompt) := by
  intro session stores
  rw [perform_readLine_eq, Stores, entries_asking]
  exact stores

/-- A line that was answered is stored or passed over, whatever its evaluation came to. -/
theorem keepsStored_answerLine (line : Text) : Moves KeepsStored (answerLine setup line) := by
  rw [answerLine_eq]
  apply ((keepsEntries_attempt setup line).mono KeepsEntries.keepsStored).bind
  intro _
  split
  · exact moves_pure _
  · exact keepsStored_addEntry line

theorem keepsStored_round : Moves KeepsStored (round setup) := by
  apply (keepsStored_readLine _).bind
  intro answer
  cases answer with
  | line text => exact keepsStored_answerLine setup text
  | failed failure => exact moves_throw _
  | ended => exact moves_pure _
  | interrupted message => exact moves_pure _

theorem keepsStored_converse (prompt : String) (readings : List Reading) :
    Moves KeepsStored (converse setup prompt readings) := by
  induction readings with
  | nil =>
      rw [converse_nil]
      refine moves_isTerminated.bind fun ended => ?_
      split
      · exact moves_pure _
      · exact (keepsStored_readLine prompt).discard
  | cons reading later ih =>
      rw [converse_cons]
      refine moves_isTerminated.bind fun ended => ?_
      split
      · exact moves_pure _
      apply (keepsStored_readLine prompt).bind
      intro answer
      cases answer with
      | line text => exact (keepsStored_answerLine setup text).bind fun _ => ih
      | interrupted message => exact ih
      | ended => exact moves_pure _
      | failed failure => exact moves_throw _

theorem keepsStored_interact : Moves KeepsStored (interact setup) := by
  rw [interact_eq]
  apply ((confined_enter _).mono Confined.keepsStored).bind
  intro _
  apply (keepsStored_takeUpHistory setup).bind
  intro _
  exact moves_get.bind fun _ => keepsStored_converse setup _ _

theorem keepsStored_saveHistory : Moves KeepsStored (saveHistory setup) := by
  have emitted (events : List Event) : Moves KeepsStored (emitAll events) :=
    (confined_emitAll events).mono Confined.keepsStored
  rw [saveHistory_eq]
  refine moves_get.bind fun session => ?_
  apply (emitted _).bind
  intro _
  apply Moves.bind (R := KeepsStored)
  · exact moves_modify fun _ => id
  intro _
  rw [settleSave.eq_def]
  split
  · exact moves_pure _
  · exact emitted _
  · exact moves_throw _

/-- Whatever is requested of a session, its entries can be stored. -/
theorem keepsStored_requests : KeptByRequests setup KeepsStored where
  toKeptByScripts := confined_scripts.mono Confined.keepsStored
  hint := (confined_applyThreadHint setup).mono Confined.keepsStored
  prepare := (confined_prepare setup).mono Confined.keepsStored
  enter target := (confined_enter target).mono Confined.keepsStored
  interact := keepsStored_interact setup
  entry := keepsStored_addEntry
  saveHistory := keepsStored_saveHistory setup
  release := (confined_onHost _).mono Confined.keepsStored

/-- What can happen to a session: a request is served, or the conversation goes one round. -/
inductive Turn
  | served (request : Request)
  | round

/-- What happens in a turn. -/
def Turn.act : Turn → SessionM Unit
  | .served request => discard (serve setup request)
  | .round => Session.round setup

/-- The session that turns leave, each taken from where the one before it left off, also if
it failed. -/
def leftByTurns (session : Session) (turns : List Turn) : Session :=
  turns.foldl (fun session turn => ((turn.act setup).perform session).2) session

theorem keepsStored_turn (turn : Turn) : Moves KeepsStored (turn.act setup) := by
  cases turn with
  | served request => exact ((keepsStored_requests setup).serve request).discard
  | round => exact keepsStored_round setup

theorem stores_leftByTurns {session : Session} (stores : session.Stores) (turns : List Turn) :
    (leftByTurns setup session turns).Stores := by
  induction turns generalizing session with
  | nil => exact stores
  | cons turn rest ih => exact ih (keepsStored_turn setup turn session stores)

/-! ## Ending -/

/-- A session has been ended: it is in its last phase, and without an interpreter. -/
def IsEnded (ended : Except Failure Unit × Session) : Prop :=
  ended.1 = .ok () ∧ ended.2.phase = .done ∧ ended.2.host.interpreter = none

/-- The save of the history is announced once, as the only line of output, and these are
the complaints. -/
def Announces (complained : List Text) (before after : Session) : Prop :=
  ∃ events, after.host.log = before.host.log ++ events ∧
    outputs events = [Text.plain History.saveMessage] ∧ complaints events = complained

section Ending

variable {setup} {session : Session} (talking : session.phase = .interactive)

include talking

/-- Once the save has come to its end, so does the session. -/
theorem isEnded_shutdown {events : List Event} {files : FileTree}
    (saving : (saveHistory setup).perform (session.entering .terminating) =
      (.ok (), { (session.entering .terminating).taking events [] with files }))
    (announced : outputs events = [Text.plain History.saveMessage]) :
    let ended := (shutdown setup).perform session
    IsEnded ended ∧ ended.2.files = files ∧ Announces (complaints events) session ended.2 := by
  obtain ⟨final, removed, shut, phase, released, sameFiles, log, removals⟩ :=
    exists_perform_shutdown_of_saved setup talking saving
  rw [shut]
  intro ended
  let entered (phase : Phase) : List Event := [.diagnostic .shell phase.entryText]
  have silent (phase : Phase) : outputs (entered phase) = [] ∧ complaints (entered phase) = [] :=
    ⟨rfl, rfl⟩
  refine ⟨⟨rfl, phase, released⟩, sameFiles,
    entered .terminating ++ events ++ removed ++ entered .done, ?_, ?_, ?_⟩
  · rw [log]
    simp [entered, taking, entering]
  · simp [outputs_append, silent, outputs_of_isRemoval removals, announced]
  · simp [complaints_append, silent, complaints_of_isRemoval removals]

theorem shutdown_of_not_isWritable (noNul : (Config.historyPath setup.config).hasNul = false)
    (blocked : ¬ session.files.IsWritable (Config.historyPath setup.config)) :
    let ended := (shutdown setup).perform session
    IsEnded ended ∧ ended.2.files = session.files ∧
      ∃ error place, Announces [saveWarning (.file (.system error place))] session ended.2 := by
  obtain ⟨error, place, refused⟩ :=
    History.exists_save_of_not_isWritable noNul blocked session.editor.entries
  have saving : (saveHistory setup).perform (session.entering .terminating) = _ :=
    perform_saveHistory_of_refused setup (congrArg Prod.fst refused)
  obtain ⟨isEnded, files, announced⟩ := isEnded_shutdown talking saving rfl
  exact ⟨isEnded, files, error, place, announced⟩

theorem shutdown_of_strings {strings : List String}
    (all : session.editor.entries.filter History.isStorable = strings.map .plain)
    (writable : session.files.IsWritable (Config.historyPath setup.config)) :
    let ended := (shutdown setup).perform session
    IsEnded ended ∧
      History.Rewritten (Config.historyPath setup.config) strings session.files ended.2.files ∧
      Announces [] session ended.2 := by
  obtain ⟨saved, noted, saves, rewritten⟩ := History.exists_save_of_strings all writable
  have saving : (saveHistory setup).perform (session.entering .terminating) = _ :=
    perform_saveHistory_of_saved setup saves
  obtain ⟨isEnded, files, announced⟩ := isEnded_shutdown talking saving rfl
  exact ⟨isEnded, files ▸ rewritten, announced⟩

theorem shutdown_of_fault {strings : List String} {text : Text} {later : List Text}
    {fault : EncodingFault} (some : session.editor.entries.filter History.isStorable =
      strings.map .plain ++ text :: later) (broken : text.encode = .error fault)
    (writable : session.files.IsWritable (Config.historyPath setup.config)) :
    let ended := (shutdown setup).perform session
    ended.1 = .error (.unencodable fault) ∧ ended.2.phase = .terminating ∧
      ended.2.host.interpreter = session.host.interpreter ∧
      History.Rewritten (Config.historyPath setup.config) strings session.files ended.2.files ∧
      Announces [] session ended.2 := by
  obtain ⟨left, fails, rewritten⟩ := History.exists_save_of_fault some broken writable
  rw [perform_shutdown_of_fault setup talking fails]
  refine ⟨rfl, rfl, rfl, rewritten, [.diagnostic .shell (Phase.entryText .terminating),
    .output History.saveMessage], ?_, rfl, rfl⟩
  exact List.append_assoc _ _ _

/-- The save meets a line without an encoding, or the session is ended. -/
theorem shutdown_cases (noNul : (Config.historyPath setup.config).hasNul = false)
    (stores : session.editor.entries.filter History.isStorable = session.editor.entries) :
    let path := Config.historyPath setup.config
    let ended := (shutdown setup).perform session
    (IsEnded ended ∧ (session.files.IsWritable path → ∃ strings : List String,
      session.editor.entries = strings.map .plain ∧
        History.Rewritten path strings session.files ended.2.files)) ∨
    ∃ (strings : List String) (text : Text) (later : List Text) (fault : EncodingFault),
      session.editor.entries = strings.map .plain ++ text :: later ∧
      text.encode = .error fault ∧ ended.1 = .error (.unencodable fault) ∧
      ended.2.phase = .terminating ∧ ended.2.host.interpreter = session.host.interpreter ∧
      History.Rewritten path strings session.files ended.2.files := by
  intro path ended
  by_cases writable : session.files.IsWritable path
  · rcases TextFile.strings_or_fault session.editor.entries with
      ⟨strings, all⟩ | ⟨strings, text, later, fault, met, broken⟩
    · obtain ⟨isEnded, rewritten, _⟩ := shutdown_of_strings talking (stores.trans all) writable
      exact .inl ⟨isEnded, fun _ => ⟨strings, all, rewritten⟩⟩
    · obtain ⟨raised, phase, held, rewritten, _⟩ :=
        shutdown_of_fault talking (stores.trans met) broken writable
      exact .inr ⟨strings, text, later, fault, met, broken, raised, phase, held, rewritten⟩
  · obtain ⟨isEnded, _⟩ := shutdown_of_not_isWritable talking noNul writable
    exact .inl ⟨isEnded, (absurd · writable)⟩

end Ending

/-- **A session that converses can be ended, unless a line without an encoding is to be
saved.**  Let its history path hold no U+0000 and its entries be those that any requests and
any rounds of the conversation have led to, wherever the path leads and whatever stands
there.  The save is announced once, as the only line of output.

If the path cannot be written, the session is ended, no file is changed, and the fault is
warned of, as the only line on the error channel.  If it can be written and the entries are
strings, the session is ended, the file holds all of them in order, none passed over, no
other file is changed and nothing is complained of.  If it can be written and there is an
entry that is no string, that failure is raised: the session stays in the phase before the
last with its interpreter, the file holds the entries before that one and no others, and
nothing is complained of.  So these are all the sessions that cannot be ended. -/
theorem shutdown_completes_iff {before session : Session} (turns : List Turn)
    (blank : before.editor.entries = [])
    (reached : session.editor.entries = (leftByTurns setup before turns).editor.entries)
    (talking : session.phase = .interactive)
    (noNul : (Config.historyPath setup.config).hasNul = false) :
    let path := Config.historyPath setup.config
    let entries := session.editor.entries
    let ended := (shutdown setup).perform session
    (∃ complained, Announces complained session ended.2) ∧
      (¬ session.files.IsWritable path →
        IsEnded ended ∧ ended.2.files = session.files ∧ ∃ error place,
          Announces [saveWarning (.file (.system error place))] session ended.2) ∧
      (∀ strings : List String, session.files.IsWritable path → entries = strings.map .plain →
        IsEnded ended ∧ History.Rewritten path strings session.files ended.2.files ∧
          Announces [] session ended.2) ∧
      (∀ (strings : List String) text later fault, session.files.IsWritable path →
        entries = strings.map .plain ++ text :: later → text.encode = .error fault →
        ended.1 = .error (.unencodable fault) ∧ ended.2.phase = .terminating ∧
          ended.2.host.interpreter = session.host.interpreter ∧
          History.Rewritten path strings session.files ended.2.files ∧
          Announces [] session ended.2) ∧
      (IsEnded ended ↔ (session.files.IsWritable path →
        ∃ strings : List String, entries = strings.map .plain)) := by
  intro path entries ended
  have stores : entries.filter History.isStorable = entries := by
    have none : before.Stores := by simp [Stores, blank]
    have stored := stores_leftByTurns setup none turns
    rw [Stores, ← reached] at stored
    exact List.filter_eq_self.mpr stored
  have blocked (noWay : ¬ session.files.IsWritable path) :=
    shutdown_of_not_isWritable talking noNul noWay
  have ofStrings (strings : List String) (writable : session.files.IsWritable path)
      (all : entries = strings.map .plain) :=
    shutdown_of_strings talking (stores.trans all) writable
  have ofFault (strings : List String) (text : Text) (later : List Text) (fault : EncodingFault)
      (writable : session.files.IsWritable path)
      (met : entries = strings.map .plain ++ text :: later) (broken : text.encode = .error fault) :=
    shutdown_of_fault talking (stores.trans met) broken writable
  refine ⟨?_, blocked, ofStrings, ofFault, fun isEnded writable => ?_, fun strings => ?_⟩
  · by_cases writable : session.files.IsWritable path
    · rcases TextFile.strings_or_fault entries with
        ⟨strings, all⟩ | ⟨strings, text, later, fault, met, broken⟩
      · exact ⟨_, (ofStrings strings writable all).2.2⟩
      · exact ⟨_, (ofFault strings text later fault writable met broken).2.2.2.2⟩
    · obtain ⟨_, _, _, _, announced⟩ := blocked writable
      exact ⟨_, announced⟩
  · rcases TextFile.strings_or_fault entries with
      strings | ⟨strings, text, later, fault, met, broken⟩
    · exact strings
    · have raised := (ofFault strings text later fault writable met broken).1
      cases raised.symm.trans isEnded.1
  · by_cases writable : session.files.IsWritable path
    · obtain ⟨strings, all⟩ := strings writable
      exact (ofStrings strings writable all).1
    · exact (blocked writable).1

end Setup

/-- A line is entered, another one is read and answered, and a third is passed over. -/
def sampleTurns : List Turn :=
  [.served (.addEntry "one"), .round, .served (.addEntry "two\nlines")]

/-- A session that converses among some files, and has read a line. -/
def conversing (line : Text) (files : FileTree) : Session :=
  { leftByTurns sampleSetup (sample [line]) sampleTurns with files, phase := .interactive }

/-- A directory stands where the history would be written. -/
def blockedHistory : FileTree where
  nodes := [([".history_sta"], .directory)]

theorem shutdown_completes_iff_samples :
    let path := Config.historyPath sampleSetup.config
    let saved := (shutdown sampleSetup).perform (conversing "go on" {})
    let refused := (shutdown sampleSetup).perform (conversing undecodedLine blockedHistory)
    let stopped := (shutdown sampleSetup).perform (conversing undecodedLine {})
    (IsEnded saved ∧ History.Rewritten path ["one", "go on"] {} saved.2.files) ∧
      (IsEnded refused ∧ refused.2.files = blockedHistory) ∧
      stopped.1 = .error (.unencodable ⟨3, 0x4ff, 0⟩) := by
  have root : Config.historyPath sampleSetup.config = ⟨.relative, [".history_sta"]⟩ := by
    decide +kernel
  have completes (line : Text) (files : FileTree) :=
    @shutdown_completes_iff sampleSetup (sample [line]) (conversing line files) sampleTurns rfl
      (by rw [conversing]) rfl (by decide +kernel)
  have writable : ({} : FileTree).IsWritable (Config.historyPath sampleSetup.config) := by
    rw [root]
    exact ⟨[".history_sta"], rfl, by decide⟩
  have blocked : ¬ blockedHistory.IsWritable (Config.historyPath sampleSetup.config) := by
    rw [root]
    rintro ⟨location, led, free⟩
    have there : blockedHistory.resolve ⟨.relative, [".history_sta"]⟩ = .ok [".history_sta"] :=
      rfl
    obtain rfl := Except.ok.inj (there.symm.trans led)
    exact free (by decide)
  have strings : (conversing "go on" {}).editor.entries = ["one", "go on"].map .plain := by
    decide +kernel
  have broken : (conversing undecodedLine {}).editor.entries =
      ["one"].map .plain ++ [undecodedLine] := by
    decide +kernel
  obtain ⟨savedEnded, rewritten, _⟩ :=
    (completes "go on" {}).2.2.1 ["one", "go on"] writable strings
  obtain ⟨refusedEnded, files, _⟩ := (completes undecodedLine blockedHistory).2.1 blocked
  have raised := (completes undecodedLine {}).2.2.2.1 ["one"] undecodedLine [] _ writable broken rfl
  exact ⟨⟨savedEnded, rewritten⟩, ⟨refusedEnded, files⟩, raised.1⟩

/-- The history file could be written, and yet the session is not ended and loses a line:
the failure is not one of the file system. -/
theorem undecoded_line_stops_shutdown :
    let path := Config.historyPath sampleSetup.config
    let session := conversing undecodedLine {}
    let ended := (shutdown sampleSetup).perform session
    session.files.IsWritable path ∧ session.editor.entries = [.plain "one", undecodedLine] ∧
      ended.1 = .error (.unencodable ⟨3, 0x4ff, 0⟩) ∧ ended.2.phase = .terminating ∧
      ended.2.host.interpreter.isSome = true ∧
      ended.2.files.nodes = [([".history_sta"], .file "one\n".toUTF8.data.toList)] ∧
      complaints ended.2.host.log = [] := by
  have root : Config.historyPath sampleSetup.config = ⟨.relative, [".history_sta"]⟩ := by
    decide +kernel
  have writable : (conversing undecodedLine {}).files.IsWritable
      (Config.historyPath sampleSetup.config) := by
    rw [root]
    exact ⟨[".history_sta"], rfl, by decide⟩
  have entries : (conversing undecodedLine {}).editor.entries = [.plain "one", undecodedLine] := by
    decide +kernel
  have met : (conversing undecodedLine {}).editor.entries.filter History.isStorable =
      ["one"].map .plain ++ [undecodedLine] := by
    rw [entries]
    decide
  have talking : (conversing undecodedLine {}).phase = .interactive := rfl
  have stopped := shutdown_of_fault talking met rfl writable
  exact ⟨writable, entries, stopped.1, stopped.2.1, by decide +kernel, by decide +kernel,
    by decide +kernel⟩

end Session

end CommandShell
