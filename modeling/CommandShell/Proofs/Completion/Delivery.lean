/-
# What completion cursors deliver

A cursor remembers only how far it has come.  What it has delivered and what it finds from
there on are together what the whole table offers, and each request keeps this account: a
search delivers what it passes, and a name that is appended stands ahead of every cursor of
the table, also of one that had come to its end.  Cursors share their table and nothing
else, so each is answered as it would be alone.
-/

import CommandShell.Completion.Cursor

namespace CommandShell.Completion

/-! ## Requests and their answers -/

namespace Request

/-- The cursor that a request moves. -/
def cursor? : Request → Option Nat
  | .next i | .rest i => some i
  | .openCursor _ _ | .append _ => none

/-- The name that a request appends to the shared table. -/
def appended? : Request → Option String
  | .append name => some name
  | _ => none

/-- What is left of a request for a cursor that is alone: no other is opened or moved, and
its own number is zero. -/
def alone? (i : Nat) : Request → Option Request
  | .next j => if j = i then some (.next 0) else none
  | .rest j => if j = i then some (.rest 0) else none
  | .append name => some (.append name)
  | .openCursor _ _ => none

end Request

/-- The names that an answer delivers. -/
def delivered : Except Failure Reply → List String
  | .ok (.name name) => [name]
  | .ok (.names names) => names
  | _ => []

/-- How the outcome of a search is answered. -/
def answerOf : Option String → Except Failure Reply
  | some name => .ok (.name name)
  | none => .error .exhausted

theorem delivered_answerOf (found : Option String) : delivered (answerOf found) = found.toList := by
  cases found <;> rfl

namespace Cursors

/-- What a sequence of requests leaves. -/
def leftBy (cursors : Cursors) (requests : List Request) : Cursors :=
  requests.foldl (fun cursors request => (cursors.serve request).2) cursors

theorem leftBy_cons (cursors : Cursors) (request : Request) (rest : List Request) :
    cursors.leftBy (request :: rest) = (cursors.serve request).2.leftBy rest :=
  rfl

/-- The answers to the requests that move a cursor, in order. -/
def answers (i : Nat) : Cursors → List Request → List (Except Failure Reply)
  | _, [] => []
  | cursors, request :: rest =>
    let later := answers i (cursors.serve request).2 rest
    if request.cursor? = some i then (cursors.serve request).1 :: later else later

/-- The names that a cursor has delivered by the end of a sequence of requests. -/
def yielded (i : Nat) (cursors : Cursors) (requests : List Request) : List String :=
  (answers i cursors requests).flatMap delivered

section Cons

variable {cursors : Cursors} {i : Nat} {request : Request} (rest : List Request)

theorem answers_cons_of_own (own : request.cursor? = some i) :
    answers i cursors (request :: rest) =
      (cursors.serve request).1 :: answers i (cursors.serve request).2 rest :=
  if_pos own

theorem answers_cons_of_other (other : request.cursor? ≠ some i) :
    answers i cursors (request :: rest) = answers i (cursors.serve request).2 rest :=
  if_neg other

end Cons

end Cursors

/-! ## A cursor and its table -/

namespace Cursor

/-- What a search finds and what stands behind it are all candidates. -/
theorem candidates_eq_seek (typed : String) (names : List String) :
    candidates names typed =
      (seek typed names).1.toList ++ candidates (names.drop (seek typed names).2) typed := by
  induction names with
  | nil => rfl
  | cons name rest ih =>
      by_cases found : matchesStart typed name = true
      · simp [seek, candidates, found]
      · simpa [seek, candidates, found] using ih

theorem seek_le_length (typed : String) (names : List String) :
    (seek typed names).2 ≤ names.length := by
  induction names with
  | nil => exact Nat.le_refl 0
  | cons name rest ih =>
      by_cases found : matchesStart typed name = true
      · simp [seek, found]
      · simpa [seek, found] using ih

/-- The names that a cursor has yet to deliver. -/
def ahead (cursor : Cursor) (names : List String) : List String :=
  candidates (names.drop cursor.position) cursor.typed

/-- How a cursor answers a request that moves it, and where it stands then. -/
def reply (cursor : Cursor) (names : List String) : Request → Except Failure Reply × Cursor
  | .next _ => (answerOf (cursor.next names).1, (cursor.next names).2)
  | .rest _ => (.ok (.names (cursor.rest names).1), (cursor.rest names).2)
  | .openCursor _ _ | .append _ => (.ok .nothing, cursor)

variable {cursor : Cursor} {names : List String}

theorem ahead_eq_next :
    cursor.ahead names = (cursor.next names).1.toList ++ (cursor.next names).2.ahead names := by
  rw [ahead, candidates_eq_seek, List.drop_drop]
  rfl

/-- A search finds the first name that is ahead. -/
theorem next_eq_head? : (cursor.next names).1 = (cursor.ahead names).head? := by
  rw [ahead_eq_next]
  cases found : (cursor.next names).1 with
  | some name => rfl
  | none =>
      have nothing : cursor.ahead names = [] := (seek_eq_none found).1
      rw [ahead_eq_next, List.append_eq_nil_iff] at nothing
      rw [nothing.2]
      rfl

theorem ahead_rest : (cursor.rest names).2.ahead names = [] := by
  have ended : names.drop (max cursor.position names.length) = [] :=
    List.drop_of_length_le (Nat.le_max_right _ _)
  simp [ahead, rest, ended, candidates]

/-- An answer delivers the names that are no longer ahead, and leaves the cursor in its
table. -/
theorem reply_keeps (request : Request) (within : cursor.position ≤ names.length) :
    let moved := (cursor.reply names request).2
    moved.typed = cursor.typed ∧ moved.position ≤ names.length ∧
      cursor.ahead names = delivered (cursor.reply names request).1 ++ moved.ahead names := by
  cases request with
  | openCursor source typed => exact ⟨rfl, within, rfl⟩
  | append name => exact ⟨rfl, within, rfl⟩
  | rest j =>
      refine ⟨rfl, Nat.max_le.mpr ⟨within, Nat.le_refl _⟩, ?_⟩
      change _ = (cursor.rest names).1 ++ (cursor.rest names).2.ahead names
      rw [ahead_rest, List.append_nil]
      rfl
  | next j =>
      have passed := seek_le_length cursor.typed (names.drop cursor.position)
      rw [List.length_drop] at passed
      refine ⟨rfl, ?_, ?_⟩
      · change cursor.position + _ ≤ names.length
        omega
      · rw [reply, delivered_answerOf]
        exact ahead_eq_next

end Cursor

namespace Cursors

/-! ## One request -/

section There

variable {cursors : Cursors} {i : Nat} {source : Source} {cursor : Cursor} {request : Request}

theorem shared_serve (cursors : Cursors) (request : Request) :
    (cursors.serve request).2.shared = cursors.shared ++ request.appended?.toList := by
  cases request with
  | openCursor source typed => exact (List.append_nil _).symm
  | append name => rfl
  | next j =>
      rw [serve]
      split
      · exact (List.append_nil _).symm
      · split <;> exact (List.append_nil _).symm
  | rest j =>
      rw [serve]
      split <;> exact (List.append_nil _).symm

theorem opened_move {j : Nat} {moved : Cursor} (other : j ≠ i) :
    (cursors.move j source moved).opened[i]? = cursors.opened[i]? :=
  List.getElem?_set_ne other

variable (there : cursors.opened[i]? = some (source, cursor))

include there

/-- A request that moves a cursor is answered by that cursor. -/
theorem serve_own (own : request.cursor? = some i) :
    cursors.serve request =
      ((cursor.reply (cursors.namesOf source) request).1,
        cursors.move i source (cursor.reply (cursors.namesOf source) request).2) := by
  cases request with
  | openCursor source typed => cases own
  | append name => cases own
  | rest j =>
      cases own
      simp only [serve, there]
      rfl
  | next j =>
      cases own
      simp only [serve, there, Cursor.reply]
      rcases cursor.next (cursors.namesOf source) with ⟨_ | name, moved⟩ <;> rfl

/-- Any other request leaves it where it is. -/
theorem opened_serve (other : request.cursor? ≠ some i) :
    (cursors.serve request).2.opened[i]? = some (source, cursor) := by
  rw [← there]
  cases request with
  | openCursor source typed =>
      obtain ⟨inRange, _⟩ := List.getElem?_eq_some_iff.mp there
      exact List.getElem?_append_left inRange
  | append name => rfl
  | next j =>
      have different : j ≠ i := fun same => other (congrArg some same)
      rw [serve]
      split
      · rfl
      · split <;> exact opened_move different
  | rest j =>
      have different : j ≠ i := fun same => other (congrArg some same)
      rw [serve]
      split
      · rfl
      · exact opened_move different

theorem opened_move_self (moved : Cursor) :
    (cursors.move i source moved).opened[i]? = some (source, moved) := by
  obtain ⟨inRange, _⟩ := List.getElem?_eq_some_iff.mp there
  exact List.getElem?_set_self inRange

end There

theorem namesOf_move (cursors : Cursors) (i : Nat) (source other : Source) (moved : Cursor) :
    (cursors.move i source moved).namesOf other = cursors.namesOf other := by
  cases other <;> rfl

/-- What a source offers grows by what is appended to it. -/
theorem exists_namesOf_serve (cursors : Cursors) (source : Source) (request : Request) :
    ∃ appended, (cursors.serve request).2.namesOf source = cursors.namesOf source ++ appended := by
  cases source with
  | builtin => exact ⟨[], (List.append_nil _).symm⟩
  | shared => exact ⟨request.appended?.toList, shared_serve cursors request⟩

/-! ## Requests after requests -/

/-- What a cursor has been given and what is ahead of it are what its whole table offers. -/
structure Accounted (i : Nat) (source : Source) (given : List String) (cursors : Cursors)
    (cursor : Cursor) : Prop where
  there : cursors.opened[i]? = some (source, cursor)
  within : cursor.position ≤ (cursors.namesOf source).length
  account : given ++ cursor.ahead (cursors.namesOf source) =
    candidates (cursors.namesOf source) cursor.typed

section Accounted

variable {i : Nat} {source : Source} {given : List String} {cursors : Cursors} {cursor : Cursor}
  (accounted : Accounted i source given cursors cursor)

include accounted

theorem Accounted.own {request : Request} (own : request.cursor? = some i) :
    ∃ moved, moved.typed = cursor.typed ∧
      Accounted i source (given ++ delivered (cursors.serve request).1)
        (cursors.serve request).2 moved := by
  obtain ⟨typed, within, split⟩ := Cursor.reply_keeps request accounted.within
  have account := accounted.account
  rw [serve_own accounted.there own]
  refine ⟨_, typed, opened_move_self accounted.there _, ?_, ?_⟩
  · rwa [namesOf_move]
  · rw [namesOf_move, typed, List.append_assoc, ← split, account]

theorem Accounted.other {request : Request} (other : request.cursor? ≠ some i) :
    Accounted i source given (cursors.serve request).2 cursor := by
  obtain ⟨appended, names⟩ := exists_namesOf_serve cursors source request
  refine ⟨opened_serve accounted.there other, ?_, ?_⟩
  · rw [names, List.length_append]
    exact Nat.le_add_right_of_le accounted.within
  · rw [names, candidates_append, ← accounted.account, List.append_assoc, Cursor.ahead,
      List.drop_append_of_le_length accounted.within, candidates_append]
    rfl

theorem Accounted.leftBy (requests : List Request) :
    ∃ moved, moved.typed = cursor.typed ∧
      Accounted i source (given ++ yielded i cursors requests) (cursors.leftBy requests)
        moved := by
  induction requests generalizing given cursors cursor with
  | nil =>
      refine ⟨cursor, rfl, ?_⟩
      rwa [show yielded i cursors [] = [] from rfl, List.append_nil]
  | cons request rest ih =>
      by_cases own : request.cursor? = some i
      · obtain ⟨between, typed, next⟩ := accounted.own own
        obtain ⟨moved, typed', last⟩ := ih next
        refine ⟨moved, typed'.trans typed, ?_⟩
        rwa [yielded, answers_cons_of_own rest own, List.flatMap_cons, ← List.append_assoc]
      · obtain ⟨moved, typed, last⟩ := ih (accounted.other own)
        refine ⟨moved, typed, ?_⟩
        rwa [yielded, answers_cons_of_other rest own]

end Accounted

theorem shared_leftBy (cursors : Cursors) (requests : List Request) :
    (cursors.leftBy requests).shared =
      cursors.shared ++ requests.filterMap Request.appended? := by
  induction requests generalizing cursors with
  | nil => exact (List.append_nil _).symm
  | cons request rest ih =>
      rw [leftBy_cons, ih, shared_serve]
      cases appended : request.appended? <;> simp [appended]

/-! ## A cursor alone -/

/-- The same table with one cursor and no other. -/
def lone (cursors : Cursors) (entry : Source × Cursor) : Cursors :=
  { shared := cursors.shared, opened := [entry] }

theorem namesOf_lone (cursors : Cursors) (entry : Source × Cursor) (source : Source) :
    (cursors.lone entry).namesOf source = cursors.namesOf source := by
  cases source <;> rfl

theorem exists_alone_of_own {i : Nat} {request : Request} (own : request.cursor? = some i) :
    ∃ alone, request.alone? i = some alone ∧ alone.cursor? = some 0 ∧
      ∀ (cursor : Cursor) names, cursor.reply names alone = cursor.reply names request := by
  cases request with
  | openCursor source typed => cases own
  | append name => cases own
  | next j =>
      cases own
      exact ⟨.next 0, if_pos rfl, rfl, fun _ _ => rfl⟩
  | rest j =>
      cases own
      exact ⟨.rest 0, if_pos rfl, rfl, fun _ _ => rfl⟩

/-- Of the requests that do not move a cursor, those that append are left to it. -/
theorem leftBy_alone_of_other {i : Nat} {request : Request} (other : request.cursor? ≠ some i)
    (cursors : Cursors) (entry : Source × Cursor) :
    (cursors.lone entry).leftBy (request.alone? i).toList = (cursors.serve request).2.lone entry ∧
      ∀ alone ∈ request.alone? i, alone.cursor? = none := by
  have same (unchanged : request.appended? = none) :
      (cursors.serve request).2.lone entry = cursors.lone entry := by
    rw [lone, shared_serve, unchanged, Option.toList_none, List.append_nil]
    rfl
  cases request with
  | append name => exact ⟨rfl, by simp [Request.alone?, Request.cursor?]⟩
  | openCursor source typed => exact ⟨(same rfl).symm, by simp [Request.alone?]⟩
  | next j =>
      have different : j ≠ i := fun equal => other (congrArg some equal)
      rw [same rfl, Request.alone?, if_neg different]
      exact ⟨rfl, by simp⟩
  | rest j =>
      have different : j ≠ i := fun equal => other (congrArg some equal)
      rw [same rfl, Request.alone?, if_neg different]
      exact ⟨rfl, by simp⟩

/-- A cursor is answered as it would be alone. -/
theorem answers_lone {cursors : Cursors} {i : Nat} {source : Source} {cursor : Cursor}
    (there : cursors.opened[i]? = some (source, cursor)) (requests : List Request) :
    answers i cursors requests =
      answers 0 (cursors.lone (source, cursor)) (requests.filterMap (Request.alone? i)) := by
  induction requests generalizing cursors cursor with
  | nil => rfl
  | cons request rest ih =>
      by_cases own : request.cursor? = some i
      · obtain ⟨alone, isAlone, ownAlone, sameReply⟩ := exists_alone_of_own own
        have first : (cursors.lone (source, cursor)).opened[0]? = some (source, cursor) := rfl
        have served := serve_own there own
        have servedAlone := serve_own first ownAlone
        rw [namesOf_lone, sameReply] at servedAlone
        rw [answers_cons_of_own rest own, List.filterMap_cons_some isAlone,
          answers_cons_of_own _ ownAlone, served, servedAlone]
        exact congrArg _ (ih (opened_move_self there _))
      · rw [answers_cons_of_other rest own, ih (opened_serve there own)]
        obtain ⟨left, moveless⟩ := leftBy_alone_of_other own cursors (source, cursor)
        rw [← left]
        cases alone : request.alone? i with
        | none => rw [List.filterMap_cons_none alone]; rfl
        | some kept =>
            have other : kept.cursor? ≠ some 0 := by simp [moveless kept alone]
            rw [List.filterMap_cons_some alone, answers_cons_of_other _ other]
            rfl

/-- **Every matching name is delivered once, in table order.**  Let a cursor stand at the
beginning of its table, beside any others, and let any requests be served: cursors are opened
and moved and names are appended, in any order.  Then what the cursor has delivered, followed
by the names from its position on that begin with what was typed, are exactly the names of the
whole table, as it is by then, that do.  Its next search finds the first name that is left, and
reports the end exactly if none is left, also after names have been appended behind a reported
end.  All answers to the cursor are those that it would be given alone, by the same table. -/
theorem every_name_delivered_once (start : Cursors) {i : Nat} {source : Source} {typed : String}
    (fresh : start.opened[i]? = some (source, ⟨typed, 0⟩)) (requests : List Request) :
    let now := start.leftBy requests
    let table := now.namesOf source
    now.shared = start.shared ++ requests.filterMap Request.appended? ∧
      ∃ position, now.opened[i]? = some (source, ⟨typed, position⟩) ∧
        yielded i start requests ++ candidates (table.drop position) typed =
          candidates table typed ∧
        ((now.serve (.next i)).1 = .error .exhausted ↔
          candidates (table.drop position) typed = []) ∧
        (∀ name later, candidates (table.drop position) typed = name :: later →
          (now.serve (.next i)).1 = .ok (.name name)) ∧
        answers i start requests =
          answers 0 (start.lone (source, ⟨typed, 0⟩))
            (requests.filterMap (Request.alone? i)) := by
  intro now table
  have begun : Accounted i source [] start ⟨typed, 0⟩ := ⟨fresh, Nat.zero_le _, rfl⟩
  obtain ⟨⟨typed', position⟩, same, there, _, account⟩ := begun.leftBy requests
  obtain rfl : typed' = typed := same
  have answer : (now.serve (.next i)).1 =
      answerOf (candidates (table.drop position) typed').head? := by
    rw [serve_own there rfl]
    exact congrArg answerOf Cursor.next_eq_head?
  rw [answer]
  refine ⟨shared_leftBy start requests, position, there, account, ?_, ?_, answers_lone fresh _⟩
  · cases candidates (table.drop position) typed' <;> simp [answerOf]
  · intro name later split
    rw [split]
    rfl

/-- Two cursors over one table; the first reports its end before a name is appended. -/
def resumed : List Request :=
  [.next 0, .next 1, .next 0, .append "get_ports", .next 1, .next 0, .openCursor .shared "get"]

theorem every_name_delivered_once_resumed :
    let start : Cursors :=
      { shared := ["get_nets", "read_sdc"], opened := [(.shared, ⟨"get", 0⟩), (.shared, ⟨"", 0⟩)] }
    let now := start.leftBy resumed
    start.opened[0]? = some (.shared, ⟨"get", 0⟩) ∧
      answers 0 start resumed =
        [.ok (.name "get_nets"), .error .exhausted, .ok (.name "get_ports")] ∧
      now.shared = ["get_nets", "read_sdc", "get_ports"] ∧
      (now.serve (.next 0)).1 = .error .exhausted ∧
      (now.serve (.next 1)).1 = .ok (.name "get_ports") := by
  intro start now
  have fresh : start.opened[0]? = some (.shared, ⟨"get", 0⟩) := rfl
  have second : start.opened[1]? = some (.shared, ⟨"", 0⟩) := rfl
  have standing : now.opened =
      [(.shared, ⟨"get", 3⟩), (.shared, ⟨"", 2⟩), (.shared, ⟨"get", 0⟩)] := by
    decide +kernel
  obtain ⟨table, _, there, _, ended, _, alone⟩ := every_name_delivered_once start fresh resumed
  obtain ⟨_, _, other, _, _, found, _⟩ := every_name_delivered_once start second resumed
  rw [standing] at there other
  cases there
  cases other
  refine ⟨fresh, ?_, table, ended.mpr ?_, found "get_ports" [] ?_⟩
  · rw [alone]
    rfl
  · decide +kernel
  · decide +kernel

end Cursors

end CommandShell.Completion
