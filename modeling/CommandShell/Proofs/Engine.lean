/-
# What an engine answers

An engine answers with its version and its thread count as they stand when it is asked.
Versions can always be written, counts unless they need more digits than the limit.  What
stands is what was set last, whatever else was requested in between.
-/

import CommandShell.Engine
import CommandShell.Proofs.Decimal

namespace CommandShell.Engine

/-- The count can be written within the digit limit. -/
def IsWritableCount (count : Int) : Prop :=
  count.natAbs < 10 ^ Failure.digitLimit

theorem length_numeral_le_digitLimit_iff {n : Nat} :
    (Decimal.numeral n).length ≤ Failure.digitLimit ↔ n < 10 ^ Failure.digitLimit :=
  Decimal.length_numeral_le_iff (by decide)

theorem answer_threads_of_writable {engine : Engine} (writable : IsWritableCount engine.threads) :
    engine.answer .threads = .ok (Decimal.integer engine.threads) := by
  have fits := length_numeral_le_digitLimit_iff.mpr writable
  rw [answer, if_neg (Nat.not_lt.mpr fits)]

namespace Catalog

/-- The thread count that a request sets. -/
def Request.count? : Request → Option Int
  | .setThreads count => some count
  | _ => none

/-- The version that a request sets. -/
def Request.version? : Request → Option String
  | .setVersion version => some version
  | _ => none

/-- What a sequence of requests leaves. -/
def leftBy (catalog : Catalog) (requests : List Request) : Catalog :=
  requests.foldl (fun catalog request => (catalog.serve request).2) catalog

theorem engine_serve (catalog : Catalog) (request : Request) :
    (catalog.serve request).2.engine =
      { version := request.version?.getD catalog.engine.version
        threads := request.count?.getD catalog.engine.threads } := by
  cases request with
  | call name =>
      rw [serve]
      split <;> rfl
  | setThreads _ | setVersion _ | define => rfl

theorem defined_serve (catalog : Catalog) (request : Request) :
    (catalog.serve request).2.defined =
      if request = .define then queries else catalog.defined := by
  cases request with
  | call name =>
      rw [serve]
      split <;> rfl
  | setThreads _ | setVersion _ | define => rfl

/-- What was set last stands, and what was never set is as it was. -/
theorem engine_leftBy (catalog : Catalog) (requests : List Request) :
    (catalog.leftBy requests).engine =
      { version := (requests.filterMap Request.version?).getLast?.getD catalog.engine.version
        threads := (requests.filterMap Request.count?).getLast?.getD catalog.engine.threads } := by
  induction requests generalizing catalog with
  | nil => rfl
  | cons request rest ih =>
      have later : (catalog.leftBy (request :: rest)).engine =
          ((catalog.serve request).2.leftBy rest).engine := rfl
      rw [later, ih, engine_serve]
      cases request <;>
        simp [Request.version?, Request.count?, List.getLast?_cons]

/-- Commands that have been defined stay defined. -/
theorem defined_leftBy {catalog : Catalog} {requests : List Request}
    (defined : catalog.defined = queries ∨ .define ∈ requests) :
    (catalog.leftBy requests).defined = queries := by
  induction requests generalizing catalog with
  | nil => exact defined.resolve_right List.not_mem_nil
  | cons request rest ih =>
      refine ih (?_ : (catalog.serve request).2.defined = queries ∨ _)
      rw [defined_serve]
      rcases defined with already | member
      · exact .inl (by rw [already, ite_self])
      · rcases List.mem_cons.mp member with now | later
        · exact .inl (if_pos now.symm)
        · exact .inr later

theorem serve_call_of_defined {catalog : Catalog} (defined : catalog.defined = queries)
    (query : Query) :
    catalog.serve (.call query.name) = ((catalog.engine.answer query).map .text, catalog) := by
  have found : catalog.defined.find? (·.name == query.name) = some query := by
    rw [defined]
    cases query <;> decide
  rw [serve]
  simp only [found]

end Catalog

end CommandShell.Engine
