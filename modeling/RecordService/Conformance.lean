import RecordService.Conformance.Recording
import RecordService.Conformance.Scenario.Cancellation
import RecordService.Conformance.Scenario.Columns
import RecordService.Conformance.Scenario.Joins
import RecordService.Conformance.Scenario.Matching
import RecordService.Conformance.Scenario.Queries
import RecordService.Conformance.Scenario.Reading

namespace RecordService.Conformance

/-!
# Conformance of services

A service conforms if it stands up to all scenarios.

* `scenarios`: the scenarios in order.
* `Recording.examine`: what a recorded service does in them.
-/

/-- The scenarios in order. -/
def scenarios {σ : Type} : List (Scenario σ) :=
  [queries, joins, columns, reading, matching, writing, retry, cancellation]

/-- Run the scenarios one after the other. -/
def runAll {σ : Type} (s : Subject σ) : Call σ Unit :=
  scenarios.forM fun scenario => scenario s

/-- The verdict on a service. -/
structure Verdict where
  passed : Bool
  trace : List String
  journal : List JournalLine

/-- What a store with some entities and defects does in the scenarios. -/
def examine (entities : List Entity) (defects : List Defect) : Verdict :=
  let (result, w) := (runAll Recording.subject).runOn ⟨.ofEntities entities defects, []⟩
  let passed :=
    match result with
    | .ok () => true
    | .error _ => false
  ⟨passed, w.state.trace, w.journal⟩

end RecordService.Conformance
