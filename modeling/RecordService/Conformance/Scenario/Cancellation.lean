import RecordService.Conformance.Scenario.Retry

namespace RecordService.Conformance

/-!
# Scenario: cancellation

A run that is cancelled reads no more and gives up the items that wait to be sent again.
-/

variable {σ : Type}

/-- Whether an outcome is that of a cancelled run. -/
def isCancelled (o : ItemOutcome) : Bool :=
  causeOf o == some .cancelled

/-- A run is cancelled after its first outcome. What comes in later is not read. -/
def stopReading (s : Subject σ) : Call σ Unit := do
  let p ← pipelineFor s.service "contact" { standard with batchSize := 1 }
  let ended ← p.write none [contactInput "Before" "Cancel"]
  expect (succeeded (← outcomeAt ended.sortedOutcomes 0))
  Call.note Pipeline.cancelLine

/-- A run is cancelled while an item waits to be sent again. -/
def stopWaiting (s : Subject σ) : Call σ Unit := do
  s.refuseRequests busy 100
  let p ← pipelineFor s.service "contact"
    { standard with batchSize := 1, retries := 5, initialDelay := 60000 }
  let ended ← Call.silently (p.write (some 100) [contactInput "Waiting" "Forever"])
  expect (ended.outcomes.length == 1)
  let o ← outcomeAt ended.outcomes 0
  expect (isCancelled o)
  expect (o.attempts == 1)

/-- The scenario of cancellation. -/
def cancellation : Scenario σ := fun s => do
  s.reset
  stopReading s
  s.reset
  stopWaiting s

end RecordService.Conformance
