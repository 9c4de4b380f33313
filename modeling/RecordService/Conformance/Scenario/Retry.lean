import RecordService.Conformance.Scenario.Writing

namespace RecordService.Conformance

/-!
# Scenario: retry

Final faults are not tried again, transient ones are until they go away or the attempts are used
up; only the items that failed are sent again; a call that fails fails all its items.
-/

variable {σ : Type}

/-- The options of the scenario. -/
def retryOptions (batchSize retries : Nat) : WriteOptions :=
  { standard with batchSize, retries, initialDelay := 10, backoff := .exponential }

/-- The code of a service that has too much to do. -/
def busyCode : Int32 := -2147015902

/-- The fault of a service that has too much to do. -/
def busy : Fault :=
  ⟨busyCode, "Number of requests exceeded the limit"⟩

/-- Write inputs for contacts and leave nothing in the journal. -/
def writeSilently (s : Subject σ) (o : WriteOptions) (inputs : List Input) :
    Call σ (List ItemOutcome) :=
  Call.silently (writeContacts s o inputs)

/-- Whether an outcome is a failure that may go away or not. -/
def failedAs (retryable : Bool) (o : ItemOutcome) : Bool :=
  match o.outcome with
  | .failed _ r => r == retryable
  | .succeeded .. => false

/-- Faults of single requests. -/
def singleFaults (s : Subject σ) : Call σ Unit := do
  s.refuseRequests ⟨-2147220989, "Invalid argument"⟩ 1
  let os ← writeSilently s (retryOptions 1 3) [contactInput "Once" "Only"]
  expect (os.length == 1)
  let o ← outcomeAt os 0
  expect (o.attempts == 1)
  expect (faultCode? o == some (-2147220989))
  expect (failedAs false o)
  s.refuseRequests busy 2
  let os ← writeSilently s (retryOptions 1 3) [contactInput "Third" "Time"]
  let o ← outcomeAt os 0
  expect (succeeded o)
  expect (o.attempts == 3)
  s.refuseRequests busy 10
  let os ← writeSilently s (retryOptions 1 2) [contactInput "Never" "Lucky"]
  let o ← outcomeAt os 0
  expect (o.attempts == 3)
  expect (failedAs true o)
  expect (faultCode? o == some busyCode)
  expectWords o "Create of `contact`"
  expectWords o "Lucky"

/-- Inputs for three contacts of a first name. -/
def threeCalls (first : String) : List Input :=
  (List.range 3).map fun i => contactInput first ("Call " ++ toString i)

/-- Faults in batches. -/
def batchFaults (s : Subject σ) : Call σ Unit := do
  let (single, multiple) ← s.writeCalls
  s.refuseRequests busy 1
  let os ← writeSilently s (retryOptions 3 1)
    [contactInput "Retried" "First", contactInput "Passed" "Second",
     contactInput "Passed" "Third"]
  expect (os.all succeeded)
  expect (os.map (·.attempts) == [2, 1, 1])
  expect ((← s.writeCalls) == (single + 1, multiple + 1))

/-- Faults of whole calls. -/
def callFaults (s : Subject σ) : Call σ Unit := do
  s.refuseCalls busy 1
  let os ← writeSilently s (retryOptions 3 1) (threeCalls "Whole")
  expect (os.all succeeded)
  expect (os.all fun o => o.attempts == 2)
  s.refuseCalls ⟨-2147204784, "Access denied"⟩ 1
  let os ← writeSilently s (retryOptions 3 5) (threeCalls "Denied")
  expect (os.length == 3)
  expect (os.all fun o => o.attempts == 1 && faultCode? o == some (-2147204784))

/-- The scenario of retries. -/
def retry : Scenario σ := fun s => do
  s.reset
  singleFaults s
  s.reset
  batchFaults s
  callFaults s

end RecordService.Conformance
