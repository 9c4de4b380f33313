import RecordService.Conformance.Subject

namespace RecordService.Conformance

/-!
# Scenario: writing

Batches and parallel workers; creates, updates and upserts; existing records that are matched;
inputs that fail alone; options that contradict each other.
-/

variable {σ : Type}

/-- The usual options. -/
def standard : WriteOptions := .standard

/-- Write inputs for contacts. -/
def writeContacts (s : Subject σ) (o : WriteOptions) (inputs : List Input) :
    Call σ (List ItemOutcome) :=
  write s.service "contact" o inputs

/-- The text of an attribute of a stored contact, which has to be a text. -/
def storedText (s : Subject σ) (id : Uuid) (name : String) : Call σ (Option String) := do
  Call.ofAnswer ((← stored s.service id).read (Option String) name)

/-- The text of an attribute that has to be a text. -/
def textOf (r : Record) (name : String) : Call σ (Option String) :=
  Call.ofAnswer (r.read (Option String) name)

/-- The identity of a record that no service knows. -/
def freshId : Uuid :=
  ⟨0xf0000000_0000_4000_8000_000000000000, by decide⟩

/-- Inputs for so many contacts, numbered with two digits. -/
def numbered (first : String) (n : Nat) : List Input :=
  (List.range n).map fun i =>
    contactInput first ("Contact " ++ (if i < 10 then "0" else "") ++ toString i)

/-- An input with the identity of a record. -/
def inputFor (id : Uuid) (members : List (String × String)) : Input :=
  looseInput (("Id", .string id.toText) :: members.map fun (name, s) => (name, .string s))

/-! ### Batches -/

/-- Batches of one worker, and of several. -/
def batches (s : Subject σ) : Call σ Unit := do
  let (single, multiple) ← s.writeCalls
  let os ← writeContacts s { standard with batchSize := 10 } (numbered "Bulk" 25)
  expect (os.length == 25)
  expect (os.all succeeded)
  expect (os.all created)
  expect (os.all fun o => o.operation == some .create && o.attempts == 1)
  expect ((os.filterMap writtenId?).eraseDups.length == 25)
  expect ((os.map (·.token)).eraseDups.length == 25)
  expect (os.map (·.index) == List.range 25)
  expect ((← s.writeCalls) == (single, multiple + 3))
  let parallel := { standard with batchSize := 3, parallelism := 4 }
  let os ← writeContacts s parallel (numbered "Parallel" 20)
  expect (os.length == 20)
  expect (os.all succeeded)

/-! ### Updates -/

/-- The contacts to update. -/
def describedContacts : List Record :=
  [(contact "Rob" "One").set "description" (.text (some "First")),
   (contact "Joe" "One").set "description" (.text (some "Second"))]

/-- An update that leaves a column alone. -/
def partialUpdate (s : Subject σ) (rob : Uuid) : Call σ Unit := do
  let os ← writeContacts s { standard with createOnlyNames := ["description"] }
    [inputFor rob [("firstname", "Robert"), ("description", "Ignored")]]
  expect (os.length == 1)
  let o ← outcomeAt os 0
  expect (o.operation == some .update)
  expect (writtenId? o == some rob)
  expect (!created o)
  let r ← stored s.service rob
  expect ((← textOf r "firstname") == some "Robert")
  expect ((← textOf r "description") == some "First")

/-- An update that clears the columns that the input does not have. -/
def fullUpdate (s : Subject σ) (joe : Uuid) : Call σ Unit := do
  let os ← writeContacts s
    { standard with updateAllColumns := true, ignored := ["fullname"] }
    [looseInput [("contactid", .string joe.toText), ("firstname", .string "Joseph")]]
  expect (succeeded (← outcomeAt os 0))
  let r ← stored s.service joe
  expect ((← textOf r "firstname") == some "Joseph")
  expect ((← textOf r "lastname") == none)
  expect ((← textOf r "description") == none)
  expect ((← textOf r "fullname") == some "Joe One")

/-- The written input is put out with its identity. -/
def passThrough (s : Subject σ) : Call σ Unit := do
  let os ← writeContacts s { standard with passThrough := true } [contactInput "Ann" "Solo"]
  match (← outcomeAt os 0).outcome with
  | .succeeded id _ (some output) =>
    expectCell output "firstname" (.string "Ann")
    expectCell output "Id" (.string id.toText)
    expectCell output "TableName" (.string "contact")
  | _ => throw .breach

/-- Upserts of a record that exists and of new ones. -/
def upserts (s : Subject σ) (rob : Uuid) : Call σ Unit := do
  let os ← writeContacts s { standard with upsert := true }
    [inputFor rob [("lastname", "Uno")], inputFor freshId [("lastname", "Fresh")],
     looseInput [("lastname", .string "Anonymous")]]
  expect (os.all succeeded)
  expect (os.all fun o => o.operation == some .upsert)
  expect (os.map created == [false, true, true])
  expect (writtenId? (← outcomeAt os 1) == some freshId)
  expect ((← storedText s rob "lastname") == some "Uno")

/-! ### Matching -/

/-- The options that match contacts by their names. -/
def byNames : WriteOptions :=
  { standard with matchOn := [["firstname", "lastname"]] }

/-- Sets of attributes are tried one after the other. -/
def matchedUpdate (s : Subject σ) (rob : Uuid) : Call σ Unit := do
  let os ← writeContacts s
    { standard with matchOn := [["emailaddress1"], ["firstname", "lastname"]] }
    [looseInput
      [("firstname", .string "Robert"), ("lastname", .string "Uno"),
       ("description", .string "Matched")],
     contactInput "New" "Person"]
  let o ← outcomeAt os 0
  expect (o.operation == some .update)
  expect (writtenId? o == some rob)
  let o ← outcomeAt os 1
  expect (o.operation == some .create)
  expect (succeeded o)
  expect ((← storedText s rob "description") == some "Matched")

/-- An outcome failed with some words. -/
def expectWords (o : ItemOutcome) (words : String) : Call σ Unit := do
  expect (containsText (← present o.outcome.failure?).message words)

/-- Operations that are not allowed fail their input alone. -/
def disabled (s : Subject σ) (rob : Uuid) : Call σ Unit := do
  let os ← writeContacts s { byNames with noCreate := true }
    [contactInput "Nobody" "Known", contactInput "New" "Person"]
  expect (os.length == 2)
  let o ← outcomeAt os 0
  expect (!succeeded o)
  expect (o.operation == none)
  expectWords o "creation is disabled"
  expect (succeeded (← outcomeAt os 1))
  let os ← writeContacts s { standard with noUpdate := true }
    [inputFor rob [("lastname", "Never")]]
  let o ← outcomeAt os 0
  expect (!succeeded o)
  expectWords o "updates are disabled"
  expect ((← storedText s rob "lastname") == some "Uno")

/-! ### Failures -/

/-- Inputs that fail do not keep others from being written. -/
def mixed (s : Subject σ) (rob : Uuid) : Call σ Unit := do
  let os ← Call.silently <| writeContacts s { standard with batchSize := 2 }
    [contactInput "Good" "First",
     looseInput [("firstname", .string "Bad"), ("shoesize", .int 42)],
     contactInput "Good" "Second", inputFor rob [("firstname", "Twin")]]
  expect (os.length == 4)
  expect (succeeded (← outcomeAt os 0))
  let o ← outcomeAt os 1
  expect ((causeOf o).any fun | .unknownAttribute .. => true | _ => false)
  expect (o.index == 1)
  expect (succeeded (← outcomeAt os 2))
  expect (succeeded (← outcomeAt os 3))
  let os ← writeContacts s { standard with createOnly := true }
    [inputFor rob [("firstname", "Twin")]]
  let o ← outcomeAt os 0
  expect ((causeOf o).any isFinalFault)
  expect (o.attempts == 1)

/-- Options that contradict each other. -/
def invalidOptions : List WriteOptions :=
  [{ standard with batchSize := 0 }, { standard with parallelism := 0 },
   { standard with upsert := true, matchOn := [["lastname"]] },
   { standard with noCreate := true, noUpdate := true },
   { standard with allowMultipleMatches := true }]

/-- Runs that cannot start. -/
def refusals (s : Subject σ) : Call σ Unit := do
  for o in invalidOptions do
    expectFailure (fun | .invalidOptions _ => true | _ => false)
      (pipelineFor s.service "contact" o)
  expectFailure (fun | .remoteFault .. => true | _ => false)
    (pipelineFor s.service "lead" standard)

/-- The scenario of writing. -/
def writing : Scenario σ := fun s => do
  s.reset
  batches s
  s.reset
  let ids ← seed s.service describedContacts
  let rob ← present ids[0]?
  partialUpdate s rob
  fullUpdate s (← present ids[1]?)
  passThrough s
  upserts s rob
  matchedUpdate s rob
  disabled s rob
  mixed s rob
  refusals s

end RecordService.Conformance
