import RecordService.Conformance.Subject
import RecordService.Matching

namespace RecordService.Conformance

/-!
# Scenario: matching

Inputs that agree with one record, with several and with none; nulls; attributes that the input
or the entity does not have.
-/

variable {σ : Type}

/-- The contacts of the scenario. -/
def matchContacts : List Record :=
  [contact "Rob" "One", contact "Joe" "One", contact "Rob" "Two",
   ofTexts "contact" [("lastname", "Nobody")]]

/-- The identities of records. -/
def idsOf (rs : List Record) : List Uuid :=
  rs.filterMap (·.id)

/-- The names by which contacts are matched. -/
def nameAttributes : List String :=
  ["firstname", "lastname"]

/-- The match of a single record. -/
def singleMatch (s : Subject σ) (e : Entity) (rob : Uuid) : Call σ Unit := do
  let found ← (contactInput "rob" "one").matchesOn s.service e nameAttributes false
  expect (idsOf found == [rob])
  let r ← present found[0]?
  expect (r.get? "firstname" == some (.text (some "Rob")))
  expect (r.get? "lastname" == some (.text (some "One")))

/-- The match of a record without first name. -/
def nullMatch (s : Subject σ) (e : Entity) (nobody : Uuid) : Call σ Unit := do
  let i := looseInput [("firstname", .null), ("lastname", .string "Nobody")]
  expect (idsOf (← i.matchesOn s.service e nameAttributes false) == [nobody])

/-- Matches of several records. -/
def severalMatches (s : Subject σ) (e : Entity) (rob joe : Uuid) : Call σ Unit := do
  let i := looseInput [("lastname", .string "One")]
  expectFailure (fun | .multipleMatches _ n => n == 2 | _ => false)
    (i.matchesOn s.service e ["lastname"] false)
  let found ← i.matchesOn s.service e ["lastname"] true
  expect (found.length == 2)
  let sorted (ids : List Uuid) : List Nat := (ids.map (·.value)).mergeSort
  expect (sorted (idsOf found) == sorted [rob, joe])

/-- Matches of no record. -/
def noMatch (s : Subject σ) (e : Entity) : Call σ Unit := do
  let i := looseInput [("lastname", .string "Two")]
  expect (← i.matchesOn s.service e ["emailaddress1"] false).isEmpty
  let i := contactInput "Ann" "Solo"
  expect (← i.matchesOn s.service e nameAttributes false).isEmpty

/-- The scenario of matching. -/
def matching : Scenario σ := fun s => do
  s.reset
  let ids ← seed s.service matchContacts
  let e ← s.service.metadata "contact"
  let rob ← present ids[0]?
  singleMatch s e rob
  severalMatches s e rob (← present ids[1]?)
  nullMatch s e (← present ids[3]?)
  noMatch s e
  expectFailure (fun | .unknownAttribute .. => true | _ => false)
    ((looseInput [("shoesize", .int 42)]).matchesOn s.service e ["shoesize"] false)

end RecordService.Conformance
