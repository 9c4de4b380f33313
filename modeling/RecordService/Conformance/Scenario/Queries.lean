import RecordService.Conformance.Subject

namespace RecordService.Conformance

/-!
# Scenario: queries

Groups, negations, operators, exclusions, identities and names; order and limit; queries in XML;
filters that do not make sense.
-/

variable {σ : Type}

/-- The contacts of the scenario. -/
def queryContacts : List Record :=
  [contact "Rob" "One", contact "Joe" "One", contact "Rob" "Two",
   ofTexts "contact" [("lastname", "Nobody"), ("fullname", "Nobody")]]

/-- Filters with the names of the contacts that meet them. -/
def filterCases : List (Json × List String) :=
  let rob := has "firstname" "Rob"
  let joe := has "firstname" "Joe"
  let one := has "lastname" "One"
  let two := has "lastname" "Two"
  [(only "and" (.array [rob, one]), ["Rob One"]),
   (textMap [("firstname", "Rob"), ("lastname", "One")], ["Rob One"]),
   (only "or" (.array [joe, two]), ["Joe One", "Rob Two"]),
   (.array [joe, two], ["Joe One", "Rob Two"]),
   (only "not" rob, ["Joe One", "Nobody"]),
   (only "not" (.array [rob, one]), ["Joe One", "Nobody", "Rob Two"]),
   (only "xor" (.array [rob, one]), ["Joe One", "Rob Two"]),
   (only "not" (only "or" (.array [only "firstname" .null, two])), ["Joe One", "Rob One"]),
   (condition "lastname" "like" [("value", .string "o%")], ["Joe One", "Rob One"]),
   (only "firstname" (textList ["Joe", "Ann"]), ["Joe One"]),
   (condition "firstname" "not-in" [("values", textList ["Joe", "Ann"])],
     ["Rob One", "Rob Two"]),
   (only "firstname" .null, ["Nobody"])]

/-- Drafts with exclusions, identities and names, with the names that they select. -/
def selectionCases (robOne joeOne robTwo : Uuid) : List (QueryDraft × List String) :=
  let contacts := QueryDraft.ofEntity "contact"
  [({ contacts with excludeFilter := some (has "lastname" "One") }, ["Nobody", "Rob Two"]),
   ({ contactsWhere (has "firstname" "Rob") with excludeIds := [robTwo] }, ["Rob One"]),
   ({ contacts with ids := [robOne, joeOne] }, ["Joe One", "Rob One"]),
   ({ contacts with
      names := ["Rob Two", "Joe One"]
      excludeFilter := some (has "firstname" "Joe") }, ["Rob Two"])]

/-- A query with order and limit. -/
def orderedDraft : QueryDraft :=
  { contactsWhere (condition "firstname" "not-null" []) with
    columns := ["fullname"]
    orderBy := ["firstname-", "lastname"]
    top := some 2 }

/-- A query in XML. -/
def queryXml : String :=
  "<fetch top=\"5\"><entity name=\"contact\"><attribute name=\"fullname\" />" ++
  "<order attribute=\"fullname\" descending=\"true\" /><filter type=\"or\">" ++
  "<condition attribute=\"lastname\" operator=\"eq\" value=\"Two\" />" ++
  "<condition attribute=\"firstname\" operator=\"in\"><value>Joe</value></condition>" ++
  "</filter></entity></fetch>"

/-- The full names of the records that a query selects. -/
def readNames (service : Service σ) (q : Query) (pageSize : Nat) : Call σ (List String) := do
  let (records, failed) ← Call.ofState (q.readAll service pageSize)
  expect failed.isNone
  return records.map fun r =>
    match r.read String "fullname" with
    | .ok name => name
    | .error _ => ""

/-- Filters that do not make sense, with the causes of their failures. -/
def brokenFilters : List (Json × (Cause → Bool)) :=
  [(.object
      [("and", .array [has "firstname" "Rob"]), ("lastname", .string "One")],
     fun | .ambiguousFilter _ => true | _ => false),
   (only "xor"
      (.array [has "firstname" "Rob", has "firstname" "Joe", has "lastname" "One"]),
     fun | .unsupportedFilterShape _ => true | _ => false),
   (only "shoesize" (.int 42),
     fun | .unknownAttribute _ name => name == "shoesize" | _ => false),
   (has "numberofchildren" "many", fun | .typeMismatch .. => true | _ => false)]

/-- The scenario of queries. -/
def queries : Scenario σ := fun s => do
  s.reset
  let ids ← seed s.service queryContacts
  for (filter, names) in filterCases do
    expectNames s (contactsWhere filter) names
  for (draft, names) in selectionCases (← present ids[0]?) (← present ids[1]?) (← present ids[2]?)
      do
    expectNames s draft names
  let catalog ← Catalog.load s.service ["contact"]
  let q ← orderedDraft.toQuery catalog
  expect ((← readNames s.service q 1) == ["Rob One", "Rob Two"])
  let q ← Query.fromXml queryXml
  expect ((← readNames s.service q 50) == ["Rob Two", "Joe One"])
  for (filter, isExpected) in brokenFilters do
    expectFailure isExpected ((contactsWhere filter).toQuery (σ := σ) catalog)

end RecordService.Conformance
