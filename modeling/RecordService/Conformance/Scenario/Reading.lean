import RecordService.Conformance.Subject

namespace RecordService.Conformance

/-!
# Scenario: reading

All pages are read, a limit holds whatever the size of the pages, reading can end early, and
counting ignores the limit.
-/

variable {σ : Type}

/-- The draft for contacts in the order of their last names. -/
def byLastName : QueryDraft :=
  { QueryDraft.ofEntity "contact" with columns := ["lastname"], orderBy := ["lastname"] }

/-- The rows of a query in pages of two. -/
def rowsByTwo (s : Subject σ) (q : Query) : Call σ (List (Dict Json)) :=
  Reading.rows { Reading.ofQuery q with pageSize := 2 } s.service

/-- All pages of a query, and its first page alone. -/
def pages (s : Subject σ) (q : Query) : Call σ Unit := do
  let rows ← rowsByTwo s q
  expect ((← rows.mapM (textIn "lastname")) == ["Alpha", "Bravo", "Charlie", "Delta", "Echo"])
  expect (rows.all fun row => row.names.length == 3)
  let page ← s.service.query (q.atPage (.first 2))
  expect (page.records.length == 2)
  expect page.more
  expect page.cookie.isSome
  expect page.total.isNone

/-- The numbers of the records of queries. -/
def counts (s : Subject σ) (catalog : Catalog) (limited : Query) : Call σ Unit := do
  expect ((← limited.count s.service) == 5)
  let filter := condition "lastname" "ge" [("value", .string "C")]
  let draft := { contactsWhere filter with top := some 1 }
  let q := (← draft.toQuery catalog).countOnly
  expect q.top.isNone
  expect q.wantsTotal
  expect ((← s.service.query q).total == some 3)
  expect ((← (← draft.toQuery catalog).count s.service) == 3)

/-- The scenario of reading. -/
def reading : Scenario σ := fun s => do
  s.reset
  let _ ← seed s.service (["Delta", "Alpha", "Echo", "Charlie", "Bravo"].map (contact "Max"))
  let catalog ← Catalog.load s.service ["contact"]
  pages s (← byLastName.toQuery catalog)
  let limited ← { byLastName with top := some 3 }.toQuery catalog
  let rows ← rowsByTwo s limited
  expect ((← rows.mapM (textIn "lastname")) == ["Alpha", "Bravo", "Charlie"])
  let first ← present (← (Reading.ofQuery limited).firstRow? s.service)
  expectCell first "lastname" (.string "Alpha")
  counts s catalog limited

end RecordService.Conformance
