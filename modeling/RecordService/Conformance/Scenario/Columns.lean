import RecordService.Conformance.Subject

namespace RecordService.Conformance

/-!
# Scenario: columns

The formats of columns, references by the names of their records, all columns of an entity, and
columns that do not make sense.
-/

variable {σ : Type}

/-- The contact of the scenario. -/
def formattedContact (account : Uuid) : Record :=
  { contact "Rob" "One" with
    attributes := (contact "Rob" "One").attributes.insertAll
      [("accountrolecode", role 1), ("parentcustomerid", parent account),
       ("creditlimit", .money (Decimal.ofText? "1234.50")), ("numberofchildren", .int32 (some 3)),
       ("birthdate", .date (Date.ofText? "1990-05-17")), ("donotemail", .boolean (some true)),
       ("description", .text (some "Met at the fair"))] }

/-- Columns in their formats. -/
def formattedColumns : List String :=
  ["accountrolecode:Raw", "accountrolecode:Display", "accountrolecode", "parentcustomerid",
   "parentcustomerid:Raw", "parentcustomerid:Display", "creditlimit", "creditlimit:Display",
   "numberofchildren", "birthdate", "donotemail:Display"]

/-- What the columns of the contact have to be. -/
def formattedCells (account id : Uuid) : List (String × Json) :=
  [("accountrolecode:Raw", .int 1), ("accountrolecode:Display", .string "Decision Maker"),
   ("accountrolecode", .int 1),
   ("parentcustomerid", textMap [("Id", account.toText), ("TableName", "account")]),
   ("parentcustomerid:Raw", .string account.toText),
   ("parentcustomerid:Display", .string "Acme"),
   ("creditlimit", ((Binary64.ofText? "1234.5").map .double).getD .null),
   ("creditlimit:Display", .string "1,234.50"), ("numberofchildren", .int 3),
   ("birthdate", .string "1990-05-17"), ("donotemail:Display", .string "Yes"),
   ("Id", .string id.toText), ("TableName", .string "contact")]

/-- The rows of a query with some columns. -/
def rowsWith (s : Subject σ) (q : Query) (columns : List String) (names : Bool) :
    Call σ (List (Dict Json)) :=
  Reading.rows { Reading.ofQuery q with columns, lookupsReturnName := names } s.service

/-- Columns that do not make sense, with the causes of their failures. -/
def brokenColumns : List (String × (Cause → Bool)) :=
  [("description:Display", fun | .unsupportedFormat .. => true | _ => false),
   ("shoesize", fun | .unknownAttribute .. => true | _ => false),
   ("fullname:Fancy", fun | .format _ => true | _ => false)]

/-- The names of the columns of contacts. -/
def columnNames : Call σ Unit := do
  let names := contactEntity.columnNames false ["description", "FULLNAME"]
  expect (sortTexts names == names)
  expect (names.contains "contactid")
  expect (!names.any (["description", "fullname", "createdon"].contains ·))
  expect ((contactEntity.columnNames true []).contains "createdon")

/-- Columns in their formats. -/
def formats (s : Subject σ) (q : Query) (account id : Uuid) : Call σ Unit := do
  let rows ← rowsWith s q formattedColumns false
  expect (rows.length == 1)
  let row ← present rows[0]?
  for (name, j) in formattedCells account id do
    expectCell row name j
  expect (row.names.take 3 == formattedColumns.take 3)

/-- The scenario of columns. -/
def columns : Scenario σ := fun s => do
  s.reset
  let account ← present (← seed s.service [account "Acme"])[0]?
  let ids ← seed s.service [formattedContact account]
  let catalog ← Catalog.load s.service ["contact"]
  let q ← { QueryDraft.ofEntity "contact" with ids }.toQuery catalog
  formats s q account (← present ids[0]?)
  let named ← present (← rowsWith s q ["parentcustomerid", "fullname"] true)[0]?
  expectCell named "parentcustomerid" (.string "Acme")
  expectCell named "fullname" (.string "Rob One")
  let whole ← present (← rowsWith s q [] false)[0]?
  expect (whole.contains "firstname")
  expect (whole.contains "description")
  expect (!whole.contains "createdon")
  columnNames
  for (column, isExpected) in brokenColumns do
    expectFailure isExpected (rowsWith s q [column] false)

end RecordService.Conformance
