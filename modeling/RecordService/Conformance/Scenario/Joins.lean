import RecordService.Conformance.Subject

namespace RecordService.Conformance

/-!
# Scenario: joins

Inner and outer joins, filters and columns of linked records, nested joins, links that are given
as they are, and joins that do not make sense.
-/

variable {σ : Type}

/-- The draft for contacts with a join. -/
def contactsJoined (join : JoinInput) : QueryDraft :=
  { QueryDraft.ofEntity "contact" with joins := [join] }

/-- The pair of a contact and its account. -/
def accountPair : String × Json :=
  ("contact.parentcustomerid", .string "account.accountid")

/-- The query of a draft about contacts and accounts. -/
def joinedQuery (s : Subject σ) (d : QueryDraft) : Call σ Query :=
  d.ask s.service ["contact", "account"]

/-- The rows of a draft in the order of their full names. -/
def joinedRows (s : Subject σ) (d : QueryDraft) : Call σ (List (Dict Json)) := do
  let q ← joinedQuery s d
  let rows ← Reading.rows { Reading.ofQuery q with columns := ["fullname"] } s.service
  let name (row : Dict Json) : String := ((row.get? "fullname").bind Json.text?).getD ""
  return rows.mergeSort fun a b => !(name b < name a)

/-- Joins on accounts with a filter, written from either side. -/
def filteredJoins : List Json :=
  [.object [accountPair, ("filter", has "name" "Acme")],
   .object
     [("account.accountid", .string "contact.parentcustomerid"), ("type", .string "Inner"),
      ("filter", has "name" "Acme")]]

/-- An outer join on accounts. -/
def outerJoin : Json :=
  .object [accountPair, ("type", .string "left outer"), ("alias", .string "a")]

/-- A join with columns and a nested join. -/
def nestedJoin : Json :=
  .object
    [accountPair, ("alias", .string "a"), ("columns", textList ["name"]),
     ("links",
       .array
         [textMap
           [("a.primarycontactid", "contact.contactid"), ("alias", "pc"),
            ("columns", "fullname")]])]

/-- A link between two entities that puts out some columns. -/
def linkOf (source target : String × String) (label : Option String) (columns : List String) :
    Link :=
  ⟨source.1, source.2, target.1, target.2, .inner, label, .always, [], columns⟩

/-- Joins that do not make sense. -/
def brokenJoins : List Json :=
  [has "alias" "a", has "lead.parentcontactid" "account.accountid",
   .object [accountPair, ("type", .string "sideways")],
   has "contact.parentcustomerid" "accountid"]

/-- Whether a cause is that of a join without sense. -/
def isJoinCause : Cause → Bool
  | .ambiguousJoin _ => true
  | .invalidJoin _ => true
  | _ => false

/-- The accounts and contacts of the scenario. -/
def seedJoins (s : Subject σ) : Call σ Unit := do
  let accounts ← seed s.service [account "Acme", account "Globex"]
  let acme ← present accounts[0]?
  let globex ← present accounts[1]?
  let belonging (r : Record) (id : Uuid) : Record := r.set "parentcustomerid" (parent id)
  let contacts ← seed s.service
    [belonging (contact "Rob" "One") acme, belonging (contact "Joe" "One") acme,
     belonging (contact "Rob" "Two") globex, contact "Ann" "Solo"]
  let primary := referenceTo "contact" (← present contacts[0]?)
  let changed := ((account "Acme").withId acme).set "primarycontactid" primary
  let _ ← s.service.execute ⟨.update, changed⟩

/-- Joins that are given in loose data. -/
def looseJoins (s : Subject σ) : Call σ Unit := do
  for join in filteredJoins do
    expectNames s (contactsJoined (.loose join)) ["Joe One", "Rob One"]
  let outer := contactsJoined (.loose outerJoin)
  expectNames s { outer with filter := some (only "a.accountid" .null) } ["Ann Solo"]
  expectNames s outer ["Ann Solo", "Joe One", "Rob One", "Rob Two"]
  let rows ← joinedRows s (contactsJoined (.loose nestedJoin))
  expect (rows.length == 2)
  for row in rows do
    expectCell row "a.name" (.string "Acme")
    expectCell row "pc.fullname" (.string "Rob One")
    expectCell row "TableName" (.string "contact")
  expectCell (← present rows[0]?) "fullname" (.string "Joe One")

/-- Joins that are given as links. -/
def nativeJoins (s : Subject σ) : Call σ Unit := do
  let link := linkOf ("contact", "parentcustomerid") ("account", "accountid") (some "a") ["name"]
  let rows ← joinedRows s (contactsJoined (.native link))
  expect ((← rows.mapM (textIn "a.name")) == ["Acme", "Acme", "Globex"])

/-- The scenario of joins. -/
def joins : Scenario σ := fun s => do
  s.reset
  seedJoins s
  looseJoins s
  nativeJoins s
  for join in brokenJoins do
    expectFailure isJoinCause (joinedQuery s (contactsJoined (.loose join)))
  let twoPairs : Json :=
    .object [accountPair, ("contact.contactid", .string "account.primarycontactid")]
  expectFailure (fun | .ambiguousJoin _ => true | _ => false)
    (joinedQuery s (contactsJoined (.loose twoPairs)))
  let elsewhere := linkOf ("account", "primarycontactid") ("contact", "contactid") none []
  expectFailure (fun | .invalidJoin _ => true | _ => false)
    (joinedQuery s (contactsJoined (.native elsewhere)))

end RecordService.Conformance
