import RecordService.Query.Markup
import RecordService.Service
import RecordService.Text.Cut

namespace RecordService

/-!
# Reading page by page

A query is read by asking for one page after the other until the service has no more. Records
are visited as they come; the next page is asked for once all records of the last one have been
visited.

* `Query.visitAll`: visits the records that a query selects.
* `Query.readAll`: the records that a query selects.
* `Query.laterPages`: the records behind a first page.
-/

/-! ### Pages -/

/-- The page after a page, with what the service gave to find it. -/
def Page.next (p : Page) (cookie : Option String) : Page :=
  ⟨p.count, p.number + 1, cookie⟩

/-- Page numbers have 32 bits. -/
def Page.numberLimit : Nat := 2 ^ 32

/-- How many pages there can be from a page on. -/
def Page.remaining (p : Page) : Nat :=
  numberLimit - p.number

/-- A query for one of its pages. -/
def Query.atPage (q : Query) (p : Page) : Query :=
  { q with page := some p }

/-! ### Visits -/

/-- Where a visit of records stands. -/
inductive Visit (β : Type) where
  /-- It goes on, or it came to its end. -/
  | next (value : β)
  /-- Whoever visits has seen enough. -/
  | stopped (value : β)
  | failed (value : β) (failure : Failure)

variable {σ β : Type}

/-- What to do with each record. -/
abbrev Visitor (σ β : Type) := β → Record → StateM (World σ) (Visit β)

/-- Visit records one after the other. -/
def Visitor.visit (f : Visitor σ β) : List Record → β → StateM (World σ) (Visit β)
  | [], b => return .next b
  | r :: rs, b => do
    match ← f b r with
    | .next b => Visitor.visit f rs b
    | ended => return ended

namespace Query

/-- Ask for the records of a query. -/
def ask (service : Service σ) (q : Query) : Call σ QueryResult := do
  Call.note (debugLine ("Retrieving " ++ Text.cutLong q.toXml))
  service.query q

/-- Visit the records of at most so many pages. -/
def visitPages (service : Service σ) (f : Visitor σ β) (q : Query) :
    Nat → Page → β → StateM (World σ) (Visit β)
  | 0, _, b => return .failed b .breach
  | n + 1, page, b => do
    match ← (q.atPage page |>.ask service).run with
    | .error e => return .failed b e
    | .ok result =>
      match ← f.visit result.records b with
      | .next b =>
        if result.more then visitPages service f q n (page.next result.cookie) b
        else return .next b
      | ended => return ended

/-- Visit the first records of a query that has a limit. They are asked for at once. -/
def visitFirst (service : Service σ) (f : Visitor σ β) (q : Query) (limit : Nat) (b : β) :
    StateM (World σ) (Visit β) := do
  match ← ({ q with page := none }.ask service).run with
  | .error e => return .failed b e
  | .ok result => f.visit (result.records.take limit) b

/-- Visit the records that a query selects, in pages of a given size if the query does not say. -/
def visitAll (service : Service σ) (f : Visitor σ β) (q : Query) (pageSize : Nat) (b : β) :
    StateM (World σ) (Visit β) :=
  match q.top with
  | some limit => visitFirst service f q limit b
  | none =>
    let page := q.page.getD (.first pageSize)
    visitPages service f q page.remaining page b

/-! ### Reading -/

/-- The records that came, and how reading ended. -/
def collected : Visit (List Record) → List Record × Option Failure
  | .next rs => (rs.reverse, none)
  | .stopped rs => (rs.reverse, none)
  | .failed rs e => (rs.reverse, some e)

/-- The records that a query selects, up to a failure. -/
def readAll (service : Service σ) (q : Query) (pageSize : Nat) :
    StateM (World σ) (List Record × Option Failure) :=
  collected <$> visitAll service (fun rs r => pure (.next (r :: rs))) q pageSize []

/-- The records of at most so many pages that come after a page. -/
def laterPages (service : Service σ) (q : Query) : Nat → Page → QueryResult →
    Call σ (List Record)
  | 0, _, _ => throw .breach
  | n + 1, page, result =>
    if result.more then do
      let page := page.next result.cookie
      let result ← service.query (q.atPage page)
      return result.records ++ (← laterPages service q n page result)
    else return []

/-- The records of all pages after the first one of a query without pages. -/
def afterFirst (service : Service σ) (q : Query) (result : QueryResult) :
    Call σ (List Record) :=
  let page := Page.first defaultPageSize
  laterPages service q page.remaining page result

/-! ### Counting -/

/-- The number of records that a query selects, its limit and page aside. A service that does not
tell the number has its records counted. -/
def count (service : Service σ) (q : Query) : Call σ Nat := do
  let q := q.countOnly
  let result ← service.query q
  match result.total with
  | some total => return total
  | none =>
    let total := result.records.length + (← afterFirst service q result).length
    Call.note (debugLine ("Counted " ++ toString total ++ " " ++ q.entity ++ " records"))
    return total

end Query

end RecordService
