import RecordService.Conformance.Subject
import RecordService.Exchange.Basic
import RecordService.Rehearsal

namespace RecordService.Conformance

/-!
# Recorded services

A store behind a service that writes down what is asked of it and what it answers, and that may
have defects.

* `Defect`: what may be wrong with a service.
* `Recording.subject`: the service under test.
* `Recording.trace`: what was written down, in a form that does not depend on the order in which
  workers act.
-/

/-- What may be wrong with a service. -/
inductive Defect where
  | noCriteria
  | noLinks
  | noOrders
  | noTop
  | noPaging
  | allColumns
  | noTotal
  | noCookie
  | noNames
  | noRetrieve
  | lostUpdates
  | alwaysCreated
  | reversed
  | short
  | noReset
  | noFaults
  | noCallFaults
  | noCounts
  deriving DecidableEq, Repr

/-- All defects with their names. -/
def Defect.names : List (Defect × String) :=
  [(noCriteria, "no_criteria"), (noLinks, "no_links"), (noOrders, "no_orders"),
   (noTop, "no_top"), (noPaging, "no_paging"), (allColumns, "all_columns"),
   (noTotal, "no_total"), (noCookie, "no_cookie"), (noNames, "no_names"),
   (noRetrieve, "no_retrieve"), (lostUpdates, "lost_updates"),
   (alwaysCreated, "always_created"), (reversed, "reversed"), (short, "short"),
   (noReset, "no_reset"), (noFaults, "no_faults"), (noCallFaults, "no_call_faults"),
   (noCounts, "no_counts")]

/-- The defect of a name. -/
def Defect.ofName? (name : String) : Option Defect :=
  (names.find? (·.2 == name)).map Prod.fst

/-- A store with what was written down about its service. -/
structure Recording where
  rehearsal : Rehearsal
  defects : List Defect
  /-- The lines, latest first. -/
  lines : List String

namespace Recording

/-- A recording on some entities. -/
def ofEntities (entities : List Entity) (defects : List Defect) : Recording :=
  ⟨.ofEntities entities, defects, []⟩

/-- A call of the rehearsed store. -/
def inside {α : Type} (c : Call Rehearsal α) : Call Recording α :=
  c.focus (·.rehearsal) fun rehearsal r => { r with rehearsal }

/-- Write down a line. -/
def write (line : String) : Call Recording Unit :=
  Call.change fun r => { r with lines := line :: r.lines }

/-- Whether the service has a defect. -/
def has (d : Defect) : Call Recording Bool := do
  return (← Call.state).defects.contains d

/-- A change of a value that depends on a defect. -/
def damaged {α : Type} (defects : List Defect) (d : Defect) (f : α → α) (a : α) : α :=
  if defects.contains d then f a else a

/-! ### Texts -/

/-- A truth value. -/
def boolText (b : Bool) : String :=
  if b then "true" else "false"

/-- A failure. -/
def failureText (e : Failure) : String :=
  (Exchange.failure e).toText

/-- A number that may be missing. -/
def totalText : Option Nat → String
  | some n => "Some(" ++ toString n ++ ")"
  | none => "None"

/-- A set of columns. -/
def columnsText : ColumnSet → String
  | .all => "null"
  | .only names => (Json.array (names.map .string)).toText

/-! ### Reading -/

/-- The description of an entity. -/
def metadata (name : String) : Call Recording Entity := do
  let e ← (inside (Rehearsal.service.metadata name)).attempt
  let found :=
    match e with
    | .ok _ => true
    | .error _ => false
  write ("metadata " ++ name ++ " " ++ boolText found)
  Call.ofAnswer e

/-- A query as the service takes it. -/
def damagedQuery (ds : List Defect) (q : Query) : Query :=
  let q := damaged ds .noCriteria (fun q => { q with criteria := .always }) q
  let q := damaged ds .noLinks (fun q => { q with links := [] }) q
  let q := damaged ds .noOrders (fun q => { q with orders := [] }) q
  let q := damaged ds .noTop (fun q => { q with top := none }) q
  let q := damaged ds .noPaging (fun q => { q with page := none }) q
  damaged ds .allColumns (fun q => { q with columns := .all }) q

/-- The result of a query as the service gives it. -/
def damagedResult (ds : List Defect) (r : QueryResult) : QueryResult :=
  let r := damaged ds .noTotal (fun r => { r with total := none }) r
  let r := damaged ds .noCookie (fun r => { r with cookie := none }) r
  damaged ds .noNames (fun r => { r with records := r.records.map (·.erase "fullname") }) r

/-- One page of the records that a query selects. -/
def query (q : Query) : Call Recording QueryResult := do
  let ds := (← Call.state).defects
  let result ← (inside (Rehearsal.service.query (damagedQuery ds q))).attempt
  let result := result.map (damagedResult ds)
  let answer :=
    match result with
    | .ok r =>
      toString r.records.length ++ " " ++ totalText r.total ++ " " ++ boolText r.more
    | .error e => failureText e
  write ("query " ++ q.toXml ++ " -> " ++ answer)
  Call.ofAnswer result

/-- Some attributes of a record, if it exists. -/
def retrieve (entity : String) (id : Uuid) (columns : ColumnSet) :
    Call Recording (Option Record) := do
  let r ← (inside (Rehearsal.service.retrieve entity id columns)).attempt
  let missing ← has .noRetrieve
  let r := r.map fun r => if missing then none else r
  let answer :=
    match r with
    | .ok r => boolText r.isSome
    | .error e => failureText e
  write <|
    "retrieve " ++ entity ++ " " ++ id.toText ++ " " ++ columnsText columns ++ " -> " ++ answer
  Call.ofAnswer r

/-! ### Writing -/

/-- A request as the service takes it. -/
def damagedRequest (ds : List Defect) (request : WriteRequest) : WriteRequest :=
  if request.operation == .update then
    damaged ds .lostUpdates
      (fun request => { request with record := { request.record with attributes := .empty } })
      request
  else request

/-- A response as the service gives it. -/
def damagedResponse (ds : List Defect) (r : WriteResponse) : WriteResponse :=
  damaged ds .alwaysCreated (fun r => { r with created := true }) r

/-- The results of a batch as the service gives them. -/
def damagedResults (ds : List Defect) (rs : List (Except Fault WriteResponse)) :
    List (Except Fault WriteResponse) :=
  let rs := rs.map (Except.map (damagedResponse ds))
  let rs := damaged ds .reversed List.reverse rs
  damaged ds .short (fun rs => if rs.length > 3 then rs.dropLast else rs) rs

/-- The text of a result. -/
def resultText : Except Fault WriteResponse → String
  | .ok r => boolText r.created
  | .error f => f.toText

/-- Texts one after the other. -/
def listText (ss : List String) : String :=
  "; ".intercalate ss

/-- Carry out a batch of requests. -/
def executeAll (requests : List WriteRequest) :
    Call Recording (List (Except Fault WriteResponse)) := do
  let ds := (← Call.state).defects
  let results ←
    (inside (Rehearsal.service.executeAll (requests.map (damagedRequest ds)))).attempt
  let answer :=
    match results with
    | .ok rs => listText (rs.map resultText)
    | .error e => failureText e
  write <|
    "execute_multiple " ++ listText (requests.map WriteRequest.toText) ++ " -> " ++ answer
  return damagedResults ds (← Call.ofAnswer results)

/-- Carry out a single request. -/
def execute (request : WriteRequest) : Call Recording WriteResponse := do
  let ds := (← Call.state).defects
  let response ← (inside (Rehearsal.service.execute (damagedRequest ds request))).attempt
  let answer :=
    match response with
    | .ok r => boolText r.created
    | .error e => failureText e
  write ("execute " ++ request.toText ++ " -> " ++ answer)
  return damagedResponse ds (← Call.ofAnswer response)

/-- The service. -/
def service : Service Recording where
  metadata := metadata
  query := query
  retrieve := retrieve
  executeAll := executeAll
  execute := execute

/-! ### The service under test -/

/-- Change the store. -/
def changeStore (f : Store → Store) : Call Recording Unit :=
  inside (Call.change fun r => { r with store := f r.store })

/-- Change the store unless the service has a defect. -/
def changeUnless (d : Defect) (f : Store → Store) : Call Recording Unit := do
  if ← has d then return () else changeStore f

/-- Refuse what comes next, unless the service has a defect. -/
def refuse (name : String) (d : Defect) (f : Store → Fault → Nat → Store) (fault : Fault)
    (count : Nat) : Call Recording Unit := do
  write (name ++ " " ++ fault.toText ++ " " ++ toString count)
  changeUnless d fun store => f store fault count

/-- The calls with a single request and with a batch. -/
def writeCalls : Call Recording (Nat × Nat) := do
  let calls := (← Call.state).rehearsal.store.calls
  let counted := if ← has .noCounts then (0, 0) else (calls.singles, calls.batches)
  write ("write_calls (" ++ toString counted.1 ++ ", " ++ toString counted.2 ++ ")")
  return counted

/-- The service under test. -/
def subject : Subject Recording where
  service := service
  reset := do
    write "reset"
    changeUnless .noReset Store.reset
  refuseRequests := refuse "faults" .noFaults Store.refuseRequests
  refuseCalls := refuse "call_faults" .noCallFaults Store.refuseCalls
  writeCalls := writeCalls

/-! ### Traces -/

/-- The identities that are numbered begin with this. -/
def numberedStart : List Char :=
  "00000000-0000-4000-a000-".toList

/-- Whether a character is a hexadecimal digit. -/
def isHexDigit (c : Char) : Bool :=
  c.isDigit || ('a' ≤ c && c ≤ 'f') || ('A' ≤ c && c ≤ 'F')

/-- Whether characters begin with a written identity. -/
def beginsWithId : List Char → Bool := fun cs =>
  let groups := (cs.take 36).splitOn '-'
  groups.map List.length == Uuid.groupSizes && groups.all fun g => g.all isHexDigit

/-- Replace the identities that are not numbered. The first argument counts the characters of an
identity that are still to be skipped. -/
def replaceIds : Nat → List Char → List Char
  | _, [] => []
  | n + 1, _ :: cs => replaceIds n cs
  | 0, c :: cs =>
    if beginsWithId (c :: cs) && !numberedStart.isPrefixOf (c :: cs) then
      "fresh".toList ++ replaceIds 35 cs
    else c :: replaceIds 0 cs

/-- Whether a line is about a call to write, whose place among others is left to chance. -/
def isExecution (line : String) : Bool :=
  "execute".isPrefixOf line

/-- Sort the runs of lines about calls to write. The first argument has the run so far. -/
def sortExecutions : List String → List String → List String
  | run, [] => sortTexts run
  | run, line :: lines =>
    if isExecution line then sortExecutions (line :: run) lines
    else sortTexts run ++ line :: sortExecutions [] lines

/-- What was written down. -/
def trace (r : Recording) : List String :=
  let lines := r.lines.reverse.map fun line => String.ofList (replaceIds 0 line.toList)
  sortExecutions [] lines

end Recording

end RecordService.Conformance
