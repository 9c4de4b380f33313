import RecordService.Record

namespace RecordService

/-!
# Write requests

What a service is asked to write, and what it answers.

* `WriteRequest`: an operation on a record.
* `WriteResponse`: which record was written, and whether it is new.
* `transientCodes`: codes of faults that may go away by themselves.
-/

/-- What is done with a record. -/
inductive Operation where
  | create
  | update
  /-- Update the record, or create it where it is missing. -/
  | upsert
  deriving DecidableEq, Repr

/-- The name of an operation. -/
def Operation.name : Operation → String
  | create => "Create"
  | update => "Update"
  | upsert => "Upsert"

/-- A request to write a record. -/
structure WriteRequest where
  operation : Operation
  record : Record
  deriving DecidableEq, Repr

/-- Operation and record. -/
def WriteRequest.toText (r : WriteRequest) : String :=
  r.operation.name ++ " " ++ r.record.toText

/-- The answer to a request that was carried out. -/
structure WriteResponse where
  id : Uuid
  created : Bool
  deriving DecidableEq, Repr

/-- Codes of faults that may go away by themselves: too many requests, too much execution time,
too many requests at once, a record that is locked. -/
def transientCodes : List Int32 :=
  [-2147015902, -2147015903, -2147015898, -2147088254]

/-- The cause of a fault that answers a single request. -/
def Fault.toCause (f : Fault) : Cause :=
  .remoteFault f (transientCodes.contains f.code)

end RecordService
