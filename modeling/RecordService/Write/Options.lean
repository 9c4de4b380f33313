import RecordService.Column
import RecordService.Request

namespace RecordService

/-!
# Write options

How inputs are written: which operation they lead to, how they are sent, and what happens when
the service refuses them.

* `WriteOptions.validate`: whether options make sense together.
* `WriteOptions.retryDelay`: how long to wait before another attempt.
-/

/-- How waits between attempts grow. -/
inductive Backoff where
  /-- They stay the same. -/
  | fixed
  /-- They double. -/
  | exponential
  deriving DecidableEq, Repr

/-- How inputs are written. -/
structure WriteOptions where
  /-- How many requests are sent together. -/
  batchSize : Nat
  /-- How many batches are sent at the same time. -/
  parallelism : Nat
  /-- How often a request is sent again after a transient fault. -/
  retries : Nat
  /-- The first wait between attempts, in milliseconds. -/
  initialDelay : Nat
  backoff : Backoff
  /-- The codes of faults that may go away by themselves. -/
  transientCodes : List Int32
  /-- Names that are never written. -/
  ignored : List String
  /-- Names that are written to new records only. -/
  createOnlyNames : List String
  /-- Always create. -/
  createOnly : Bool
  /-- Never create. -/
  noCreate : Bool
  /-- Never update. -/
  noUpdate : Bool
  /-- Clear attributes that an input does not have. -/
  updateAllColumns : Bool
  /-- Leave it to the service whether to create or to update. -/
  upsert : Bool
  /-- Sets of attributes that tell existing records, the first that finds some counting. -/
  matchOn : List (List String)
  /-- Update all matching records. -/
  allowMultipleMatches : Bool
  /-- Put out the inputs that were written. -/
  passThrough : Bool
  deriving DecidableEq, Repr

namespace WriteOptions

/-- The usual options. -/
def standard : WriteOptions where
  batchSize := 100
  parallelism := 1
  retries := 0
  initialDelay := 5000
  backoff := .fixed
  transientCodes := RecordService.transientCodes
  ignored := []
  createOnlyNames := []
  createOnly := false
  noCreate := false
  noUpdate := false
  updateAllColumns := false
  upsert := false
  matchOn := []
  allowMultipleMatches := false
  passThrough := false

instance : Inhabited WriteOptions := ⟨standard⟩

/-! ### Validity -/

/-- What options must not be, in the order in which it is checked. -/
def rules : List ((WriteOptions → Bool) × String) :=
  [(fun o => o.batchSize == 0, "the batch size must be at least 1"),
   (fun o => o.parallelism == 0, "the degree of parallelism must be at least 1"),
   (fun o => o.createOnly && (o.noCreate || o.upsert || o.updateAllColumns),
     "create only cannot be combined with no create, upsert or update all columns"),
   (fun o => o.createOnly && !o.matchOn.isEmpty,
     "create only never matches existing records, remove match on"),
   (fun o => o.upsert && (o.noCreate || o.noUpdate),
     "upsert both creates and updates, it cannot be combined with no create or no update"),
   (fun o => o.upsert && !o.matchOn.isEmpty,
     "upsert identifies records by their identity, it cannot be combined with match on"),
   (fun o => o.noCreate && o.noUpdate,
     "no create and no update together leave nothing to do"),
   (fun o => o.allowMultipleMatches && o.matchOn.isEmpty,
     "allow multiple matches requires match on"),
   (fun o => o.matchOn.any List.isEmpty, "match on attribute sets cannot be empty")]

/-- Refuse options that contradict each other or mean nothing. -/
def validate (o : WriteOptions) : Answer Unit :=
  match rules.find? fun rule => rule.1 o with
  | some (_, message) => fail (.invalidOptions message)
  | none => .ok ()

/-! ### Attempts -/

/-- Whether a fault may go away by itself. -/
def isTransient (o : WriteOptions) (code : Int32) : Bool :=
  o.transientCodes.contains code

/-- The longest wait between two attempts, in milliseconds. -/
def longestDelay : Nat := 300000

/-- The longest duration there is, in whole milliseconds. Its seconds are a number of 64 bits. -/
def longestDuration : Nat := 2 ^ 64 * 1000 - 1

/-- The factor of a wait after so many doublings, as a number of 32 bits: a power of two, or the
largest such number where the power is too large. -/
def growth (doublings : Nat) : Nat :=
  if doublings < 32 then 2 ^ doublings else 2 ^ 32 - 1

/-- The wait after an attempt, in milliseconds. Attempts count from one. -/
def retryDelay (o : WriteOptions) (attempt : Nat) : Nat :=
  let delay :=
    match o.backoff with
    | .fixed => o.initialDelay
    | .exponential => min (o.initialDelay * growth (attempt - 1)) longestDuration
  min delay longestDelay

/-! ### Names -/

/-- Whether a name is never written. -/
def isIgnored (o : WriteOptions) (name : String) : Bool :=
  isNameIn o.ignored name

/-- Whether a name is written to new records only. -/
def isCreateOnly (o : WriteOptions) (name : String) : Bool :=
  isNameIn o.createOnlyNames name

end WriteOptions

end RecordService
