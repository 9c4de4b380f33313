namespace RecordService

/-!
# Journal

What operations note for those who run them. Lines have a level; their order carries no meaning.
-/

/-- The weight of a line. -/
inductive JournalLevel where
  | error
  | warn
  | info
  | debug
  | trace
  deriving DecidableEq, Repr

/-- The name of a level. -/
def JournalLevel.name : JournalLevel → String
  | error => "ERROR"
  | warn => "WARN"
  | info => "INFO"
  | debug => "DEBUG"
  | trace => "TRACE"

/-- A line of the journal. -/
structure JournalLine where
  level : JournalLevel
  message : String
  deriving DecidableEq, Repr

/-- Level and message. -/
def JournalLine.toText (l : JournalLine) : String :=
  l.level.name ++ " " ++ l.message

/-- A line of the level for those who look for faults. -/
def debugLine (message : String) : JournalLine :=
  ⟨.debug, message⟩

/-- A warning. -/
def warnLine (message : String) : JournalLine :=
  ⟨.warn, message⟩

end RecordService
