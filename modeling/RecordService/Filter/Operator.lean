import RecordService.Failure
import RecordService.Text.LowerCase

namespace RecordService

/-!
# Condition operators

* `Operator.inverse`: the operator that holds where the first one does not, nulls aside.
* `Operator.ofText`: reads the long names and the short ones of the XML dialect.
-/

/-- How a condition compares an attribute. -/
inductive Operator where
  | equal
  | notEqual
  | like
  | notLike
  | isIn
  | notIn
  | null
  | notNull
  | greaterThan
  | greaterEqual
  | lessThan
  | lessEqual
  deriving DecidableEq, Repr

namespace Operator

/-- The operator that holds exactly where this one does not, for values that are not null. -/
def inverse : Operator → Operator
  | equal => notEqual
  | notEqual => equal
  | like => notLike
  | notLike => like
  | isIn => notIn
  | notIn => isIn
  | null => notNull
  | notNull => null
  | greaterThan => lessEqual
  | greaterEqual => lessThan
  | lessThan => greaterEqual
  | lessEqual => greaterThan

@[simp] theorem inverse_inverse (o : Operator) : o.inverse.inverse = o := by
  cases o <;> rfl

/-- Operators that test for null and take no value. -/
def isUnary (o : Operator) : Bool :=
  o == null || o == notNull

/-- Operators that take a list of values. -/
def isMembership (o : Operator) : Bool :=
  o == isIn || o == notIn

/-- The name of an operator. -/
def name : Operator → String
  | equal => "Equal"
  | notEqual => "NotEqual"
  | like => "Like"
  | notLike => "NotLike"
  | isIn => "In"
  | notIn => "NotIn"
  | null => "Null"
  | notNull => "NotNull"
  | greaterThan => "GreaterThan"
  | greaterEqual => "GreaterEqual"
  | lessThan => "LessThan"
  | lessEqual => "LessEqual"

/-- The name of an operator in the XML dialect. -/
def xmlName : Operator → String
  | equal => "eq"
  | notEqual => "ne"
  | like => "like"
  | notLike => "not-like"
  | isIn => "in"
  | notIn => "not-in"
  | null => "null"
  | notNull => "not-null"
  | greaterThan => "gt"
  | greaterEqual => "ge"
  | lessThan => "lt"
  | lessEqual => "le"

/-- The spellings that are read, in small letters and without separators. -/
def spellings : List (String × Operator) :=
  [("eq", equal), ("equal", equal), ("equals", equal),
   ("ne", notEqual), ("neq", notEqual), ("notequal", notEqual),
   ("like", like), ("notlike", notLike), ("in", isIn), ("notin", notIn),
   ("null", null), ("isnull", null), ("notnull", notNull), ("isnotnull", notNull),
   ("gt", greaterThan), ("greaterthan", greaterThan),
   ("ge", greaterEqual), ("greaterequal", greaterEqual), ("greaterthanorequal", greaterEqual),
   ("lt", lessThan), ("lessthan", lessThan),
   ("le", lessEqual), ("lessequal", lessEqual), ("lessthanorequal", lessEqual)]

/-- Characters that do not count in the name of an operator. -/
def isSeparator (c : Char) : Bool :=
  c == '-' || c == '_' || c == ' '

/-- Read the name of an operator, ignoring case and separators. -/
def ofText (s : String) : Answer Operator :=
  let spelling := String.ofList (Text.lowerChars (s.toList.filter (!isSeparator ·)))
  match spellings.lookup spelling with
  | some o => .ok o
  | none => fail (.unsupportedFilterShape ("unknown operator `" ++ s ++ "`"))

end Operator

end RecordService
