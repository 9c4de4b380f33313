import RecordService.Filter.Criteria
import RecordService.Metadata
import RecordService.Record
import RecordService.Text.Wildcard
import RecordService.Value.Order

namespace RecordService

/-!
# Conditions on values

* `Record.valueOf`: the value of an attribute of a kept record. The identifying attribute has the
  identity of the record, an attribute that the record lacks is null.
* `Condition.holdsFor`: whether a value meets a condition. No comparison holds for a null.
-/

/-- The name of the identifying attribute of a record, as the metadata say or else the usual
one. -/
def Record.primaryId (r : Record) (e? : Option Entity) : String :=
  (e?.map (·.primaryId)).getD (Entity.defaultPrimaryId r.entity)

/-- The value of an attribute of a kept record. -/
def Record.valueOf (r : Record) (e? : Option Entity) (name : String) : Value :=
  if Text.eqIgnoreCase (r.primaryId e?) name then .uuid r.id
  else (r.get? name).getD .null

/-- The text that patterns are matched with: for a choice its label if it has one. -/
def Value.patternText? : Value → Option String
  | .text (some s) => some s
  | .choice (some c) => some (c.label.getD (intText c.code.toInt))
  | v => if v.isNull then none else some v.toText

/-- Whether a value fits a pattern. -/
def Value.fitsPattern (v pattern : Value) : Bool :=
  match v.patternText?, pattern.patternText? with
  | some s, some p => Text.like s p
  | _, _ => false

/-- Whether a value compares with another one as `p` wants it. -/
def Value.compares (p : Ordering → Bool) (v w : Value) : Bool :=
  (v.compare? w).any p

namespace Condition

/-- The operand of a condition on a single value. -/
def operand (c : Condition) : Value :=
  c.values.headD .null

/-- Whether a value that is no null meets a condition. -/
def holdsForNonNull (c : Condition) (v : Value) : Bool :=
  match c.operator with
  | .null => false
  | .notNull => true
  | .equal => v.looseEq c.operand
  | .notEqual => !v.looseEq c.operand
  | .like => v.fitsPattern c.operand
  | .notLike => !v.fitsPattern c.operand
  | .isIn => c.values.any v.looseEq
  | .notIn => !c.values.any v.looseEq
  | .greaterThan => v.compares Ordering.isGT c.operand
  | .greaterEqual => v.compares Ordering.isGE c.operand
  | .lessThan => v.compares Ordering.isLT c.operand
  | .lessEqual => v.compares Ordering.isLE c.operand

/-- Whether a value meets a condition. -/
def holdsFor (c : Condition) (v : Value) : Bool :=
  if v.isNull then c.operator == .null else c.holdsForNonNull v

end Condition

end RecordService
