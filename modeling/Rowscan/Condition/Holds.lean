import Rowscan.Condition.Aliases
import Rowscan.Condition.Basic
import Rowscan.Failure
import Rowscan.Query.Answer

/-!
What a condition says about a row, as the script language decides it. A missing field equals
nothing, comparing it raises an error, and texts compare by their bytes. Junctions stop at the
first operand that settles them, so an error after it is not raised.
-/
namespace Rowscan.Condition

/-- The error of comparing two kinds of value (`compare_error`). -/
def comparisonFailure (left right : String) : Failure :=
  .server ("ERR Error running script: attempt to compare " ++ left ++ " with " ++ right)

/-- Raw expressions are text of the script language, which is not evaluated here
(`raw_unsupported`). -/
def rawFailure : Failure := .notSupported "raw Lua expressions cannot be evaluated in memory"

/-- Whether a comparison holds of an ordering (`holds`). Not a number compares with nothing. -/
def opHolds : CompareOp → Option Ordering → Bool
  | _, none => false
  | .greater, some ordering => ordering.isGT
  | .greaterOrEqual, some ordering => ordering.isGE
  | .less, some ordering => ordering.isLT
  | .lessOrEqual, some ordering => ordering.isLE

/-- Whether a field equals a value. Fields are texts, so they never equal a float. -/
def equalHolds (field : Option String) : Literal → Except Failure Bool
  | .raw _ => .error rawFailure
  | .null => .ok false
  | .float _ => .ok false
  | value => .ok (field == some value.text)

/-- Whether a field compares with a value as numbers. -/
def numericHolds (field : Option String) (op : CompareOp) (value : Literal) :
    Except Failure Bool :=
  match toNumber? value.text with
  | none => .error (comparisonFailure "number" "nil")
  | some right =>
    match field.bind toNumber? with
    | none => .error (comparisonFailure "nil" "number")
    | some left => .ok (opHolds op (left.compare? right))

/-- Whether a field compares with a value as texts. -/
def textHolds (field : Option String) (op : CompareOp) (value : Literal) :
    Except Failure Bool :=
  match field, value with
  | some left, .string right => .ok (opHolds op (some (Ord.compare left right)))
  | none, _ => .error (comparisonFailure "boolean" "string")
  | some _, _ => .error (comparisonFailure "string" "nil")

/-- Whether a field compares with a value. -/
def compareHolds (field : Option String) (op : CompareOp) (value : Literal) (numeric : Bool) :
    Except Failure Bool :=
  if value.isRaw then .error rawFailure
  else if numeric then numericHolds field op value
  else textHolds field op value

mutual

/-- Whether a condition holds of a row; `field` gives the value of each alias (`truthy`). -/
def holds (row : Row) (field : String → Option String) : Condition → Except Failure Bool
  | .empty => .ok true
  | .constant value => .ok value
  | .absent column => .ok (!row.contains column)
  | .equal label value => equalHolds (field label) value
  | .compare label op value numeric => compareHolds (field label) op value numeric
  | .negation condition => (holds row field condition).map (!·)
  | .conjunction conditions => allHold row field conditions
  | .disjunction conditions => anyHolds row field conditions
  | .raw _ => .error rawFailure
termination_by structural condition => condition

/-- Whether all conditions hold, from left to right up to the first that does not. -/
def allHold (row : Row) (field : String → Option String) : List Condition → Except Failure Bool
  | [] => .ok true
  | condition :: rest =>
    match holds row field condition with
    | .ok true => allHold row field rest
    | settled => settled
termination_by structural conditions => conditions

/-- Whether some condition holds, from left to right up to the first that does. -/
def anyHolds (row : Row) (field : String → Option String) : List Condition → Except Failure Bool
  | [] => .ok false
  | condition :: rest =>
    match holds row field condition with
    | .ok false => anyHolds row field rest
    | settled => settled
termination_by structural conditions => conditions

end

end Rowscan.Condition

namespace Rowscan

/-- The column that an alias stands for. -/
def Aliases.columnOf? (aliases : Aliases) (label : String) : Option String :=
  (aliases.entries.find? (·.2 == label)).map (·.1)

/-- The value of an alias in a row: the row's field of the column that it stands for. -/
def Aliases.fieldIn (aliases : Aliases) (row : Row) (label : String) : Option String :=
  (aliases.columnOf? label).bind row.find?

end Rowscan
