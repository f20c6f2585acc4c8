import Rowscan.Failure
import Rowscan.Filter.Basic
import Rowscan.Text.Lowercase

/-!
The JSON form of filters. An object is a hash condition; an array is an operator, in any case
of letters, and its operands. Each malformed form is refused with its cause, and of several
faults the first in reading order is reported.
-/
namespace Rowscan.Filter

/-- Refuses a value that stands where something else is expected. -/
def unexpected (expectation : String) (value : Json) : Failure :=
  .unsupportedFilterShape (expectation ++ ", found " ++ value.compact)

/-- A column name (`column_name`). -/
def columnOfJson : Json → Except Failure String
  | .string name => .ok name
  | other => .error (unexpected "column name must be a string" other)

/-- A literal (`scalar_literal`). -/
def literalOfJson (value : Json) : Except Failure Literal :=
  match Literal.ofJson? value with
  | some literal => .ok literal
  | none => .error (unexpected "expected a scalar value" value)

/-- An item of a set: an object is a tuple, anything else must be a scalar (`parse_in_item`). -/
def itemOfJson : Json → Except Failure SetItem
  | .object members => do
    let fields ← members.mapM fun (column, value) => do return (column, ← literalOfJson value)
    return .tuple (.ofList fields)
  | value => return .value (← literalOfJson value)

/-- The right side of an entry of a hash condition. -/
def hashValueOfJson : Json → Except Failure HashValue
  | .array items => return .list (← items.mapM itemOfJson)
  | value => return .value (← literalOfJson value)

/-- A hash condition (`parse_hash`). -/
def hashOfMembers (members : List (String × Json)) : Except Failure Filter :=
  return .hash (← members.mapM fun (column, value) => do return (column, ← hashValueOfJson value))

/-- The columns of a membership condition: a list of names or a single one. -/
def columnsOfJson : Json → Except Failure (List String)
  | .array columns => columns.mapM columnOfJson
  | single => return [← columnOfJson single]

/-- The items of a membership condition: a list or a single one (`parse_in_items`). -/
def itemsOfJson : Json → Except Failure (List SetItem)
  | .array items => items.mapM itemOfJson
  | single => return [← itemOfJson single]

/-- The first `count` operands must be there and not be null (`require`). -/
def requireOperands (operator : String) (operands : List Json) (count : Nat) :
    Except Failure Unit :=
  if operands.length < count || (operands.take count).any Json.isNull then
    .error (.missingOperand operator count)
  else .ok ()

/-- A range condition. -/
def betweenOfJson (operator : String) (operands : List Json) (negated : Bool) :
    Except Failure Filter := do
  requireOperands operator operands 3
  return .between (← columnOfJson (operands.getD 0 .null)) (← literalOfJson (operands.getD 1 .null))
    (← literalOfJson (operands.getD 2 .null)) negated

/-- A membership condition. -/
def membershipOfJson (operator : String) (operands : List Json) (negated : Bool) :
    Except Failure Filter := do
  requireOperands operator operands 2
  return .membership (← columnsOfJson (operands.getD 0 .null))
    (← itemsOfJson (operands.getD 1 .null)) negated

/-- A pattern condition. -/
def likeOfJson (operator : String) (operands : List Json) (op : LikeOp) :
    Except Failure Filter := do
  requireOperands operator operands 2
  return .like op (← columnOfJson (operands.getD 0 .null)) (← literalOfJson (operands.getD 1 .null))

/-- A comparison. -/
def compareOfJson (operator : String) (operands : List Json) (op : CompareOp) :
    Except Failure Filter := do
  requireOperands operator operands 2
  return .compare op (← columnOfJson (operands.getD 0 .null))
    (← literalOfJson (operands.getD 1 .null))

/-- An operator whose operands are columns and values. -/
def leafOfJson (operator : String) (operands : List Json) : Except Failure Filter :=
  if operator = "between" then betweenOfJson operator operands false
  else if operator = "not between" then betweenOfJson operator operands true
  else if operator = "in" then membershipOfJson operator operands false
  else if operator = "not in" then membershipOfJson operator operands true
  else match LikeOp.ofName? operator, CompareOp.ofSymbol? operator with
    | some op, _ => likeOfJson operator operands op
    | _, some op => compareOfJson operator operands op
    | _, _ => .error (.unknownOperator operator)

mutual

/-- The filter that an operator and its operands stand for (`parse_tagged`). No operator at all is
an empty hash condition. -/
def ofOperator : List Json → Except Failure Filter
  | [] => .ok (.hash [])
  | .string head :: operands =>
    let operator := Text.lowercase head
    if operator = "not" then
      match operands with
      | [operand] => do return .negation (← ofOperand operand)
      | _ => .error (.missingOperand operator 1)
    else if operator = "and" then do return .conjunction (← ofOperands operands)
    else if operator = "or" then do return .disjunction (← ofOperands operands)
    else leafOfJson operator operands
  | head :: _ => .error (.unknownOperator head.compact)
termination_by structural items => items

/-- An operand of a logical operator: a filter, or a text taken as a raw condition
(`parse_operand`). -/
def ofOperand : Json → Except Failure Filter
  | .string condition => .ok (.raw condition)
  | .array items => ofOperator items
  | .object members => hashOfMembers members
  | other => .error (unexpected "operand must be a filter or a raw condition" other)
termination_by structural value => value

/-- The operands of a logical operator, in order. -/
def ofOperands : List Json → Except Failure (List Filter)
  | [] => .ok []
  | operand :: rest => do
    let filter ← ofOperand operand
    return filter :: (← ofOperands rest)
termination_by structural items => items

end

/-- The filter that a JSON value stands for (`Filter::from_json`). -/
def ofJson : Json → Except Failure Filter
  | .object members => hashOfMembers members
  | .array items => ofOperator items
  | other => .error (unexpected "expected an object or an operator array" other)

end Rowscan.Filter
