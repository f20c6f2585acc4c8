import Rowscan.Filter.Basic
import Rowscan.Lua

/-!
Compiled conditions: boolean expressions over the fields of one row, and their text as Lua. A
condition reads fields through local aliases; the text also mentions the locals `key`, the
prefix of the table, and `pk`, the key of the row.
-/
namespace Rowscan

/-- A boolean expression over one row (`Expr`). -/
inductive Condition where
  /-- No condition at all: what is left of a junction without operands. -/
  | empty
  | constant (value : Bool)
  /-- The row has no such field. -/
  | absent (column : String)
  | equal (label : String) (value : Literal)
  /-- A comparison, of numbers if `numeric` and of strings otherwise. -/
  | compare (label : String) (op : CompareOp) (value : Literal) (numeric : Bool)
  | negation (condition : Condition)
  | conjunction (conditions : List Condition)
  | disjunction (conditions : List Condition)
  | raw (expression : String)
  deriving Inhabited

namespace Condition

/-- Whether there is no condition (`Expr::is_empty`). -/
def isEmpty : Condition → Bool
  | .empty => true
  | _ => false

mutual

/-- The condition as a Lua expression (`Expr::fmt`). -/
def render : Condition → String
  | .empty => ""
  | .constant value => if value then "true" else "false"
  | .absent column =>
    "redis.call('HEXISTS',key .. ':a:' .. pk," ++ Lua.quote column ++ ")==0"
  | .equal label value => label ++ "==" ++ Lua.ofLiteral value
  | .compare label op value numeric =>
    if numeric then "tonumber(" ++ label ++ ") " ++ op.symbol ++ " " ++ value.text
    else label ++ " " ++ op.symbol ++ " " ++ Lua.ofLiteral value
  | .negation condition => "not (" ++ render condition ++ ")"
  | .conjunction conditions => String.intercalate " and " (renderAll conditions)
  | .disjunction conditions => String.intercalate " or " (renderAll conditions)
  | .raw expression => expression
termination_by structural condition => condition

/-- The operands of a junction, each in parentheses (`write_junction`). -/
def renderAll : List Condition → List String
  | [] => []
  | condition :: rest => ("(" ++ render condition ++ ")") :: renderAll rest
termination_by structural conditions => conditions

end

end Condition
end Rowscan
