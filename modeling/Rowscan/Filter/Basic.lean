import Rowscan.FieldMap
import Rowscan.Literal

/-!
Filters: the conditions that a query puts on rows. A hash condition is a conjunction of
equalities, where a list of values means membership; the other forms are operators.
-/
namespace Rowscan

/-- An element of a set of values: one value, or a value for each of several columns (`InItem`). -/
inductive SetItem where
  | value (literal : Literal)
  | tuple (fields : FieldMap Literal)
  deriving DecidableEq

/-- The value that an item gives to a column: null if a tuple lacks the column or the item is not a
tuple (`InItem::field`). -/
def SetItem.field (column : String) : SetItem → Literal
  | .tuple fields => (fields.find? column).getD .null
  | .value _ => .null

/-- The value that an item gives to the only column of a membership condition (`item_value`). -/
def SetItem.single (column : String) : SetItem → Literal
  | .value literal => literal
  | .tuple fields => (fields.find? column).getD .null

/-- The right side of an entry of a hash condition. -/
inductive HashValue where
  | value (literal : Literal)
  | list (items : List SetItem)
  deriving DecidableEq

/-- The ordering comparisons. -/
inductive CompareOp where
  | greater
  | greaterOrEqual
  | less
  | lessOrEqual
  deriving DecidableEq

/-- How a comparison is written (`CompareOp::as_str`). -/
def CompareOp.symbol : CompareOp → String
  | .greater => ">"
  | .greaterOrEqual => ">="
  | .less => "<"
  | .lessOrEqual => "<="

/-- The comparison written so (`CompareOp::parse`). -/
def CompareOp.ofSymbol? : String → Option CompareOp
  | ">" => some .greater
  | ">=" => some .greaterOrEqual
  | "<" => some .less
  | "<=" => some .lessOrEqual
  | _ => none

/-- The pattern operators. They are understood, so that they can be refused by name. -/
inductive LikeOp where
  | like
  | notLike
  | orLike
  | orNotLike
  deriving DecidableEq

/-- The name of a pattern operator (`LikeOp::as_str`). -/
def LikeOp.name : LikeOp → String
  | .like => "like"
  | .notLike => "not like"
  | .orLike => "or like"
  | .orNotLike => "or not like"

/-- The pattern operator of that name. -/
def LikeOp.ofName? : String → Option LikeOp
  | "like" => some .like
  | "not like" => some .notLike
  | "or like" => some .orLike
  | "or not like" => some .orNotLike
  | _ => none

/-- A condition on rows. -/
inductive Filter where
  /-- Every column equals its value, or is among its list of values. -/
  | hash (entries : List (String × HashValue))
  | negation (filter : Filter)
  | conjunction (filters : List Filter)
  | disjunction (filters : List Filter)
  | between (column : String) (low high : Literal) (negated : Bool)
  | membership (columns : List String) (items : List SetItem) (negated : Bool)
  | compare (op : CompareOp) (column : String) (value : Literal)
  | like (op : LikeOp) (column : String) (pattern : Literal)
  /-- A condition of the script language, put into scripts as it stands. -/
  | raw (condition : String)
  deriving Inhabited

end Rowscan
