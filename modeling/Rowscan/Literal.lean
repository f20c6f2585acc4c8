import Rowscan.Double.Layout
import Rowscan.Json.Basic
import Rowscan.Numeral

/-!
Literal values: what filters compare with and what rows are given. A raw literal is an
expression of the script language that is put into scripts as it stands.
-/
namespace Rowscan

/-- A literal value. -/
inductive Literal where
  | null
  | bool (value : Bool)
  | int (value : Int64)
  | float (value : Double)
  | string (text : String)
  | raw (expression : String)
  deriving DecidableEq, Inhabited

namespace Literal

/-- The text of a value once stored in a field (`Literal::fmt`). Null has none, and booleans are
stored as one and zero. -/
def text : Literal → String
  | .null => ""
  | .bool value => if value then "1" else "0"
  | .int value => toString value.toInt
  | .float value => value.text
  | .string text => text
  | .raw expression => expression

/-- Whether the value is null (`is_null`). -/
def isNull : Literal → Bool
  | .null => true
  | _ => false

/-- Whether the value is a raw expression. -/
def isRaw : Literal → Bool
  | .raw _ => true
  | _ => false

/-- Whether the value reads as a number: integers, finite floats and decimal numerals
(`is_numeric`). -/
def isNumeric : Literal → Bool
  | .int _ => true
  | .float value => value.isFinite
  | .string text => isNumeral text
  | _ => false

/-- Booleans as one and zero; other values as they are (`bool_as_int`). -/
def boolAsInt : Literal → Literal
  | .bool value => .int (if value then 1 else 0)
  | literal => literal

/-- A scalar of JSON as a literal (`Literal::from_json`). A whole number outside the signed range
becomes a float; arrays and objects are not literals. -/
def ofJson? : Json → Option Literal
  | .null => some .null
  | .bool value => some (.bool value)
  | .integer value =>
    some (match int64OfInt? value with
      | some word => .int word
      | none => .float (.ofInt value))
  | .float value => some (.float value)
  | .string text => some (.string text)
  | .array _ => none
  | .object _ => none

end Literal
end Rowscan
