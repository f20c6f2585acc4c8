import Rowscan.Double.Layout
import Rowscan.Numeral
import Rowscan.Text.Utf8

/-!
Replies: the values that an executor answers commands with, and how they read as text and as
numbers.
-/
namespace Rowscan

/-- A reply (`Value`). Both generations of the wire format share this type. -/
inductive Reply where
  | null
  | status (text : String)
  | bulk (bytes : List UInt8)
  | integer (value : Int)
  | boolean (value : Bool)
  | double (value : Double)
  | array (items : List Reply)
  | map (pairs : List (Reply × Reply))
  | error (text : String)
  deriving Inhabited

namespace Reply

/-- The bulk reply with the bytes of a text (`Value::bulk`). -/
def ofText (text : String) : Reply := .bulk (Text.utf8 text)

/-- The text of a status, or of a bulk whose bytes are valid (`as_str`). -/
def text? : Reply → Option String
  | .status text => some text
  | .bulk bytes => Text.ofUtf8? bytes
  | _ => none

/-- A whole number: an integer, or the text of one with blanks around it (`as_int`). -/
def int? : Reply → Option Int
  | .integer value => some value
  | reply => reply.text?.bind fun text =>
    (int64OfText? (String.ofList (Text.trimBlank text.toList))).map Int64.toInt

/-- A scalar shown as text; bytes that are not valid are repaired (`to_text`). Null, errors and
aggregates have no text. -/
def shown? : Reply → Option String
  | .status text => some text
  | .bulk bytes => some (Text.repairUtf8 bytes)
  | .integer value => some (toString value)
  | .double value => some value.text
  | .boolean value => some (if value then "1" else "0")
  | _ => none

/-- Whether the reply is null (`is_null`). -/
def isNull : Reply → Bool
  | .null => true
  | _ => false

/-- Whether the reply is an error (`is_error`). -/
def isError : Reply → Bool
  | .error _ => true
  | _ => false

/-- Whether the reply is what a script's `false` or `nil` becomes: null in the older generation of
the wire format, the boolean in the newer (`is_lua_false`). -/
def isFalse : Reply → Bool
  | .null => true
  | .boolean false => true
  | _ => false

end Reply
end Rowscan
