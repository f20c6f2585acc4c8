import Rowscan.Digest
import Rowscan.FieldMap
import Rowscan.Json.Basic
import Rowscan.Literal
import Rowscan.Text.Utf8

/-!
Where a table's data lies, and how a logical key becomes text. A table with the stem `T` keeps
the encoded keys of its rows in the list `T`, the row with the encoded key `k` in the hash
`T:a:k`, and the counter of a key field `f` in the string `T:s:f`.
-/
namespace Rowscan

/-- The part that all keys of one table start with (`KeyPrefix`). -/
structure KeySpace where
  stem : String
  deriving DecidableEq, Inhabited

namespace KeySpace

/-- The key space of a table (`KeyPrefix::new`). On a cluster the table's name is put in braces, as
a tag that keeps its keys together. -/
def ofTable (name : String) (clustered : Bool) : KeySpace :=
  ⟨if clustered then "\x7b" ++ name ++ "\x7d" else name⟩

/-- The key of the list of encoded keys (`list_key`). -/
def listKey (space : KeySpace) : String := space.stem

/-- The key of a row's hash (`row_key`). -/
def rowKey (space : KeySpace) (encoded : String) : String := space.stem ++ ":a:" ++ encoded

/-- The key of a field's counter (`counter_key`). -/
def counterKey (space : KeySpace) (field : String) : String := space.stem ++ ":s:" ++ field

end KeySpace

/-- A logical key: one value, or a value for each of several fields (`PkValue`). -/
inductive KeyValue where
  | scalar (value : Literal)
  | composite (fields : FieldMap Literal)
  deriving DecidableEq

namespace KeyValue

/-- The longest text, in bytes, that may stand as a key without being a number
(`MAX_PLAIN_KEY_LEN`). -/
def maxPlainLength : Nat := 32

/-- Whether a character is an ASCII letter or digit. -/
def isPlainChar (c : Char) : Bool := c.isAlpha || c.isDigit

/-- Whether a text may stand as a key although it is no number: short, and only letters and
digits. -/
def isPlain (text : String) : Bool :=
  !text.isEmpty && text.utf8ByteSize ≤ maxPlainLength && text.toList.all isPlainChar

/-- The digest of a text. -/
def digest (text : String) : String := Digest.hexDigest (Text.utf8 text)

/-- A text as a key: numerals and plain texts stand as they are. -/
def encodeText (text : String) : String :=
  if isNumeral text || isPlain text then text else digest text

/-- One value as a key (`scalar_key`). -/
def encodeScalar : Literal → String
  | .string text => encodeText text
  | .raw expression => encodeText expression
  | .null => digest "null"
  | literal => literal.text

/-- A text as a JSON value: a numeral is the number that it spells, as long as it is finite. -/
def canonicalText (text : String) : Json :=
  if isNumeral text then
    match int64OfText? text with
    | some value => .integer value.toInt
    | none =>
      match Double.ofText? text with
      | some number => if number.isFinite then .float number else .string text
      | none => .string text
  else .string text

/-- A value as JSON, in the one form that equal keys share (`canonical_json`). -/
def canonical : Literal → Json
  | .null => .null
  | .bool value => .bool value
  | .int value => .integer value.toInt
  | .float value => if value.isFinite then .float value else .null
  | .string text => canonicalText text
  | .raw expression => canonicalText expression

/-- The values of several fields as a key, in the order of the fields: numbers are joined, and
anything else is digested as a JSON object. -/
def encodeFields (fields : FieldMap Literal) : String :=
  if !fields.isEmpty && fields.values.all Literal.isNumeric then
    String.intercalate "-" (fields.values.map Literal.text)
  else
    let members := fields.entries.map fun (name, value) => (name, canonical value)
    digest (Json.object members).compact

/-- The text of a key (`build_key`). It depends on the logical key alone, not on the order in which
its fields were given, and a single field counts like a scalar. -/
def encode : KeyValue → String
  | .scalar value => encodeScalar value
  | .composite fields =>
    match fields.values with
    | [value] => encodeScalar value
    | _ => encodeFields fields

end KeyValue
end Rowscan
