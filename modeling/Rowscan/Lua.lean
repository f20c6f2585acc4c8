import Rowscan.Literal

/-!
Values as Lua source. Fields of stored rows are strings, so integers and booleans are written as
strings too: that is what `==` compares with. Floats stay bare numbers.
-/
namespace Rowscan.Lua

/-- One character inside a single-quoted string. -/
def escapeChar (c : Char) : List Char :=
  if c = '\x00' then ['\\', '0', '0', '0']
  else if c = '\n' then ['\\', 'n']
  else if c = '\r' then ['\\', 'r']
  else if c = '\\' then ['\\', '\\']
  else if c = '\x1a' then ['\\', '0', '2', '6']
  else if c = '\'' then ['\\', '\'']
  else [c]

/-- A text as a single-quoted string (`quote_str`). -/
def quote (text : String) : String :=
  String.ofList ('\'' :: text.toList.flatMap escapeChar ++ ['\''])

/-- A literal as an operand of a condition (`quote_value`). Raw expressions are put in as they
stand. -/
def ofLiteral : Literal → String
  | .null => "nil"
  | .bool value => quote (if value then "1" else "0")
  | .int value => quote (toString value.toInt)
  | .float value => value.text
  | .string text => quote text
  | .raw expression => expression

end Rowscan.Lua
