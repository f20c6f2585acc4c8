import Rowscan.Reply.Basic
import Rowscan.Text.Quoted

/-!
Replies as diagnostics describe them: the kind of the reply with its contents in parentheses,
bytes as numbers and texts quoted.
-/
namespace Rowscan.Reply

/-- A list in brackets. -/
def bracketed (items : List String) : String := "[" ++ String.intercalate ", " items ++ "]"

mutual

/-- The description of a reply. -/
def describe : Reply → String
  | .null => "Null"
  | .status text => "Status(" ++ Text.quoted text ++ ")"
  | .bulk bytes => "Bulk(" ++ bracketed (bytes.map fun byte => toString byte.toNat) ++ ")"
  | .integer value => "Integer(" ++ toString value ++ ")"
  | .boolean value => if value then "Boolean(true)" else "Boolean(false)"
  | .double value => "Double(" ++ Double.Layout.diagnostic.write value ++ ")"
  | .array items => "Array(" ++ bracketed (describeAll items) ++ ")"
  | .map pairs => "Map(" ++ bracketed (describePairs pairs) ++ ")"
  | .error text => "Error(" ++ Text.quoted text ++ ")"
termination_by structural reply => reply

/-- The descriptions of several replies. -/
def describeAll : List Reply → List String
  | [] => []
  | reply :: rest => describe reply :: describeAll rest
termination_by structural replies => replies

/-- The descriptions of pairs of replies. -/
def describePairs : List (Reply × Reply) → List String
  | [] => []
  | (key, value) :: rest =>
    ("(" ++ describe key ++ ", " ++ describe value ++ ")") :: describePairs rest
termination_by structural pairs => pairs

end

end Rowscan.Reply
