import Rowscan.Failure
import Rowscan.FieldMap
import Rowscan.Reply.Description

/-!
Rows: the fields of one record, read from a hash reply. A hash comes as a flat list of names and
values or as a map; both read the same.
-/
namespace Rowscan

/-- The fields of one record and their texts. -/
abbrev Row := FieldMap String

/-- The refusal of a reply that does not fit what was asked for (`unexpected`). -/
def Reply.unexpectedFor (what : String) (reply : Reply) : Failure :=
  .protocol ("unexpected reply for " ++ what ++ ": " ++ reply.describe)

namespace Row

/-- The fields of a list of pairs, in order; a pair counts if both sides show as text, and of a
repeated name the last value counts (`decode_map`). -/
def ofPairs (pairs : List (Reply × Reply)) : Row :=
  .ofList (pairs.filterMap fun (name, value) =>
    match name.shown?, value.shown? with
    | some name, some value => some (name, value)
    | _, _ => none)

/-- Names and values in turn as pairs. A name at the end without a value is dropped. -/
def pairUp : List Reply → List (Reply × Reply)
  | name :: value :: rest => (name, value) :: pairUp rest
  | _ => []

/-- The fields of a flat list (`decode_row`). -/
def ofFlat (flat : List Reply) : Row := ofPairs (pairUp flat)

/-- The fields of an item in a list of hashes; what is no hash has none. -/
def ofItem : Reply → Row
  | .array flat => ofFlat flat
  | .map pairs => ofPairs pairs
  | _ => .empty

/-- The fields of each hash in a list (`decode_rows`). -/
def ofItems (items : List Reply) : List Row := items.map ofItem

/-- The fields of a hash reply (`decode_hash`). A missing hash is a row without fields. -/
def ofReply : Reply → Except Failure Row
  | .array flat => .ok (ofFlat flat)
  | .map pairs => .ok (ofPairs pairs)
  | .null => .ok .empty
  | other => .error (other.unexpectedFor "hash")

end Row
end Rowscan
