import Rowscan.Reply.Basic
import Rowscan.Text.Utf8

/-!
Reading replies off the wire. A reply starts with a byte for its type; lines end in CR LF, and
payloads are prefixed with their length. The bytes may end inside a reply, which is no fault:
more may come.
-/
namespace Rowscan.Wire

/-- The bytes that end a line. -/
def crlf : List UInt8 := [13, 10]

/-- What reading at the front of some bytes gives: a value and the bytes after it, or that the
bytes end too early, or that no more bytes can mend them. -/
inductive Reading (α : Type) where
  | done (value : α) (rest : List UInt8)
  | incomplete
  | malformed (fault : String)
  deriving Inhabited

namespace Reading

variable {α β : Type}

/-- Goes on with the value and the bytes after it. -/
def andThen (reading : Reading α) (next : α → List UInt8 → Reading β) : Reading β :=
  match reading with
  | .done value rest => next value rest
  | .incomplete => .incomplete
  | .malformed fault => .malformed fault

/-- Changes the value. -/
def map (f : α → β) (reading : Reading α) : Reading β :=
  reading.andThen fun value rest => .done (f value) rest

end Reading

/-- The bytes before the first line end and those after it. -/
def splitLine : List UInt8 → Option (List UInt8 × List UInt8)
  | [] => none
  | byte :: rest =>
    match byte, rest with
    | 13, 10 :: after => some ([], after)
    | _, _ => (splitLine rest).map fun (line, after) => (byte :: line, after)

/-- A line of text (`read_line`). -/
def readLine (bytes : List UInt8) : Reading String :=
  match splitLine bytes with
  | none => .incomplete
  | some (line, rest) =>
    match Text.ofUtf8? line with
    | some text => .done text rest
    | none => .malformed "Invalid UTF-8"

/-- A line that holds a 64-bit integer; `what` names it in the fault (`parse_line`). -/
def readInt (what : String) (bytes : List UInt8) : Reading Int :=
  (readLine bytes).andThen fun line rest =>
    match int64OfText? line with
    | some value => .done value.toInt rest
    | none => .malformed ("Invalid " ++ what ++ ": " ++ line)

/-- A payload after its length, and two bytes after the payload (`read_blob`). A negative length
stands for no payload. -/
def readPayload (bytes : List UInt8) : Reading (Option (List UInt8)) :=
  (readInt "bulk length" bytes).andThen fun length rest =>
    if length < 0 then .done none rest
    else if rest.length < length.toNat + 2 then .incomplete
    else .done (some (rest.take length.toNat)) (rest.drop (length.toNat + 2))

/-- A line that holds a boolean. -/
def readBool (bytes : List UInt8) : Reading Reply :=
  (readLine bytes).andThen fun line rest =>
    if line = "t" then .done (.boolean true) rest
    else if line = "f" then .done (.boolean false) rest
    else .malformed ("Invalid boolean: " ++ line)

/-- A line that holds a double. -/
def readDouble (bytes : List UInt8) : Reading Reply :=
  (readLine bytes).andThen fun line rest =>
    match Double.ofText? line with
    | some value => .done (.double value) rest
    | none => .malformed ("Invalid double: " ++ line)

/-- As many values as counted, one after another. -/
def readMany {α : Type} (read : List UInt8 → Reading α) : Nat → List UInt8 → Reading (List α)
  | 0, bytes => .done [] bytes
  | count + 1, bytes =>
    (read bytes).andThen fun value rest => (readMany read count rest).map (value :: ·)

/-- Two values, one after another. -/
def readPair {α : Type} (read : List UInt8 → Reading α) (bytes : List UInt8) : Reading (α × α) :=
  (read bytes).andThen fun first rest => (read rest).map (first, ·)

/-- The rest of a reply after its type byte; `read` reads the replies inside it. Attributes are
read and dropped. -/
def readBody (read : List UInt8 → Reading Reply) (kind : UInt8) (bytes : List UInt8) :
    Reading Reply :=
  match Char.ofNat kind.toNat with
  | '+' => (readLine bytes).map .status
  | '-' => (readLine bytes).map .error
  | ':' => (readInt "integer" bytes).map .integer
  | '$' => (readPayload bytes).map fun payload =>
      match payload with
      | some data => .bulk data
      | none => .null
  | '!' => (readPayload bytes).map fun payload => .error (Text.repairUtf8 (payload.getD []))
  | '=' => (readPayload bytes).map fun payload => .bulk ((payload.getD []).drop 4)
  | '(' => (readLine bytes).map .ofText
  | '*' | '~' | '>' =>
    (readInt "array length" bytes).andThen fun count rest =>
      if count < 0 then .done .null rest else (readMany read count.toNat rest).map .array
  | '_' => (readLine bytes).map fun _ => .null
  | '#' => readBool bytes
  | ',' => readDouble bytes
  | '%' =>
    (readInt "map length" bytes).andThen fun count rest =>
      (readMany (readPair read) count.toNat rest).map .map
  | '|' =>
    (readInt "attribute length" bytes).andThen fun count rest =>
      (readMany (readPair read) count.toNat rest).andThen fun _ rest => read rest
  | other => .malformed ("Unknown type byte: " ++ other.toString)

/-- A reply that is nested at most `depth` deep (`decode_value`). -/
def readReply : Nat → List UInt8 → Reading Reply
  | 0, _ => .incomplete
  | _ + 1, [] => .incomplete
  | depth + 1, kind :: bytes => readBody (readReply depth) kind bytes

/-- A reply at the front of some bytes (`decode`). Every level of nesting takes a byte, so there are
no more levels than bytes. -/
def decode (bytes : List UInt8) : Reading Reply := readReply bytes.length bytes

end Rowscan.Wire
