import Rowscan.Executor.Basic
import Rowscan.Wire.Decoder

/-!
Writing requests. Every request is an array of bulk strings: the name of a command and its
arguments, each after its length.
-/
namespace Rowscan.Wire

/-- A number as decimal digits. -/
def decimalBytes (n : Nat) : List UInt8 := Text.utf8 (toString n)

/-- A bulk string (`encode_bulk_string`). -/
def encodeBulk (bytes : List UInt8) : List UInt8 :=
  [36] ++ decimalBytes bytes.length ++ crlf ++ bytes ++ crlf

/-- A request (`encode_parts`). -/
def encodeRequest (name : String) (arguments : List (List UInt8)) : List UInt8 :=
  [42] ++ decimalBytes (arguments.length + 1) ++ crlf ++
    (Text.utf8 name :: arguments).flatMap encodeBulk

/-- A command as a request (`encode`). -/
def encodeCommand (command : Command) : List UInt8 :=
  encodeRequest command.name command.arguments

/-- The request for a version of the wire format (`encode_hello`). -/
def encodeHello (version : UInt8) : List UInt8 :=
  encodeRequest "HELLO" [decimalBytes version.toNat]

end Rowscan.Wire
