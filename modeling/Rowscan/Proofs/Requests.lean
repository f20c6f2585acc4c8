import Rowscan.Proofs.Renderings
import Rowscan.Wire.Encoder

/-!
Requests on the wire. A request is written as a reply could be, an array of payloads, so the decoder
reads it back and leaves what follows (`Request.decode_bytes`), whatever its arguments hold. Hence a
request is no beginning of another (`Request.eq_of_append`), and requests that are written one after
another are told apart again (`decodeAll_requests`).
-/
namespace Rowscan.Wire

/-! ## Replies one after another -/

private theorem length_lt_of_decode {bytes rest : List UInt8} {reply : Reply}
    (read : decode bytes = .done reply rest) : rest.length < bytes.length := by
  obtain ⟨frame, some, rfl, -⟩ := settled_of_decode read
  have positive := List.length_pos_iff.2 some
  rw [List.length_append]
  omega

/-- All replies at the front of some bytes, and the bytes after the last one. -/
def decodeAll (bytes : List UInt8) : List Reply × List UInt8 :=
  match read : decode bytes with
  | .done reply rest =>
    have : rest.length < bytes.length := length_lt_of_decode read
    let (replies, left) := decodeAll rest
    (reply :: replies, left)
  | .incomplete | .malformed _ => ([], bytes)
termination_by bytes.length

private theorem decodeAll_of_done {bytes rest : List UInt8} {reply : Reply}
    (read : decode bytes = .done reply rest) :
    decodeAll bytes = (reply :: (decodeAll rest).1, (decodeAll rest).2) := by
  rw [decodeAll]
  split
  next other after same =>
    rw [read] at same
    cases same
    rfl
  next same =>
    rw [read] at same
    cases same
  next fault same =>
    rw [read] at same
    cases same

private theorem decodeAll_nil : decodeAll [] = ([], []) := by
  rw [decodeAll]
  rfl

/-! ## Requests -/

/-- A command name and its arguments. Their sizes are 64-bit numbers. -/
@[ext]
structure Request where
  name : String
  arguments : List (List UInt8)
  few : arguments.length + 1 < 2 ^ 63
  short : ∀ part ∈ Text.utf8 name :: arguments, part.length < 2 ^ 63

namespace Request

/-- The request as it is sent. -/
def bytes (request : Request) : List UInt8 := encodeRequest request.name request.arguments

/-- The name and the arguments, in order. -/
def parts (request : Request) : List (List UInt8) := Text.utf8 request.name :: request.arguments

/-- The request as it is read. -/
def reply (request : Request) : Reply := .array (request.parts.map .bulk)

end Request

private theorem encodeBulk_eq (data : List UInt8) :
    encodeBulk data = '$'.toUInt8 :: payloadOf data := rfl

private theorem renderings_encodeBulk {parts : List (List UInt8)}
    (short : ∀ part ∈ parts, part.length < 2 ^ 63) :
    Renderings (parts.map .bulk) (parts.flatMap encodeBulk) := by
  induction parts with
  | nil => exact .nil
  | cons part parts ih =>
    obtain ⟨first, more⟩ := List.forall_mem_cons.1 short
    rw [List.map_cons, List.flatMap_cons, encodeBulk_eq]
    exact .cons (.bulk first) (ih more)

namespace Request

variable (request : Request)

/-- A request is written as an array of payloads. -/
theorem rendering : Rendering request.reply request.bytes := by
  have items := renderings_encodeBulk request.short
  have size : (request.parts.map Reply.bulk).length = request.arguments.length + 1 := by
    rw [List.length_map, parts, List.length_cons]
  have sent : request.bytes =
      '*'.toUInt8 :: (lineOf (toString (request.arguments.length + 1)) ++
        request.parts.flatMap encodeBulk) := rfl
  rw [sent, ← size]
  exact .array (by decide) (size ▸ request.few) items

/-- A request is read back, whatever follows it. -/
theorem decode_bytes (rest : List UInt8) :
    decode (request.bytes ++ rest) = .done request.reply rest :=
  decode_of_frame twoBytes_of_eq_crlf request.rendering.frame rest

private theorem reply_inj {request other : Request} (same : request.reply = other.reply) :
    request = other := by
  have parts : request.parts = other.parts :=
    (List.map_inj_right fun _ _ => Reply.bulk.inj).1 (Reply.array.inj same)
  obtain ⟨name, arguments⟩ := List.cons.inj parts
  exact Request.ext (Text.utf8_inj name) arguments

/-- A request is told by its bytes, even if more bytes follow. -/
theorem eq_of_append {request other : Request} {rest more : List UInt8}
    (same : request.bytes ++ rest = other.bytes ++ more) : request = other ∧ rest = more := by
  have read := request.decode_bytes rest
  rw [same, other.decode_bytes] at read
  obtain ⟨replies, left⟩ := Reading.done.inj read
  exact ⟨(reply_inj replies).symm, left.symm⟩

end Request

/-- Requests that are sent one after another are read back in order, before what follows them. -/
theorem decodeAll_requests (requests : List Request) (rest : List UInt8) :
    decodeAll (requests.flatMap Request.bytes ++ rest) =
      (requests.map Request.reply ++ (decodeAll rest).1, (decodeAll rest).2) := by
  induction requests with
  | nil => rfl
  | cons request requests ih =>
    rw [List.flatMap_cons, List.append_assoc, decodeAll_of_done (request.decode_bytes _), ih]
    rfl

/-! ## Commands -/

private theorem length_name_lt (command : Command) : (Text.utf8 command.name).length < 2 ^ 63 := by
  have names : ∀ name ∈ ["HGETALL", "LLEN", "EVAL"], (Text.utf8 name).length < 2 ^ 63 := by decide
  apply names
  cases command <;> simp [Command.name]

private theorem length_arguments_lt (command : Command) :
    command.arguments.length + 1 < 2 ^ 63 := by
  cases command <;> simp [Command.arguments]

private theorem length_decimalBytes_lt (n : UInt8) : (decimalBytes n.toNat).length < 2 ^ 63 := by
  have digits : ∀ n < 256, (decimalBytes n).length < 2 ^ 63 := by decide +kernel
  exact digits n.toNat n.toNat_lt

namespace Request

/-- The request for a command. -/
def ofCommand (command : Command)
    (short : ∀ argument ∈ command.arguments, argument.length < 2 ^ 63) : Request where
  name := command.name
  arguments := command.arguments
  few := length_arguments_lt command
  short := List.forall_mem_cons.2 ⟨length_name_lt command, short⟩

/-- The request for a version of the wire format. -/
def hello (version : UInt8) : Request where
  name := "HELLO"
  arguments := [decimalBytes version.toNat]
  few := by simp
  short := by
    have name : (Text.utf8 "HELLO").length < 2 ^ 63 := by decide
    simpa using ⟨name, length_decimalBytes_lt version⟩

end Request

/-- Every request is read back exactly and leaves what follows it, and so are the requests for
commands and for a version. Requests that are sent one after another are read back in order, with
nothing left, and no two requests have the same bytes. -/
theorem requests_readBack :
    (∀ (request : Request) (rest : List UInt8),
      decode (request.bytes ++ rest) =
        .done (.array (.ofText request.name :: request.arguments.map .bulk)) rest) ∧
    (∀ command : Command, (∀ argument ∈ command.arguments, argument.length < 2 ^ 63) →
      ∀ rest, decode (encodeCommand command ++ rest) =
        .done (.array (.ofText command.name :: command.arguments.map .bulk)) rest) ∧
    (∀ (version : UInt8) (rest : List UInt8),
      decode (encodeHello version ++ rest) =
        .done (.array [.ofText "HELLO", .ofText (toString version.toNat)]) rest) ∧
    (∀ requests : List Request,
      decodeAll (requests.flatMap Request.bytes) = (requests.map Request.reply, [])) ∧
    Function.Injective Request.bytes := by
  refine ⟨Request.decode_bytes, ?_, ?_, ?_, ?_⟩
  · intro command short rest
    exact (Request.ofCommand command short).decode_bytes rest
  · intro version rest
    exact (Request.hello version).decode_bytes rest
  · intro requests
    have read := decodeAll_requests requests []
    rwa [decodeAll_nil, List.append_nil, List.append_nil] at read
  · intro request other same
    exact (Request.eq_of_append (congrArg (· ++ []) same)).1

/-- A key that looks like replies is read back as it is. -/
theorem requests_readBack_disguised :
    decode (encodeCommand (.hgetall "k\r\n*1\r\n$0\r\n") ++ [36]) =
      .done (.array [.ofText "HGETALL", .ofText "k\r\n*1\r\n$0\r\n"]) [36] :=
  requests_readBack.2.1 (.hgetall "k\r\n*1\r\n$0\r\n") (by decide) [36]

end Rowscan.Wire
