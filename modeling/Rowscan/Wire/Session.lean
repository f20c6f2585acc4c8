import Rowscan.Wire.Encoder

/-!
Sessions: requests sent one at a time to a peer, each waiting for its reply. The peer answers
each request with chunks of bytes prepared beforehand. A session reads chunk by chunk and tries
to decode what it has; where the chunks end plays no part.
-/
namespace Rowscan.Wire

/-- A peer that answers each request in turn with prepared chunks. After the last answer it
ends the stream, or, if silent, sends nothing more. -/
structure Peer where
  answers : List (List (List UInt8))
  isSilent : Bool
  deriving Inhabited

/-- The client's side of a connection. -/
structure Connection where
  isClustered : Bool
  /-- Whether the peer has accepted the newer wire format. -/
  isNewer : Bool
  /-- Bytes that were read and not yet decoded. -/
  unread : List UInt8
  /-- Chunks that the peer has sent and that were not yet read. -/
  arriving : List (List UInt8)
  peer : Peer
  /-- The requests sent so far, the latest first. -/
  sent : List (List UInt8)
  deriving Inhabited

namespace Connection

/-- A connection on which nothing was sent. -/
def opened (isClustered : Bool) (peer : Peer) : Connection :=
  ⟨isClustered, false, [], [], peer, []⟩

/-- Sends a request; the peer answers it at once. -/
def sendRequest (connection : Connection) (request : List UInt8) : Connection :=
  let answer := connection.peer.answers.head?.getD []
  { connection with
    arriving := connection.arriving ++ answer.filter (!·.isEmpty)
    peer := { connection.peer with answers := connection.peer.answers.tail }
    sent := request :: connection.sent }

/-- What waiting for bytes that do not come ends with: the end of the stream after the last
answer of a peer that is not silent, and the deadline otherwise. -/
def waitingFailure (peer : Peer) : Failure :=
  if peer.answers.isEmpty && !peer.isSilent then .connection "Connection closed" else .timeout

/-- Reads chunks until the bytes hold a reply (`read_response`). Gives the reply, the bytes left
over and the chunks left; malformed bytes are kept. -/
def readReply (onWait : Failure) (unread : List UInt8) :
    List (List UInt8) → Except Failure Reply × List UInt8 × List (List UInt8)
  | [] =>
    match decode unread with
    | .done reply rest => (.ok reply, rest, [])
    | .malformed fault => (.error (.protocol fault), unread, [])
    | .incomplete => (.error onWait, unread, [])
  | chunk :: more =>
    match decode unread with
    | .done reply rest => (.ok reply, rest, chunk :: more)
    | .malformed fault => (.error (.protocol fault), unread, chunk :: more)
    | .incomplete => readReply onWait (unread ++ chunk) more

/-- An error reply is a failure of the request. -/
def refuseError : Except Failure Reply → Except Failure Reply
  | .ok (.error text) => .error (.server text)
  | result => result

/-- Sends a request and waits for its reply (`round_trip`). -/
def roundTrip (connection : Connection) (request : List UInt8) :
    Except Failure Reply × Connection :=
  let connection := connection.sendRequest request
  let (result, unread, arriving) :=
    readReply (waitingFailure connection.peer) connection.unread connection.arriving
  (refuseError result, { connection with unread, arriving })

/-- Opens a session (`Connection::connect`). If wanted, the newer wire format is asked for; a peer
that refuses it leaves the older one in use, and any other failure ends the session. -/
def connect (isClustered wantsNewer : Bool) (peer : Peer) : Except Failure Unit × Connection :=
  let connection := opened isClustered peer
  if wantsNewer then
    match connection.roundTrip (encodeHello 3) with
    | (.ok _, connection) => (.ok (), { connection with isNewer := true })
    | (.error (.server _), connection) => (.ok (), connection)
    | (.error failure, connection) => (.error failure, connection)
  else (.ok (), connection)

/-- The executor that sends commands over a connection (`Connection::execute`). -/
def executor : Executor Connection where
  isClustered := Connection.isClustered
  execute command connection := connection.roundTrip (encodeCommand command)

end Connection
end Rowscan.Wire
