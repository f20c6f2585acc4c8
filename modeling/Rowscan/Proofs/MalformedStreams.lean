import Rowscan.Proofs.Framing
import Rowscan.Wire.Session

/-!
Malformed streams. A decoding fault consumes nothing, so the bytes that were refused stay at the
front of those that a connection has read, and every later command meets them first: a connection
that is stuck stays stuck, with the same fault, whatever its peer does from then on
(`malformed_forever`). No bytes that follow can mend the refused ones (`Stuck.decode_append`), so a
later reply is never taken for the answer to another command.
-/
namespace Rowscan.Wire

namespace Connection

/-- The bytes that a connection has read and not decoded are malformed. -/
def Stuck (fault : String) (connection : Connection) : Prop :=
  decode connection.unread = .malformed fault

/-- A command, and what the peer does by the time it is sent: the chunks that have come unasked,
and the answers that it has ready from then on. -/
structure Turn where
  command : Command
  unasked : List (List UInt8)
  peer : Peer

/-- A connection to a peer that does something else than it was about to. -/
def facing (connection : Connection) (turn : Turn) : Connection :=
  { connection with arriving := connection.arriving ++ turn.unasked, peer := turn.peer }

/-- Runs commands one after another, to a peer that may change its mind before each of them. -/
def takeTurns (connection : Connection) : List Turn → List (Except Failure Reply) × Connection
  | [] => ([], connection)
  | turn :: rest =>
    let (result, next) := executor.execute turn.command (connection.facing turn)
    let (results, last) := next.takeTurns rest
    (result :: results, last)

variable {connection next : Connection} {fault : String} {result : Except Failure Reply}

/-! ## Getting stuck -/

private theorem waitingFailure_ne_protocol (peer : Peer) (fault : String) :
    waitingFailure peer ≠ .protocol fault := by
  intro same
  rw [waitingFailure] at same
  split at same <;> cases same

/-- Reading chunks ends with a fault only where the bytes read so far are malformed, and leaves
those bytes as they are. -/
theorem malformed_of_readReply {onWait : Failure} (waits : onWait ≠ .protocol fault)
    {chunks arriving : List (List UInt8)} {unread left : List UInt8}
    (read : readReply onWait unread chunks = (.error (.protocol fault), left, arriving)) :
    decode left = .malformed fault := by
  induction chunks generalizing unread with
  | nil =>
    rw [readReply] at read
    cases decoded : decode unread with
    | done reply rest => simp [decoded] at read
    | incomplete => simp [decoded, waits] at read
    | malformed other =>
      simp only [decoded, Prod.mk.injEq, Except.error.injEq, Failure.protocol.injEq] at read
      obtain ⟨rfl, rfl, -⟩ := read
      exact decoded
  | cons chunk more ih =>
    rw [readReply] at read
    cases decoded : decode unread with
    | done reply rest => simp [decoded] at read
    | incomplete =>
      simp only [decoded] at read
      exact ih read
    | malformed other =>
      simp only [decoded, Prod.mk.injEq, Except.error.injEq, Failure.protocol.injEq] at read
      obtain ⟨rfl, rfl, -⟩ := read
      exact decoded

/-- An error reply is a failure of the server, so a protocol failure was there before. -/
theorem eq_of_refuseError (refused : refuseError result = .error (.protocol fault)) :
    result = .error (.protocol fault) := by
  cases result with
  | error failure => exact refused
  | ok reply => cases reply <;> cases refused

/-- A command that fails with a decoding fault leaves the connection stuck. -/
theorem stuck_of_roundTrip {request : List UInt8}
    (failed : connection.roundTrip request = (.error (.protocol fault), next)) :
    next.Stuck fault := by
  rw [roundTrip] at failed
  rcases read : readReply (waitingFailure (connection.sendRequest request).peer)
    (connection.sendRequest request).unread (connection.sendRequest request).arriving
    with ⟨outcome, left, arriving⟩
  rw [read] at failed
  obtain ⟨refused, rfl⟩ := Prod.mk.inj failed
  rw [eq_of_refuseError refused] at read
  exact malformed_of_readReply (waitingFailure_ne_protocol _ fault) read

/-! ## Staying stuck -/

/-- Nothing that follows the refused bytes mends them. -/
theorem Stuck.decode_append (stuck : connection.Stuck fault) (more : List UInt8) :
    decode (connection.unread ++ more) = .malformed fault :=
  (decode_extends connection.unread more).eq_malformed stuck

/-- Malformed bytes are met before another chunk is read, and stay. -/
theorem readReply_of_malformed {unread : List UInt8} (malformed : decode unread = .malformed fault)
    (onWait : Failure) (chunks : List (List UInt8)) :
    readReply onWait unread chunks = (.error (.protocol fault), unread, chunks) := by
  cases chunks <;> rw [readReply, malformed]

/-- A command on a stuck connection fails with the fault that is there, and reads nothing. -/
theorem Stuck.roundTrip (stuck : connection.Stuck fault) (request : List UInt8) :
    ∃ after, connection.roundTrip request = (.error (.protocol fault), after) ∧
      after.unread = connection.unread := by
  have sent : decode (connection.sendRequest request).unread = .malformed fault := stuck
  rw [Connection.roundTrip, readReply_of_malformed sent]
  exact ⟨_, rfl, rfl⟩

/-- So does every one of several commands, whatever the peer does in between. -/
theorem Stuck.takeTurns (stuck : connection.Stuck fault) (turns : List Turn) :
    ∃ last, connection.takeTurns turns = (turns.map fun _ => .error (.protocol fault), last) ∧
      last.unread = connection.unread := by
  induction turns generalizing connection with
  | nil => exact ⟨connection, rfl, rfl⟩
  | cons turn rest ih =>
    have faced : (connection.facing turn).Stuck fault := stuck
    obtain ⟨after, failed, same⟩ := faced.roundTrip (encodeCommand turn.command)
    have unmoved : after.unread = connection.unread := same
    have stillStuck : after.Stuck fault := by
      rw [Stuck, unmoved]
      exact stuck
    obtain ⟨last, results, kept⟩ := ih stillStuck
    refine ⟨last, ?_, kept.trans unmoved⟩
    simp [Connection.takeTurns, executor, failed, results]

end Connection

open Connection

/-- A protocol failure is permanent. Once a command on a connection, whatever state a session has
brought it to, fails because its reply cannot be decoded, every later command fails with that very
failure, whatever chunks the peer sends by then and afterwards. The refused bytes stay unread, and
there are none that could follow them and make a reply. -/
theorem malformed_forever (connection failed : Connection) (command : Command) (fault : String)
    (fails : executor.execute command connection = (.error (.protocol fault), failed))
    (turns : List Turn) :
    (failed.takeTurns turns).1 = turns.map (fun _ => .error (.protocol fault)) ∧
      (failed.takeTurns turns).2.unread = failed.unread ∧
      ∀ more, decode ((failed.takeTurns turns).2.unread ++ more) = .malformed fault := by
  have stuck : failed.Stuck fault := stuck_of_roundTrip fails
  obtain ⟨last, results, kept⟩ := stuck.takeTurns turns
  rw [results]
  refine ⟨rfl, kept, ?_⟩
  intro more
  rw [kept]
  exact stuck.decode_append more

/-- A peer whose first answer, in two pieces, has a type byte that there is none of, nested in an
array behind a number. -/
def garbled : Peer where
  answers := [[[42, 50, 13, 10, 58, 49], [13, 10, 64, 13, 10]]]
  isSilent := false

/-- It stays garbled although two sound replies follow, the first of them unasked. -/
theorem malformed_forever_garbled :
    let failed := (executor.execute (.llen "t") (opened false garbled)).2
    let sound : Peer := { answers := [[[58, 52, 13, 10]]], isSilent := true }
    executor.execute (.llen "t") (opened false garbled) =
        (.error (.protocol "Unknown type byte: @"), failed) ∧
      (failed.takeTurns [⟨.llen "t", [[58, 51, 13, 10]], sound⟩, ⟨.hgetall "t:a:1", [], sound⟩]).1 =
        [.error (.protocol "Unknown type byte: @"), .error (.protocol "Unknown type byte: @")] := by
  intro failed sound
  have fails : executor.execute (.llen "t") (opened false garbled) =
      (.error (.protocol "Unknown type byte: @"), failed) := by
    have result : (executor.execute (.llen "t") (opened false garbled)).1 =
        .error (.protocol "Unknown type byte: @") := rfl
    exact Prod.ext result rfl
  exact ⟨fails, (malformed_forever _ _ _ _ fails
    [⟨.llen "t", [[58, 51, 13, 10]], sound⟩, ⟨.hgetall "t:a:1", [], sound⟩]).1⟩

end Rowscan.Wire
