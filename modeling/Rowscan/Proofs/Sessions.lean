import Rowscan.Proofs.Framing
import Rowscan.Wire.Session

/-!
Whole sessions. The client reads chunk by chunk and tries to decode what it has; `StreamReader` has
each answer at once and decodes one time for each request. Both show the same, however the answers
are cut (`session_eq_stream`), since a reply is settled by its own bytes. If each answer is one
reply, every request is paired with its own and nothing is left in between (`replies_paired`).
-/
namespace Rowscan.Wire

/-- What a reply is to the request that it answers: an error reply is a failure of the server. -/
def outcomeOf : Reply → Except Failure Reply
  | .error text => .error (.server text)
  | reply => .ok reply

/-- What a session shows: whether the newer wire format is in use, or why connecting failed; the
results of the commands; and the requests that the peer received. -/
structure Transcript where
  connected : Except Failure Bool
  results : List (Except Failure Reply)
  requests : List (List UInt8)

namespace Connection

/-- Runs commands one after another, whether or not they fail. -/
def executeAll (connection : Connection) : List Command → List (Except Failure Reply) × Connection
  | [] => ([], connection)
  | command :: rest =>
    let (result, next) := executor.execute command connection
    let (results, last) := next.executeAll rest
    (result :: results, last)

/-- Connects and runs commands. -/
def session (isClustered wantsNewer : Bool) (peer : Peer) (commands : List Command) : Transcript :=
  match connect isClustered wantsNewer peer with
  | (.ok (), connection) =>
    let (results, last) := connection.executeAll commands
    ⟨.ok connection.isNewer, results, last.sent.reverse⟩
  | (.error failure, connection) => ⟨.error failure, [], connection.sent.reverse⟩

end Connection

/-! ## Whole answers -/

/-- A client that has the whole answer to a request at once. -/
structure StreamReader where
  /-- The bytes of the answers so far that were not decoded. -/
  unread : List UInt8
  /-- The answers to the requests to come. -/
  answers : List (List UInt8)
  isSilent : Bool
  isNewer : Bool
  /-- The requests sent so far, in order. -/
  requests : List (List UInt8)

namespace StreamReader

/-- Before any request. -/
def opened (isSilent : Bool) (answers : List (List UInt8)) : StreamReader :=
  ⟨[], answers, isSilent, false, []⟩

/-- Decodes once. A reply is consumed, malformed bytes are not, and where the bytes end inside a
reply there is nothing more to wait for than `onWait`. -/
def decodeOnce (onWait : Failure) (bytes : List UInt8) : Except Failure Reply × List UInt8 :=
  match decode bytes with
  | .done reply rest => (.ok reply, rest)
  | .malformed fault => (.error (.protocol fault), bytes)
  | .incomplete => (.error onWait, bytes)

/-- What there is to wait for: a peer that is not silent ends the stream after its last answer. -/
def onWait (reader : StreamReader) : Failure :=
  if reader.answers = [] ∧ reader.isSilent = false then .connection "Connection closed"
  else .timeout

/-- Sends a request and takes its answer. -/
def send (reader : StreamReader) (request : List UInt8) : StreamReader :=
  { reader with
    unread := reader.unread ++ reader.answers.head?.getD []
    answers := reader.answers.tail
    requests := reader.requests ++ [request] }

/-- Sends a request and reads its reply. -/
def ask (reader : StreamReader) (request : List UInt8) : Except Failure Reply × StreamReader :=
  let sent := reader.send request
  let (result, unread) := decodeOnce sent.onWait sent.unread
  (result.bind outcomeOf, { sent with unread })

/-- Starts a session: asks for the newer wire format if that is wanted. An error reply refuses it,
and another failure is final. -/
def start (reader : StreamReader) (wantsNewer : Bool) : Except Failure Unit × StreamReader :=
  if wantsNewer then
    match reader.ask (encodeHello 3) with
    | (.ok _, accepted) => (.ok (), { accepted with isNewer := true })
    | (.error (.server _), refused) => (.ok (), refused)
    | (.error failure, failed) => (.error failure, failed)
  else (.ok (), reader)

/-- Asks for the replies to commands, one after another. -/
def askAll (reader : StreamReader) : List Command → List (Except Failure Reply) × StreamReader
  | [] => ([], reader)
  | command :: rest =>
    let (result, next) := reader.ask (encodeCommand command)
    let (results, last) := next.askAll rest
    (result :: results, last)

/-- Starts a session and runs commands, over whole answers. -/
def session (wantsNewer isSilent : Bool) (answers : List (List UInt8)) (commands : List Command) :
    Transcript :=
  match (opened isSilent answers).start wantsNewer with
  | (.ok (), started) =>
    let (results, last) := started.askAll commands
    ⟨.ok started.isNewer, results, last.requests⟩
  | (.error failure, failed) => ⟨.error failure, [], failed.requests⟩

end StreamReader

/-! ## Chunks -/

/-- A connection has read part of the bytes that a reader of whole answers has. -/
structure Connection.Follows (connection : Connection) (reader : StreamReader) : Prop where
  unread : connection.unread ++ connection.arriving.flatten = reader.unread
  answers : connection.peer.answers.map List.flatten = reader.answers
  isSilent : connection.peer.isSilent = reader.isSilent
  isNewer : connection.isNewer = reader.isNewer
  requests : connection.sent.reverse = reader.requests

namespace Connection

open StreamReader

/-- Reading chunk by chunk is decoding once: what a beginning is taken for, the whole is. -/
theorem readReply_eq_decodeOnce (onWait : Failure) (unread : List UInt8)
    (chunks : List (List UInt8)) :
    let (result, left, arriving) := readReply onWait unread chunks
    (result, left ++ arriving.flatten) = decodeOnce onWait (unread ++ chunks.flatten) := by
  induction chunks generalizing unread with
  | nil =>
    rw [readReply, decodeOnce, List.flatten_nil, List.append_nil]
    cases decode unread <;> simp
  | cons chunk more ih =>
    have extended := decode_extends unread (chunk :: more).flatten
    rw [readReply]
    cases read : decode unread with
    | done reply rest => rw [decodeOnce, extended.eq_done read]
    | malformed fault => rw [decodeOnce, extended.eq_malformed read]
    | incomplete =>
      have later := ih (unread ++ chunk)
      rw [List.append_assoc, ← List.flatten_cons] at later
      exact later

private theorem refuseError_eq (result : Except Failure Reply) :
    refuseError result = result.bind outcomeOf := by
  cases result with
  | error failure => rfl
  | ok reply => cases reply <;> rfl

variable {connection : Connection} {reader : StreamReader}

theorem Follows.sendRequest (follows : connection.Follows reader) (request : List UInt8) :
    (connection.sendRequest request).Follows (reader.send request) where
  unread := by
    have answer : (connection.peer.answers.head?.getD []).flatten =
        reader.answers.head?.getD [] := by
      rw [← follows.answers, List.head?_map]
      cases connection.peer.answers.head? <;> rfl
    rw [Connection.sendRequest, StreamReader.send, List.flatten_append,
      List.flatten_filter_not_isEmpty, answer, ← List.append_assoc, follows.unread]
  answers := by
    rw [Connection.sendRequest, StreamReader.send, ← follows.answers, List.map_tail]
  isSilent := follows.isSilent
  isNewer := follows.isNewer
  requests := by
    rw [Connection.sendRequest, StreamReader.send, List.reverse_cons, follows.requests]

theorem Follows.onWait (follows : connection.Follows reader) :
    waitingFailure connection.peer = reader.onWait := by
  rw [waitingFailure, StreamReader.onWait, ← follows.isSilent, ← follows.answers]
  simp

/-- A connection and a reader of whole answers get the same result for a request, and go on
alike. -/
theorem Follows.roundTrip (follows : connection.Follows reader) (request : List UInt8) :
    ∃ result next after, connection.roundTrip request = (result, next) ∧
      reader.ask request = (result, after) ∧ next.Follows after := by
  have sent := follows.sendRequest request
  have once := readReply_eq_decodeOnce (reader.send request).onWait
    (connection.sendRequest request).unread (connection.sendRequest request).arriving
  rw [sent.unread] at once
  rcases received : readReply (reader.send request).onWait (connection.sendRequest request).unread
    (connection.sendRequest request).arriving with ⟨result, left, arriving⟩
  rw [received] at once
  refine ⟨result.bind outcomeOf, { connection.sendRequest request with unread := left, arriving },
    { reader.send request with unread := left ++ arriving.flatten }, ?_, ?_,
    rfl, sent.answers, sent.isSilent, sent.isNewer, sent.requests⟩
  · rw [← refuseError_eq, Connection.roundTrip, sent.onWait, received]
  · rw [StreamReader.ask, ← once]

/-- So do they for several commands. -/
theorem Follows.executeAll (follows : connection.Follows reader) (commands : List Command) :
    ∃ results last final, connection.executeAll commands = (results, last) ∧
      reader.askAll commands = (results, final) ∧ last.Follows final := by
  induction commands generalizing connection reader with
  | nil => exact ⟨[], connection, reader, rfl, rfl, follows⟩
  | cons command rest ih =>
    obtain ⟨result, next, after, answered, asked, goOn⟩ :=
      follows.roundTrip (encodeCommand command)
    obtain ⟨results, last, final, answers, asks, finish⟩ := ih goOn
    refine ⟨result :: results, last, final, ?_, ?_, finish⟩
    · simp [Connection.executeAll, executor, answered, answers]
    · simp [StreamReader.askAll, asked, asks]

private theorem follows_opened (isClustered : Bool) (peer : Peer) :
    (opened isClustered peer).Follows
    (StreamReader.opened peer.isSilent (peer.answers.map List.flatten)) :=
  ⟨rfl, rfl, rfl, rfl, rfl⟩

/-- Connecting ends as starting does. -/
theorem follows_connect (isClustered wantsNewer : Bool) (peer : Peer) :
    ∃ outcome connection reader, connect isClustered wantsNewer peer = (outcome, connection) ∧
      (StreamReader.opened peer.isSilent (peer.answers.map List.flatten)).start wantsNewer =
        (outcome, reader) ∧
      connection.Follows reader := by
  have follows := follows_opened isClustered peer
  cases wantsNewer with
  | false => exact ⟨_, _, _, rfl, rfl, follows⟩
  | true =>
    obtain ⟨result, next, after, answered, asked, goOn⟩ := follows.roundTrip (encodeHello 3)
    rw [connect, if_pos rfl, answered, start, if_pos rfl, asked]
    cases result with
    | ok reply =>
      exact ⟨_, _, _, rfl, rfl, goOn.unread, goOn.answers, goOn.isSilent, rfl, goOn.requests⟩
    | error failure => cases failure <;> exact ⟨_, _, _, rfl, rfl, goOn⟩

end Connection

/-- Where the answers are cut never shows. A session that reads them chunk by chunk is connected,
answers its commands and sends its requests as one that decodes whole answers. -/
theorem session_eq_stream (isClustered wantsNewer : Bool) (peer : Peer) (commands : List Command) :
    Connection.session isClustered wantsNewer peer commands =
      StreamReader.session wantsNewer peer.isSilent (peer.answers.map List.flatten) commands := by
  obtain ⟨outcome, connection, reader, connects, starts, follows⟩ :=
    Connection.follows_connect isClustered wantsNewer peer
  rw [Connection.session, connects, StreamReader.session, starts]
  cases outcome with
  | error failure => simp [follows.requests]
  | ok done =>
    obtain ⟨results, last, final, answers, asks, finish⟩ := follows.executeAll commands
    simp [answers, asks, follows.isNewer, finish.requests]

/-! ## One reply in each answer -/

/-- Each answer is one reply and nothing else. -/
def Framed (answers : List (List UInt8)) (replies : List Reply) : Prop :=
  answers.map decode = replies.map fun reply => .done reply []

/-- The requests of a session, in order. -/
def requestsOf (wantsNewer : Bool) (commands : List Command) : List (List UInt8) :=
  (if wantsNewer then [encodeHello 3] else []) ++ commands.map encodeCommand

namespace StreamReader

variable {reader : StreamReader} {replies : List Reply} {reply : Reply}

/-- A request takes the next reply, and leaves nothing unread. -/
theorem ask_framed (nothing : reader.unread = []) (framed : Framed reader.answers (reply :: replies))
    (request : List UInt8) :
    reader.ask request = (outcomeOf reply, { reader.send request with unread := [] }) ∧
      Framed (reader.send request).answers replies := by
  obtain ⟨unread, answers, isSilent, isNewer, requests⟩ := reader
  cases answers with
  | nil => cases framed
  | cons answer more =>
    obtain ⟨first, rest⟩ := List.cons.inj framed
    cases nothing
    have once (onWait : Failure) : decodeOnce onWait answer = (.ok reply, []) := by
      rw [decodeOnce, first]
    constructor
    · simp [ask, send, once, Except.bind]
    · exact rest

/-- Commands take their replies in turn, and leave nothing unread. -/
theorem askAll_framed (nothing : reader.unread = []) (framed : Framed reader.answers replies)
    {commands : List Command} (enough : commands.length ≤ replies.length) :
    ∃ final, reader.askAll commands = ((replies.take commands.length).map outcomeOf, final) ∧
      final.unread = [] ∧ final.requests = reader.requests ++ commands.map encodeCommand := by
  induction commands generalizing reader replies with
  | nil => exact ⟨reader, rfl, nothing, by simp⟩
  | cons command rest ih =>
    cases replies with
    | nil => cases enough
    | cons reply replies =>
      obtain ⟨asked, later⟩ := ask_framed nothing framed (encodeCommand command)
      have consumed :
          StreamReader.unread { reader.send (encodeCommand command) with unread := [] } = [] := rfl
      obtain ⟨final, asks, left, requests⟩ := ih consumed later (Nat.le_of_succ_le_succ enough)
      refine ⟨final, ?_, left, requests.trans ?_⟩
      · simp [askAll, asked, asks]
      · simp [send]

/-- Starting takes a reply if the newer wire format is asked for, and uses that format unless the
reply is an error. -/
theorem start_framed (isSilent : Bool) {wantsNewer : Bool} {answers : List (List UInt8)}
    (framed : Framed answers replies) (enough : wantsNewer = true → replies ≠ []) :
    ∃ started, (opened isSilent answers).start wantsNewer = (.ok (), started) ∧
      started.isNewer = (wantsNewer && !replies.head?.any Reply.isError) ∧ started.unread = [] ∧
      Framed started.answers (replies.drop (requestsOf wantsNewer []).length) ∧
      started.requests = requestsOf wantsNewer [] := by
  cases wantsNewer with
  | false => exact ⟨_, rfl, rfl, rfl, framed, rfl⟩
  | true =>
    cases replies with
    | nil => exact absurd rfl (enough rfl)
    | cons reply replies =>
      have none : (opened isSilent answers).unread = [] := rfl
      obtain ⟨asked, later⟩ := ask_framed none framed (encodeHello 3)
      rw [start, if_pos rfl, asked]
      cases reply <;> exact ⟨_, rfl, rfl, rfl, later, rfl⟩

end StreamReader

/-- Every request is paired with its own reply. If the peer answers each with one reply, cut in
whatever way, then connecting succeeds and uses the newer wire format unless it was refused by an
error reply; the commands so far have the results that their replies are, nothing is left unread,
and the peer received the requests in order. -/
theorem replies_paired (isClustered wantsNewer : Bool) (peer : Peer) (commands : List Command)
    (replies : List Reply) (framed : Framed (peer.answers.map List.flatten) replies)
    (enough : (requestsOf wantsNewer commands).length ≤ replies.length) :
    ∃ connection, Connection.connect isClustered wantsNewer peer = (.ok (), connection) ∧
      connection.isNewer = (wantsNewer && !replies.head?.any Reply.isError) ∧
      ∀ before after, before ++ after = commands →
        (connection.executeAll before).1 =
          ((replies.drop (requestsOf wantsNewer []).length).take before.length).map outcomeOf ∧
        (connection.executeAll before).2.unread = [] ∧
        (connection.executeAll before).2.sent.reverse = requestsOf wantsNewer before := by
  have room : (requestsOf wantsNewer []).length + commands.length ≤ replies.length := by
    simpa [requestsOf] using enough
  have greeted : wantsNewer = true → replies ≠ [] := by
    rintro rfl rfl
    simp [requestsOf] at room
  obtain ⟨started, starts, newer, nothing, later, requested⟩ :=
    StreamReader.start_framed peer.isSilent framed greeted
  obtain ⟨outcome, connection, reader, connects, startsToo, follows⟩ :=
    Connection.follows_connect isClustered wantsNewer peer
  cases starts.symm.trans startsToo
  refine ⟨connection, connects, follows.isNewer.trans newer, ?_⟩
  rintro before after rfl
  have fits : before.length ≤ (replies.drop (requestsOf wantsNewer []).length).length := by
    rw [List.length_append] at room
    rw [List.length_drop]
    omega
  obtain ⟨final, asks, left, requests⟩ := StreamReader.askAll_framed nothing later fits
  obtain ⟨results, last, _, answers, asksToo, finish⟩ := follows.executeAll before
  cases asks.symm.trans asksToo
  rw [answers]
  refine ⟨rfl, ?_, ?_⟩
  · exact (List.append_eq_nil_iff.1 (finish.unread.trans left)).1
  · rw [finish.requests, requests, requested]
    simp [requestsOf]

/-- A peer that refuses the newer wire format, counts to four, and fails. Its answers come in
pieces. -/
def piecemeal : Peer where
  answers := [[[45, 69], [82, 82, 13], [10]], [[58, 52, 13], [10]],
    [[33, 51, 13, 10, 98], [97, 100, 13, 10]]]
  isSilent := false

theorem replies_paired_piecemeal :
    Framed (piecemeal.answers.map List.flatten) [.error "ERR", .integer 4, .error "bad"] ∧
    ∃ connection, Connection.connect false true piecemeal = (.ok (), connection) ∧
      connection.isNewer = false ∧
      (connection.executeAll [.llen "t", .hgetall "t:a:1"]).1 =
        [.ok (.integer 4), .error (.server "bad")] ∧
      (connection.executeAll [.llen "t"]).2.unread = [] := by
  have framed : Framed (piecemeal.answers.map List.flatten)
      [.error "ERR", .integer 4, .error "bad"] := rfl
  obtain ⟨connection, connected, older, paired⟩ := replies_paired false true piecemeal
    [.llen "t", .hgetall "t:a:1"] _ framed (by decide)
  obtain ⟨results, -, -⟩ := paired [.llen "t", .hgetall "t:a:1"] [] rfl
  obtain ⟨-, left, -⟩ := paired [.llen "t"] _ rfl
  exact ⟨framed, connection, connected, older, results, left⟩

end Rowscan.Wire
