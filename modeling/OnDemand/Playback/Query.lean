import OnDemand.Playback.Stream

/-!
# Questions about position and speed

A question is answered from the position carried forward where that can be
trusted. Otherwise a status request is sent and its reply waited for: the request
is armed, the waiting caller looks whenever something has happened, and it gives
up when its time is over. Each of these is one step, so that the steps of several
callers can be interleaved with what the server tells.
-/

namespace OnDemand

/-- Something that happens at a stream while a caller waits. -/
inductive StreamInput where
  | read (bytes : Bytes)
  /-- The owner closes the stream. -/
  | close
  /-- The server closes the connection. -/
  | hangUp
  deriving Repr, DecidableEq

namespace Stream

/-- What happens to a stream. -/
def happen (stream : Stream) : StreamInput → Stream
  | .read bytes => stream.read bytes
  | .close => stream.close
  | .hangUp => stream.hangUp

/-- Make ready for the reply to a status request of the next transaction. -/
def arm (stream : Stream) : Except StreamError UInt8 × Stream :=
  match stream.refusal? .queryStatus with
  | some fault => (.error fault, stream)
  | none =>
      let (transaction, stream) := stream.drawTransaction
      (.ok transaction, { stream with awaited := some transaction, statusReply := none })

/-- No longer wait for the reply in a transaction. -/
def disarm (transaction : UInt8) (stream : Stream) : Stream :=
  if stream.awaited = some transaction then { stream with awaited := none } else stream

/-- Send the status request of a transaction. -/
def ask (transaction : UInt8) (stream : Stream) : Except StreamError Unit × Stream :=
  match stream.write (.status transaction stream.handle) with
  | (.error fault, stream) => (.error fault, stream.disarm transaction)
  | (.ok (), stream) => (.ok (), stream)

/-- What a reply answers to a question. -/
def answerOf (reply : StatusReply) : Except StreamError (Int32 × Scale) :=
  if reply.status.isOk then .ok (reply.position, reply.scale)
  else .error (.negative (.request .status) reply.status)

/-- A waiting caller looks for its reply, and for the end of the stream. Whatever
reply is there is taken away. -/
def look (transaction : UInt8) (stream : Stream) :
    Option (Except StreamError (Int32 × Scale)) × Stream :=
  let taken := { stream with statusReply := none }
  match stream.statusReply.filter fun reply => reply.transaction = transaction with
  | some reply => (some (answerOf reply), taken)
  | none =>
      match stream.state with
      | .lost => (some (.error .lost), taken)
      | .closed => (some (.error (.invalidState .queryStatus .closed)), taken)
      | _ => (none, taken)

def giveUp (transaction : UInt8) (stream : Stream) :
    Except StreamError (Int32 × Scale) × Stream :=
  (.error (.replyTimeout stream.settings.replyTimeoutMs), stream.disarm transaction)

/-- A single caller waits while things happen, looking after each of them, and gives
up after the last. What happens after its answer happens all the same. -/
def await (transaction : UInt8) (inputs : List StreamInput) (stream : Stream) :
    Except StreamError (Int32 × Scale) × Stream :=
  match stream.look transaction with
  | (some answer, stream) => (answer, inputs.foldl happen stream)
  | (none, stream) =>
      match inputs with
      | [] => stream.giveUp transaction
      | input :: rest => (stream.happen input).await transaction rest

/-- A single caller asks the server. What happens meanwhile depends on the transaction
of the request. -/
def queryStatus (inputs : UInt8 → List StreamInput) (stream : Stream) :
    Except StreamError (Int32 × Scale) × Stream :=
  match stream.arm with
  | (.error fault, stream) => (.error fault, stream)
  | (.ok transaction, stream) =>
      match stream.ask transaction with
      | (.error fault, stream) => (.error fault, stream)
      | (.ok (), stream) => stream.await transaction (inputs transaction)

/-- The current position in milliseconds. -/
def getPosition (inputs : UInt8 → List StreamInput) (stream : Stream) :
    Except StreamError Float × Stream :=
  match stream.refusal? .queryPosition with
  | some fault => (.error fault, stream)
  | none =>
      match stream.position.estimate stream.now with
      | (.error fault, position) => (.error (.unsupportedSpeed fault), { stream with position })
      | (.ok (.position milliseconds), position) => (.ok milliseconds, { stream with position })
      | (.ok (.resync _), position) =>
          match { stream with position }.queryStatus inputs with
          | (.error fault, stream) => (.error fault, stream)
          | (.ok (milliseconds, _), stream) => (.ok (Float.ofInt milliseconds.toInt), stream)

def getSpeed (inputs : UInt8 → List StreamInput) (stream : Stream) :
    Except StreamError Scale × Stream :=
  match stream.refusal? .querySpeed with
  | some fault => (.error fault, stream)
  | none =>
      match stream.position.speed with
      | .ok scale => (.ok scale, stream)
      | .error _ =>
          match stream.queryStatus inputs with
          | (.error fault, stream) => (.error fault, stream)
          | (.ok (_, scale), stream) => (.ok scale, stream)

end Stream

end OnDemand
