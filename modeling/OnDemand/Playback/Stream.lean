import OnDemand.Playback.Position
import OnDemand.Settings.Stream
import OnDemand.StreamControl.Framing
import OnDemand.Text.Milliseconds

/-!
# Streams

A stream is controlled over a connection of its own. Requests are sent without
waiting for their replies; what the server tells, in replies and on its own, moves
the state of the stream and its position. After too many failed reads in a row the
stream is lost. Only questions about position and speed may have to wait for a
reply; they are put together from the steps in `Playback.Query`.
-/

namespace OnDemand

/-- Where a stream stands. -/
inductive StreamState where
  | unconnected
  | connected
  | playing
  | paused
  | lost
  | closed
  deriving Repr, DecidableEq

namespace StreamState

/-- Whether requests can be sent. -/
def isOpen : StreamState → Bool
  | connected | playing | paused => true
  | _ => false

def name : StreamState → String
  | unconnected => "unconnected"
  | connected => "connected"
  | playing => "playing"
  | paused => "paused"
  | lost => "lost"
  | closed => "closed"

end StreamState

/-- What the owner of a stream can ask of it. -/
inductive StreamOperation where
  | connect
  | play
  | pause
  | resume
  | jump
  | reset
  | queryPosition
  | querySpeed
  | queryStatus
  | send
  deriving Repr, DecidableEq

def StreamOperation.name : StreamOperation → String
  | connect => "connect"
  | play => "play"
  | pause => "pause"
  | resume => "resume"
  | jump => "jump"
  | reset => "reset"
  | queryPosition => "query position"
  | querySpeed => "query speed"
  | queryStatus => "query status"
  | send => "send"

/-- Why an operation on a stream failed. -/
inductive StreamError where
  | invalidState (operation : StreamOperation) (state : StreamState)
  /-- The connection could not be made or written to. -/
  | socket
  | unencodable (fault : WireError)
  /-- The server refused a request. -/
  | negative (opcode : StreamOpcode) (status : StreamStatus)
  | unsupportedSpeed (speed : UnsupportedSpeed)
  | replyTimeout (milliseconds : UInt64)
  | lost
  deriving Repr, DecidableEq

def StreamError.name : StreamError → String
  | invalidState .. => "InvalidState"
  | socket => "Socket"
  | unencodable _ => "Wire"
  | negative .. => "Negative"
  | unsupportedSpeed _ => "UnsupportedSpeed"
  | replyTimeout _ => "ReplyTimeout"
  | lost => "Lost"

/-- The text of a failed operation. Of a socket fault only its kind is known. -/
def StreamError.message : StreamError → String
  | invalidState operation state => "Cannot " ++ operation.name ++ " while " ++ state.name
  | socket => "Socket error"
  | unencodable fault => "Wire error: " ++ fault.message
  | negative opcode status => "Server refused " ++ opcode.name ++ ": " ++ status.text
  | unsupportedSpeed speed => speed.message
  | replyTimeout milliseconds => "No reply within " ++ Text.milliseconds milliseconds.toNat
  | lost => "Stream connection lost"

/-- What the owner of a stream is told. -/
inductive StreamEvent where
  | playResponse (status : StreamStatus) (position : Int32) (scale : Scale)
  | pauseResponse (status : StreamStatus) (position : Int32)
  | resumeResponse (status : StreamStatus) (position : Int32) (scale : Scale)
  | jumpResponse (status : StreamStatus) (position : Int32) (scale : Scale)
  | resetResponse (status : StreamStatus)
  | beginOfStream
  | endOfStream
  /-- Too many reads failed in a row. -/
  | lost
  deriving Repr, DecidableEq

def StreamEvent.name : StreamEvent → String
  | playResponse .. => "PlayResponse"
  | pauseResponse .. => "PauseResponse"
  | resumeResponse .. => "ResumeResponse"
  | jumpResponse .. => "JumpResponse"
  | resetResponse _ => "ResetResponse"
  | beginOfStream => "BeginOfStream"
  | endOfStream => "EndOfStream"
  | lost => "Lost"

/-- The reply to a status request. -/
structure StatusReply where
  transaction : UInt8
  status : StreamStatus
  position : Int32
  scale : Scale
  deriving Repr, DecidableEq

/-- A controlled stream. -/
structure Stream where
  handle : UInt32
  settings : StreamSettings := {}
  now : Time := 0
  state : StreamState := .unconnected
  position : PlayPosition
  /-- The speed that the next play request asks for. -/
  requestedScale : Scale := .normal
  /-- Where the next play request starts. -/
  target : Option Int32 := none
  nextTransaction : UInt8 := 1
  /-- The status request whose reply is waited for. -/
  awaited : Option UInt8 := none
  statusReply : Option StatusReply := none
  readFailures : Nat := 0
  reverseDoneSeen : Bool := false
  /-- Whether there is a connection to write to. -/
  hasConnection : Bool := false
  /-- Whether the connection takes what is written. -/
  linkUp : Bool := true
  /-- Whether the connection is read from. -/
  isReading : Bool := false
  /-- What was read and is not a whole message yet. -/
  buffer : Bytes := []
  /-- The messages written so far, earliest first. -/
  written : List StreamMessage := []
  /-- The events told so far, earliest first. -/
  events : List StreamEvent := []

namespace Stream

/-- A stream that nothing has been asked of yet. -/
def initial (handle : UInt32) (settings : StreamSettings) : Stream where
  handle := handle
  settings := settings
  position := .withLimits (settings.boundaryThresholdMs.toNat * 1000)
    (settings.resyncIntervalSecs.toNat * 1000000)

def tell (event : StreamEvent) (stream : Stream) : Stream :=
  { stream with events := stream.events ++ [event] }

def passTime (duration : Time) (stream : Stream) : Stream :=
  { stream with now := stream.now + duration }

/-- The length of the asset is this, or is not known. -/
def setAssetEnd (milliseconds : Option UInt32) (stream : Stream) : Stream :=
  { stream with position := stream.position.setAssetEnd milliseconds }

/-! ## What the server tells -/

/-- The state of a stream that plays at a scale. -/
def stateAt (scale : Scale) : StreamState := if scale.isStopped then .paused else .playing

/-- A server carried out a request. -/
def accept (request : StreamRequest) (position : Int32) (scale : Scale) (stream : Stream) :
    Stream :=
  let updated := stream.position.update position scale stream.now
  match request with
  | .play | .jump | .resume =>
      { stream with
        position := updated.setPaused scale.isStopped
        state := stateAt scale
        reverseDoneSeen := false }
  | .pause => { stream with position := updated.setPaused true, state := .paused }
  | .status => { stream with position := updated }
  | .reset => { stream with position := stream.position.invalidate, state := .connected }

/-- The event that tells of a reply; there is none for a status. -/
def eventOf (request : StreamRequest) (status : StreamStatus) (position : Int32)
    (scale : Scale) : Option StreamEvent :=
  match request with
  | .play => some (.playResponse status position scale)
  | .pause => some (.pauseResponse status position)
  | .resume => some (.resumeResponse status position scale)
  | .jump => some (.jumpResponse status position scale)
  | .reset => some (.resetResponse status)
  | .status => none

/-- The reply to the awaited status request is kept for whoever waits. -/
def settle (reply : StatusReply) (stream : Stream) : Stream :=
  if stream.awaited = some reply.transaction then
    { stream with awaited := none, statusReply := some reply }
  else stream

/-- A reply arrives. -/
def onReply (request : StreamRequest) (header : StreamHeader) (position : Int32)
    (scale : Scale) (stream : Stream) : Stream :=
  let stream := if header.status.isOk then stream.accept request position scale else stream
  match eventOf request header.status position scale with
  | some event => stream.tell event
  | none => stream.settle ⟨header.transaction, header.status, position, scale⟩

/-- Playback is done: at the end of the asset, at its start, or, every second time
that the stream was moving backwards, at its start as well. -/
def onDone (position : Int32) (scale : Scale) (mode : StreamMode) (stream : Stream) : Stream :=
  let wasReverse := stream.position.scale.isReverse && !stream.position.isPaused
  let updated := stream.position.update position scale stream.now
  if mode = .endOfStream ∧ scale.isStopped then
    { stream with position := updated.setPaused true, state := .paused }.tell
      (if position = 0 then .beginOfStream else .endOfStream)
  else
    let stream := { stream with position := updated }
    if wasReverse || scale.isReverse then
      if stream.reverseDoneSeen then
        { stream with reverseDoneSeen := false }.tell .beginOfStream
      else { stream with reverseDoneSeen := true }
    else stream

/-- A message arrives. Requests are not for a client and change nothing. -/
def onMessage (stream : Stream) (message : StreamMessage) : Stream :=
  match message.body, message.header.opcode with
  | .done position scale mode, _ => stream.onDone position scale mode
  | .reply position scale, .reply request =>
      stream.onReply request message.header position scale
  | _, _ => stream

def read (bytes : Bytes) (stream : Stream) : Stream :=
  if stream.isReading then
    let (messages, rest) := StreamMessage.splitFrames (stream.buffer ++ bytes)
    messages.foldl onMessage { stream with readFailures := 0, buffer := rest }
  else stream

/-- A read fails. At the limit of failures in a row the stream is lost. -/
def readFails (stream : Stream) : Stream :=
  if stream.isReading then
    let failures := stream.readFailures + 1
    if failures < stream.settings.maxReadFailures.toNat then
      { stream with readFailures := failures }
    else
      { stream with
        readFailures := failures
        state := .lost
        position := stream.position.invalidate
        awaited := none
        isReading := false }.tell .lost
  else stream

/-- The server closes the connection, and reads fail until the stream is lost. -/
def hangUp (stream : Stream) : Stream :=
  Nat.repeat readFails (max 1 stream.settings.maxReadFailures.toNat) stream

/-! ## Operations -/

/-- Make the connection, if there is none yet. -/
def connect (reachable : Bool) (stream : Stream) : Except StreamError Unit × Stream :=
  if stream.hasConnection then (.ok (), stream)
  else if stream.state ≠ .unconnected then
    (.error (.invalidState .connect stream.state), stream)
  else if reachable then
    (.ok (), { stream with hasConnection := true, isReading := true, state := .connected })
  else (.error .socket, stream)

/-- Why an operation that needs an open stream cannot be carried out. -/
def refusal? (operation : StreamOperation) (stream : Stream) : Option StreamError :=
  if stream.state.isOpen then none
  else if stream.state = .lost then some .lost
  else some (.invalidState operation stream.state)

/-- Draw a transaction; none is zero. -/
def drawTransaction (stream : Stream) : UInt8 × Stream :=
  let transaction := stream.nextTransaction
  (transaction,
    { stream with nextTransaction := if transaction = 255 then 1 else transaction + 1 })

/-- Write a message to the connection. -/
def write (message : StreamMessage) (stream : Stream) : Except StreamError Unit × Stream :=
  match message.encode with
  | .error fault => (.error (.unencodable fault), stream)
  | .ok _ =>
      if ¬ stream.hasConnection then (.error (.invalidState .send stream.state), stream)
      else if stream.linkUp then
        (.ok (), { stream with written := stream.written ++ [message] })
      else (.error .socket, stream)

/-- Send the message of the next transaction. -/
def send (build : UInt8 → StreamMessage) (stream : Stream) : Except StreamError Unit × Stream :=
  let (transaction, stream) := stream.drawTransaction
  stream.write (build transaction)

/-- Send a message if the stream is open. -/
def request (operation : StreamOperation) (build : UInt8 → StreamMessage) (stream : Stream) :
    Except StreamError Unit × Stream :=
  match stream.refusal? operation with
  | some fault => (.error fault, stream)
  | none => stream.send build

/-- Where a play request starts: at the target if one is set, else at the position
as far as it is known. -/
def startPosition (stream : Stream) : Except StreamError Int32 × Stream :=
  match stream.target with
  | some target => (.ok target, { stream with target := none })
  | none =>
      match stream.position.estimate stream.now with
      | (.error fault, position) => (.error (.unsupportedSpeed fault), { stream with position })
      | (.ok (.position milliseconds), position) =>
          (.ok milliseconds.round.toInt32, { stream with position })
      | (.ok (.resync _), position) =>
          (.ok (if position.isStreaming then position.milliseconds.round.toInt32
              else currentPosition),
            { stream with position })

/-- Play at the requested speed, from where the server stands or from where this
stream is set or believed to be. -/
def play (reachable fromCurrent : Bool) (stream : Stream) : Except StreamError Unit × Stream :=
  match stream.connect reachable with
  | (.error fault, stream) => (.error fault, stream)
  | (.ok (), stream) =>
      match stream.refusal? .play with
      | some fault => (.error fault, stream)
      | none =>
          let scale := stream.requestedScale
          let (start, stream) :=
            if fromCurrent then (.ok currentPosition, stream) else stream.startPosition
          match start with
          | .error fault => (.error fault, stream)
          | .ok start =>
              stream.send fun transaction =>
                .play transaction stream.handle start endPosition scale

/-- Stand still at the current position. -/
def pause (stream : Stream) : Except StreamError Unit × Stream :=
  stream.request .pause fun transaction => .pause transaction stream.handle currentPosition

/-- Play on from the current position at the requested speed. -/
def resume (stream : Stream) : Except StreamError Unit × Stream :=
  stream.request .resume fun transaction =>
    .resume transaction stream.handle currentPosition stream.requestedScale

/-- Ask the server to reset the stream. -/
def reset (stream : Stream) : Except StreamError Unit × Stream :=
  stream.request .reset fun transaction => .reset transaction stream.handle

/-- Play on at another speed. -/
def setSpeed (reachable : Bool) (scale : Scale) (stream : Stream) :
    Except StreamError Unit × Stream :=
  match scale.rate with
  | .error fault => (.error (.unsupportedSpeed fault), stream)
  | .ok _ => { stream with requestedScale := scale }.play reachable true

/-- Play on from another position. -/
def setPosition (reachable : Bool) (milliseconds : Int32) (stream : Stream) :
    Except StreamError Unit × Stream :=
  { stream with
    target := some milliseconds
    position := stream.position.setPaused false }.play reachable false

/-- Play a part of the asset at a speed. -/
def jump (reachable : Bool) (start stop : Int32) (scale : Scale) (stream : Stream) :
    Except StreamError Unit × Stream :=
  match scale.rate with
  | .error fault => (.error (.unsupportedSpeed fault), stream)
  | .ok _ =>
      match stream.connect reachable with
      | (.error fault, stream) => (.error fault, stream)
      | (.ok (), stream) =>
          match stream.refusal? .jump with
          | some fault => (.error fault, stream)
          | none =>
              { stream with requestedScale := scale }.send fun transaction =>
                .jump transaction stream.handle start stop scale

/-- Close the connection for good. -/
def close (stream : Stream) : Stream :=
  { stream with
    hasConnection := false
    isReading := false
    state := .closed
    awaited := if stream.state = .closed then stream.awaited else none }

end Stream

end OnDemand
