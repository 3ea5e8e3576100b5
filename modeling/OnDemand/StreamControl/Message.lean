import OnDemand.StreamControl.Mode
import OnDemand.StreamControl.Opcode
import OnDemand.StreamControl.Scale
import OnDemand.StreamControl.Status
import OnDemand.Wire.Reader

/-!
# Stream messages

A header of eight bytes and a body whose length the operation fixes. Positions
are milliseconds from the start of the asset; the least and the greatest of them
stand for the current position and the end of the asset. A body that does not
belong to the operation of its header has no encoding.
-/

namespace OnDemand

/-- The position that stands for the current one. -/
def currentPosition : Int32 := -2147483648

/-- The position that stands for the end of the asset. -/
def endPosition : Int32 := 2147483647

/-- The header of a stream message. -/
structure StreamHeader where
  transaction : UInt8
  opcode : StreamOpcode
  status : StreamStatus
  handle : UInt32
  deriving Repr, DecidableEq

inductive StreamBody where
  | play (start stop : Int32) (scale : Scale)
  | jump (start stop : Int32) (scale : Scale)
  | pause (stop : Int32)
  | resume (start : Int32) (scale : Scale)
  | empty
  | reply (position : Int32) (scale : Scale)
  | done (position : Int32) (scale : Scale) (mode : StreamMode)
  deriving Repr, DecidableEq

structure StreamMessage where
  header : StreamHeader
  body : StreamBody
  deriving Repr, DecidableEq

namespace StreamHeader

def length : Nat := 8

def version : UInt8 := 0x01

def bytes (header : StreamHeader) : Bytes :=
  [version, header.transaction, header.opcode.toByte, header.status.value]
    ++ Wire.word32 header.handle

/-- The operation of a number, or the fault of a number without one. -/
def opcodeOf (value : UInt8) : Except WireError StreamOpcode :=
  match StreamOpcode.ofByte? value with
  | some opcode => .ok opcode
  | none => .error (.unknownOpcode value)

/-- The header at the front of the input. All its bytes must be there. -/
def read : Reader StreamHeader := do
  Reader.need length
  let found ← Reader.byte
  if found ≠ version then throw (.unsupportedVersion found)
  let transaction ← Reader.byte
  let opcode ← opcodeOf (← Reader.byte)
  let status := ⟨← Reader.byte⟩
  return ⟨transaction, opcode, status, ← Reader.word32⟩

end StreamHeader

namespace StreamBody

def scaleBytes (scale : Scale) : Bytes := Wire.signed16 scale.num ++ Wire.word16 scale.den

def bytes : StreamBody → Bytes
  | play start stop scale | jump start stop scale =>
      Wire.signed32 start ++ Wire.signed32 stop ++ scaleBytes scale
  | pause stop => Wire.signed32 stop
  | resume start scale => Wire.signed32 start ++ scaleBytes scale
  | empty => []
  | reply position scale => Wire.signed32 position ++ scaleBytes scale
  | done position scale mode =>
      Wire.signed32 position ++ scaleBytes scale ++ [mode.toByte]

def readScale : Reader Scale := do return ⟨← Reader.signed16, ← Reader.word16⟩

/-- The body of an operation. All its bytes must be there. -/
def read (opcode : StreamOpcode) : Reader StreamBody := do
  Reader.need opcode.bodyLength
  match opcode with
  | .request .play => return play (← Reader.signed32) (← Reader.signed32) (← readScale)
  | .request .jump => return jump (← Reader.signed32) (← Reader.signed32) (← readScale)
  | .request .pause => return pause (← Reader.signed32)
  | .request .resume => return resume (← Reader.signed32) (← readScale)
  | .request .status | .request .reset => return empty
  | .reply _ => return reply (← Reader.signed32) (← readScale)
  | .done => do
      let position ← Reader.signed32
      let scale ← readScale
      return done position scale (.ofByte (← Reader.byte))

/-- Whether a body belongs to an operation. -/
def fits : StreamBody → StreamOpcode → Bool
  | play .., .request .play => true
  | jump .., .request .jump => true
  | pause _, .request .pause => true
  | resume .., .request .resume => true
  | empty, .request .status => true
  | empty, .request .reset => true
  | reply .., .reply _ => true
  | done .., .done => true
  | _, _ => false

/-- The position that a reply or an announcement tells. -/
def position? : StreamBody → Option Int32
  | reply position _ | done position _ _ => some position
  | _ => none

/-- The scale asked for or told. -/
def scale? : StreamBody → Option Scale
  | play _ _ scale | jump _ _ scale | resume _ scale | reply _ scale
  | done _ scale _ => some scale
  | pause _ | empty => none

end StreamBody

namespace StreamMessage

/-- A message that is not a reply, with the status it then has. -/
def plain (transaction : UInt8) (opcode : StreamOpcode) (handle : UInt32) (body : StreamBody) :
    StreamMessage :=
  ⟨⟨transaction, opcode, .ok, handle⟩, body⟩

/-- Play from one position to another. -/
def play (transaction : UInt8) (handle : UInt32) (start stop : Int32) (scale : Scale) :
    StreamMessage :=
  plain transaction (.request .play) handle (.play start stop scale)

/-- Go on from another position. -/
def jump (transaction : UInt8) (handle : UInt32) (start stop : Int32) (scale : Scale) :
    StreamMessage :=
  plain transaction (.request .jump) handle (.jump start stop scale)

/-- Stand still at a position. -/
def pause (transaction : UInt8) (handle : UInt32) (stop : Int32) : StreamMessage :=
  plain transaction (.request .pause) handle (.pause stop)

/-- Play on from a position. -/
def resume (transaction : UInt8) (handle : UInt32) (start : Int32) (scale : Scale) :
    StreamMessage :=
  plain transaction (.request .resume) handle (.resume start scale)

/-- Ask for position and scale. -/
def status (transaction : UInt8) (handle : UInt32) : StreamMessage :=
  plain transaction (.request .status) handle .empty

/-- Bring the stream back to its start. -/
def reset (transaction : UInt8) (handle : UInt32) : StreamMessage :=
  plain transaction (.request .reset) handle .empty

/-- Playback is done. -/
def done (handle : UInt32) (position : Int32) (scale : Scale) (mode : StreamMode) :
    StreamMessage :=
  plain 0 .done handle (.done position scale mode)

/-- The reply of a server to a request; there is none to any other message. -/
def replyTo? (request : StreamMessage) (status : StreamStatus) (position : Int32)
    (scale : Scale) : Option StreamMessage :=
  request.header.opcode.reply?.map fun opcode =>
    ⟨⟨request.header.transaction, opcode, status, request.header.handle⟩,
      .reply position scale⟩

def encodedLength (message : StreamMessage) : Nat :=
  StreamHeader.length + message.header.opcode.bodyLength

/-- The bytes of a message whose body belongs to its operation. -/
def encode (message : StreamMessage) : Except WireError Bytes :=
  if message.body.fits message.header.opcode then
    .ok (message.header.bytes ++ message.body.bytes)
  else .error (.invalidValue .opcode)

/-- The message that makes up all of the input. -/
def decode (input : Bytes) : Except WireError StreamMessage := do
  let (header, payload) ← StreamHeader.read input
  let length := header.opcode.bodyLength
  if payload.length > length then
    throw (.lengthMismatch (StreamHeader.length + length) input.length)
  let (body, _) ← StreamBody.read header.opcode payload
  return ⟨header, body⟩

/-- The length of the message that begins with some bytes; three are enough. -/
def frameLength : Bytes → Except WireError Nat
  | version :: _ :: opcode :: _ =>
      if version ≠ StreamHeader.version then .error (.unsupportedVersion version)
      else do return StreamHeader.length + (← StreamHeader.opcodeOf opcode).bodyLength
  | short => .error (.insufficientData 3 short.length)

end StreamMessage

end OnDemand
