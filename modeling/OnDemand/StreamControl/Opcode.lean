/-!
# Operations of stream control

A client sends requests about a stream. The server answers each with the reply
of the same operation, and announces on its own when playback is done. The
operation fixes the length of a message.
-/

namespace OnDemand

/-- A request about a stream. -/
inductive StreamRequest where
  | pause
  | resume
  | status
  | reset
  | jump
  | play
  deriving Repr, DecidableEq

/-- What a stream message is for. -/
inductive StreamOpcode where
  | request (operation : StreamRequest)
  | reply (operation : StreamRequest)
  | done
  deriving Repr, DecidableEq

namespace StreamRequest

def toByte : StreamRequest → UInt8
  | pause => 0x01
  | resume => 0x02
  | status => 0x03
  | reset => 0x04
  | jump => 0x05
  | play => 0x06

def ofByte? (value : UInt8) : Option StreamRequest :=
  match value.toNat with
  | 0x01 => some pause
  | 0x02 => some resume
  | 0x03 => some status
  | 0x04 => some reset
  | 0x05 => some jump
  | 0x06 => some play
  | _ => none

def name : StreamRequest → String
  | pause => "Pause"
  | resume => "Resume"
  | status => "Status"
  | reset => "Reset"
  | jump => "Jump"
  | play => "Play"

def bodyLength : StreamRequest → Nat
  | play | jump => 12
  | pause => 4
  | resume => 8
  | status | reset => 0

end StreamRequest

namespace StreamOpcode

/-- The number of an operation on the wire: a reply has its highest bit set. -/
def toByte : StreamOpcode → UInt8
  | request operation => operation.toByte
  | reply operation => operation.toByte + 0x80
  | done => 0x40

def ofByte? (value : UInt8) : Option StreamOpcode :=
  if value = 0x40 then some done
  else if value.toNat < 0x80 then (StreamRequest.ofByte? value).map request
  else (StreamRequest.ofByte? (value - 0x80)).map reply

def name : StreamOpcode → String
  | request operation => operation.name
  | reply operation => operation.name ++ "Reply"
  | done => "Done"

def isReply : StreamOpcode → Bool
  | reply _ => true
  | _ => false

/-- The reply that answers a request. -/
def reply? : StreamOpcode → Option StreamOpcode
  | request operation => some (reply operation)
  | _ => none

/-- The request that a reply answers. -/
def request? : StreamOpcode → Option StreamOpcode
  | reply operation => some (request operation)
  | _ => none

def bodyLength : StreamOpcode → Nat
  | request operation => operation.bodyLength
  | reply _ => 8
  | done => 9

end StreamOpcode

end OnDemand
