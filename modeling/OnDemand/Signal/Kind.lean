/-!
# Kinds of session messages

Releasing a session and resetting a client are handshakes of the same four
steps: the client requests and the network confirms, or the network indicates
and the client responds. Setup and status have the first two steps only.
-/

namespace OnDemand

/-- The steps of a handshake between client and network. -/
inductive HandshakeStep where
  | request
  | confirm
  | indication
  | response
  deriving Repr, DecidableEq

def HandshakeStep.name : HandshakeStep → String
  | request => "Request"
  | confirm => "Confirm"
  | indication => "Indication"
  | response => "Response"

/-- The place of a step in a block of four message numbers. -/
def HandshakeStep.offset : HandshakeStep → UInt16
  | request => 0
  | confirm => 1
  | indication => 2
  | response => 3

/-- What a session message is for. -/
inductive SignalKind where
  | setupRequest
  | setupConfirm
  | release (step : HandshakeStep)
  | statusRequest
  | statusConfirm
  | reset (step : HandshakeStep)
  | connectRequest
  | sessionInProgress
  deriving Repr, DecidableEq

namespace SignalKind

def toWord : SignalKind → UInt16
  | setupRequest => 0x4010
  | setupConfirm => 0x4011
  | release step => 0x4020 + step.offset
  | statusRequest => 0x4060
  | statusConfirm => 0x4061
  | reset step => 0x4070 + step.offset
  | connectRequest => 0x4090
  | sessionInProgress => 0x40B0

def ofWord? (value : UInt16) : Option SignalKind :=
  match value.toNat with
  | 0x4010 => some setupRequest
  | 0x4011 => some setupConfirm
  | 0x4020 => some (release .request)
  | 0x4021 => some (release .confirm)
  | 0x4022 => some (release .indication)
  | 0x4023 => some (release .response)
  | 0x4060 => some statusRequest
  | 0x4061 => some statusConfirm
  | 0x4070 => some (reset .request)
  | 0x4071 => some (reset .confirm)
  | 0x4072 => some (reset .indication)
  | 0x4073 => some (reset .response)
  | 0x4090 => some connectRequest
  | 0x40B0 => some sessionInProgress
  | _ => none

def name : SignalKind → String
  | setupRequest => "SetupRequest"
  | setupConfirm => "SetupConfirm"
  | release step => "Release" ++ step.name
  | statusRequest => "StatusRequest"
  | statusConfirm => "StatusConfirm"
  | reset step => "Reset" ++ step.name
  | connectRequest => "ConnectRequest"
  | sessionInProgress => "SessionInProgress"

/-- The request that a confirm answers; none for any other kind. -/
def request? : SignalKind → Option SignalKind
  | setupConfirm => some setupRequest
  | release .confirm => some (release .request)
  | statusConfirm => some statusRequest
  | reset .confirm => some (reset .request)
  | _ => none

/-- Whether a message of the kind answers a request of the client. -/
def isConfirm (kind : SignalKind) : Bool := kind.request?.isSome

/-- Whether a message of the kind starts a handshake of the network's. -/
def isIndication : SignalKind → Bool
  | release .indication | reset .indication => true
  | _ => false

end SignalKind

end OnDemand
