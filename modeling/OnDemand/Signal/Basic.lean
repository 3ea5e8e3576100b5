import OnDemand.Address.Nsap
import OnDemand.Address.SessionId
import OnDemand.Code.Reason
import OnDemand.Code.Response
import OnDemand.Resource.Basic
import OnDemand.Signal.Kind

/-!
# Session messages

Client and network set up, watch and release sessions with messages of eight
shapes. A message has a transaction number, which ties a confirm to its request,
and an adaptation header that is carried along without a meaning.
-/

namespace OnDemand

/-- What accompanies a message: bytes between the users, and private data in its
encoded form, padding included. -/
structure UserData where
  uu : Bytes := []
  privateData : Bytes := []
  deriving Repr, DecidableEq

def UserData.encodedLength (data : UserData) : Nat :=
  4 + data.uu.length + data.privateData.length

/-- A client asks for a session. -/
structure SetupRequest where
  session : SessionId
  client : NsapAddress
  server : NsapAddress
  userData : UserData
  deriving DecidableEq

/-- The network grants or refuses a session. -/
structure SetupConfirm where
  session : SessionId
  response : ResponseCode
  server : NsapAddress
  resources : List Resource
  userData : UserData
  deriving DecidableEq

/-- A client starts to use a session. -/
structure ConnectRequest where
  session : SessionId
  userData : UserData
  deriving DecidableEq

/-- A step of releasing a session. -/
structure Release where
  session : SessionId
  reason : ReasonCode
  userData : UserData
  deriving DecidableEq

/-- A status, asked for or told. -/
structure ClientStatus where
  reason : ReasonCode
  client : NsapAddress
  type : UInt16
  data : Bytes
  deriving DecidableEq

/-- A step of resetting a client. -/
structure ClientReset where
  client : NsapAddress
  reason : ReasonCode
  deriving DecidableEq

/-- The part of a message that its kind selects. -/
inductive SignalBody where
  | setupRequest (body : SetupRequest)
  | setupConfirm (body : SetupConfirm)
  | connectRequest (body : ConnectRequest)
  | release (step : HandshakeStep) (body : Release)
  | statusRequest (body : ClientStatus)
  | statusConfirm (body : ClientStatus)
  | reset (step : HandshakeStep) (body : ClientReset)
  /-- The sessions that the client still holds. -/
  | sessionInProgress (sessions : List SessionId)
  deriving DecidableEq

namespace SignalBody

def kind : SignalBody → SignalKind
  | setupRequest _ => .setupRequest
  | setupConfirm _ => .setupConfirm
  | connectRequest _ => .connectRequest
  | release step _ => .release step
  | statusRequest _ => .statusRequest
  | statusConfirm _ => .statusConfirm
  | reset step _ => .reset step
  | sessionInProgress _ => .sessionInProgress

/-- The session that a body is about. -/
def session? : SignalBody → Option SessionId
  | setupRequest body => some body.session
  | setupConfirm body => some body.session
  | connectRequest body => some body.session
  | release _ body => some body.session
  | _ => none

/-- The user data of bodies that have some. -/
def userData? : SignalBody → Option UserData
  | setupRequest body => some body.userData
  | setupConfirm body => some body.userData
  | connectRequest body => some body.userData
  | release _ body => some body.userData
  | _ => none

end SignalBody

/-- A session message. -/
structure Signal where
  transaction : UInt32
  adaptation : Bytes := []
  body : SignalBody
  deriving DecidableEq

def Signal.kind (message : Signal) : SignalKind := message.body.kind

end OnDemand
