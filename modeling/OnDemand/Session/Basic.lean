import OnDemand.Asset.Vendor
import OnDemand.Request.Transport
import OnDemand.Signal.Basic

/-!
# Sessions

A session goes from idle through setup and connection to its release. What its
owner has to know is told in events. A session awaits at most one confirm of each
kind, by the transaction of its request.
-/

namespace OnDemand

/-- Where a session stands. -/
inductive SessionState where
  | idle
  | setupSent
  | serverReady
  | connectSent
  | releasing
  | released
  | error
  deriving Repr, DecidableEq

namespace SessionState

/-- Whether the resource manager has granted the session, and it still stands. -/
def isEstablished : SessionState → Bool
  | serverReady | connectSent => true
  | _ => false

def name : SessionState → String
  | idle => "idle"
  | setupSent => "setup-sent"
  | serverReady => "server-ready"
  | connectSent => "connect-sent"
  | releasing => "releasing"
  | released => "released"
  | error => "error"

end SessionState

/-- What the owner of a session can ask of it. -/
inductive SessionOperation where
  | setUp
  | connect
  | sendKeepAlive
  | requestStatus
  | reset
  | awaitSetup
  deriving Repr, DecidableEq

def SessionOperation.name : SessionOperation → String
  | setUp => "set up"
  | connect => "connect"
  | sendKeepAlive => "send keep-alive"
  | requestStatus => "request status"
  | reset => "reset"
  | awaitSetup => "wait for setup"

/-- Why an operation on a session failed. -/
inductive SessionError where
  | invalidState (operation : SessionOperation) (state : SessionState)
  /-- The private data of a setup request has no encoding. -/
  | unencodable (fault : WireError)
  | notSubmitted (cause : SubmitError)
  | rejected (code : ResponseCode)
  | undelivered (kind : SignalKind)
  | timeout
  deriving Repr, DecidableEq

def SessionError.message : SessionError → String
  | invalidState operation state => "Cannot " ++ operation.name ++ " while " ++ state.name
  | unencodable fault => "Wire error: " ++ fault.message
  | notSubmitted cause => "Request failed: " ++ cause.message
  | rejected code => "Session setup rejected: " ++ code.text
  | undelivered kind => "No confirm received for " ++ kind.name
  | timeout => "Timed out waiting for the session"

/-- A failure of the conditional-access component. -/
inductive CaFault where
  | notStarted (detail : String)
  | notEnded (detail : String)
  deriving Repr, DecidableEq

def CaFault.message : CaFault → String
  | notStarted detail => "CA session initialization failed: " ++ detail
  | notEnded detail => "CA session finalization failed: " ++ detail

/-- What the owner of a session is told. -/
inductive SessionEvent where
  /-- The resource manager granted the session. -/
  | ready (session : SessionId) (endpoint : Option Ipv4Endpoint) (handle : Option UInt32)
  /-- The resource manager refused the session. -/
  | setupFailed (code : ResponseCode)
  /-- A request went unanswered after every retry. -/
  | deliveryFailed (kind : SignalKind)
  /-- The conditional-access component failed; the session goes on. -/
  | caFailed (fault : CaFault)
  /-- The answer to a status request. -/
  | status (reason : ReasonCode) (type : UInt16) (data : Bytes)
  /-- The network reset this client. -/
  | resetIndicated (reason : ReasonCode)
  /-- The session is gone. -/
  | released (reason : ReasonCode) (byServer : Bool)
  deriving Repr, DecidableEq

def SessionEvent.name : SessionEvent → String
  | ready .. => "Ready"
  | setupFailed _ => "SetupFailed"
  | deliveryFailed _ => "DeliveryFailed"
  | caFailed _ => "CaFailed"
  | status .. => "Status"
  | resetIndicated _ => "ResetIndicated"
  | released .. => "Released"

/-- How to tune to a session's program. -/
structure TuningParameters where
  frequencyHz : Option UInt32 := none
  modulation : Option Modulation := none
  symbolRate : Option UInt32 := none
  programNumber : Option UInt16 := none
  transportStreamId : Option UInt32 := none
  bandwidthBps : Option UInt32 := none
  deriving Repr, DecidableEq

/-- A session of the client. -/
structure Session where
  profile : VendorProfile
  asset : AssetRequest
  /-- The number with which the session was made. -/
  number : UInt32
  id : SessionId
  state : SessionState := .idle
  setup : Option UInt32 := none
  release : Option UInt32 := none
  status : Option UInt32 := none
  reset : Option UInt32 := none
  tuning : TuningParameters := {}
  resources : List Resource := []
  caInfo : Option ClientCaInfo := none
  entitlementId : Option UInt32 := none
  caActive : Bool := false
  endpoint : Option Ipv4Endpoint := none
  handle : Option UInt32 := none
  duration : Option UInt32 := none
  keepAlive : Option Nat := none
  /-- All events told so far, earliest first. -/
  events : List SessionEvent := []
  /-- How many events the owner has taken. -/
  eventsTaken : Nat := 0
  /-- Whether the owner still holds the session. -/
  isHeld : Bool := true
  deriving DecidableEq

namespace Session

/-- Whether a session awaits a confirm in a transaction. -/
def awaits (session : Session) (transaction : UInt32) : Bool :=
  [session.setup, session.release, session.status, session.reset].contains (some transaction)

def tell (event : SessionEvent) (session : Session) : Session :=
  { session with events := session.events ++ [event] }

/-- The events that the owner has not taken yet. -/
def inbox (session : Session) : List SessionEvent := session.events.drop session.eventsTaken

def takeAll (session : Session) : Session :=
  { session with eventsTaken := session.events.length }

/-- What an event decides about a setup that is waited for. -/
def outcomeOf : SessionEvent → Option (Except SessionError Unit)
  | .ready .. => some (.ok ())
  | .setupFailed code => some (.error (.rejected code))
  | .deliveryFailed kind => some (.error (.undelivered kind))
  | .released .. => some (.error (.invalidState .awaitSetup .released))
  | .caFailed _ | .status .. | .resetIndicated _ => none

/-- Take events up to the first that decides about the setup. When there is none,
all are taken and the wait times out. -/
def awaitReady (session : Session) : Except SessionError Unit × Session :=
  let undecided := session.inbox.takeWhile fun event => (outcomeOf event).isNone
  match session.inbox.drop undecided.length with
  | [] => (.error .timeout, session.takeAll)
  | event :: _ =>
      ((outcomeOf event).getD (.error .timeout),
        { session with eventsTaken := session.eventsTaken + undecided.length + 1 })

/-- What the resources of a confirm say about tuning: the last of a kind counts. -/
def applyResource (session : Session) (resource : Resource) : Session :=
  let tuning := session.tuning
  match resource.content with
  | .mpegProgram program =>
      { session with tuning := { tuning with programNumber := some program.programNumber } }
  | .physicalChannel channel =>
      { session with tuning := { tuning with frequencyHz := some channel.frequencyHz } }
  | .atscModulation modulation =>
      { session with
        tuning :=
          { tuning with
            modulation := some modulation.modulation
            symbolRate := some modulation.symbolRate } }
  | .downstreamBandwidth bandwidth =>
      { session with
        tuning :=
          { tuning with
            bandwidthBps := some bandwidth.bitsPerSecond
            transportStreamId := some bandwidth.transportStreamId } }
  | .clientCaInfo info =>
      { session with entitlementId := info.entitlementId?, caInfo := some info }
  | .headendId _ | .unknown .. => session

/-- What the private data of a confirm says about streaming. Data that does not
decode is passed over. -/
def applyPrivateData (session : Session) (bytes : Bytes) : Session :=
  if bytes.isEmpty then session
  else
    match PrivateData.decode session.profile.format bytes with
    | .error _ => session
    | .ok data =>
        { session with
          endpoint := data.streamEndpoint?
          handle := data.streamHandle?
          duration := data.assetDuration? }

/-- What a granting confirm leaves with a session, its name apart. -/
def applyConfirm (session : Session) (confirm : SetupConfirm) : Session :=
  let session := confirm.resources.foldl applyResource session
  let session := { session with resources := confirm.resources }
  { session.applyPrivateData confirm.userData.privateData with state := .serverReady }

end Session

end OnDemand
