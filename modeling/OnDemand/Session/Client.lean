import OnDemand.Request.Courier
import OnDemand.Route.Table
import OnDemand.Session.Basic

/-!
# Clients

A client holds the sessions of one device: the courier that carries their
requests, the routes by which messages reach them, the conditional-access
component, and the counters from which session numbers and transactions are
drawn. This module holds the parts from which operations and message handling
are put together.
-/

namespace OnDemand

/-- What a client needs to know before it starts. -/
structure ClientSettings where
  managerIp : Ipv4Address
  clientIp : Ipv4Address
  clientMac : MacAddress
  /-- How often an unanswered request is sent again. -/
  retryCount : UInt32
  /-- How long a request waits for its confirm. -/
  messageTimer : Time
  /-- How long an established session waits between keep-alives; zero for none. -/
  keepAliveInterval : Time
  /-- Whether the network names the sessions. -/
  serverAssigns : Bool

/-- A call of the conditional-access component. -/
inductive CaCall where
  | start (session : SessionId) (info : ClientCaInfo) (entitlement : Option UInt32)
  | stop (session : SessionId)
  deriving Repr, DecidableEq

/-- The conditional-access component. Whether a call fails, and with which detail,
may depend on the calls before it. -/
structure CaComponent where
  fault : List CaCall → CaCall → Option String := fun _ _ => none
  /-- A datagram that arrives while the next start call runs. -/
  arrival : Option Bytes := none

/-- A component that answers all start calls alike and all stop calls alike. -/
def CaComponent.scripted (start stop : Option String) (arrival : Option Bytes) : CaComponent where
  fault _ call :=
    match call with
    | .start .. => start
    | .stop _ => stop
  arrival := arrival

/-- The sessions of one device and all that they share. -/
structure Client where
  settings : ClientSettings
  courier : Courier
  routes : RouteTable := {}
  sessions : List Session := []
  ca : CaComponent := {}
  /-- The calls of the conditional-access component so far, latest first. -/
  caCalls : List CaCall := []
  nextNumber : UInt32 := 1
  nextTransaction : UInt32 := 1
  /-- All transactions drawn so far, latest first. -/
  drawn : List UInt32 := []

/-- The name of a session within its client: its place in order of creation. -/
abbrev SessionRef := Nat

namespace Client

/-- A client without sessions. -/
def start (settings : ClientSettings) : Client where
  settings := settings
  courier := { timer := settings.messageTimer }

def clientId (client : Client) : NsapAddress :=
  .ofDevice client.settings.clientIp client.settings.clientMac

def serverId (client : Client) : NsapAddress := .ofManager client.settings.managerIp

/-- The value of a counter that skips zero, and the counter after it. -/
def draw (counter : UInt32) : UInt32 × UInt32 :=
  if counter = 0 then (1, 2) else (counter, counter + 1)

def drawTransaction (client : Client) : UInt32 × Client :=
  let (transaction, next) := draw client.nextTransaction
  (transaction,
    { client with nextTransaction := next, drawn := transaction :: client.drawn })

/-- A session by its name. -/
def session? (ref : SessionRef) (client : Client) : Option Session := client.sessions[ref]?

def modify (ref : SessionRef) (change : Session → Session) (client : Client) : Client :=
  { client with sessions := client.sessions.modify ref change }

def tell (ref : SessionRef) (event : SessionEvent) (client : Client) : Client :=
  client.modify ref (·.tell event)

/-- Whether a session is still held by its owner. -/
def isLive (client : Client) (ref : SessionRef) : Bool :=
  (client.session? ref).any (·.isHeld)

/-- Whether a session awaits a confirm in a transaction. -/
def awaits (client : Client) (ref : SessionRef) (transaction : UInt32) : Bool :=
  (client.session? ref).any (·.awaits transaction)

/-- Make an idle session. -/
def create (profile : VendorProfile) (asset : AssetRequest) (client : Client) :
    SessionRef × Client :=
  let (number, next) := draw client.nextNumber
  let ref := client.sessions.length
  let id : SessionId :=
    if client.settings.serverAssigns then .zero else ⟨client.settings.clientMac, number⟩
  let routes :=
    if client.settings.serverAssigns then client.routes.registerUnnumbered number ref
    else client.routes.register number ref
  (ref,
    { client with
      nextNumber := next
      routes := routes
      sessions := client.sessions ++ [{ profile, asset, number, id }] })

def submit (ref : SessionRef) (session : Session) (message : Signal) (retries : Nat)
    (client : Client) : Except SubmitError Unit × Client :=
  let (result, courier) := client.courier.submit message retries session.number ref
  (result, { client with courier })

/-- Set the keep-alive alarm of a session, unless the interval is zero. -/
def armKeepAlive (ref : SessionRef) (client : Client) : Client :=
  if client.settings.keepAliveInterval = 0 then client
  else
    let (alarm, courier) :=
      client.courier.arm client.settings.keepAliveInterval (.keepAlive ref)
    { client with courier }.modify ref fun session => { session with keepAlive := some alarm }

/-- Take the keep-alive alarm of a session back. -/
def disarmKeepAlive (ref : SessionRef) (client : Client) : Client :=
  match (client.session? ref).bind (·.keepAlive) with
  | none => client
  | some alarm =>
      { client with courier := client.courier.disarm alarm }.modify ref fun session =>
        { session with keepAlive := none }

/-- Take a session off the routes and forget its requests. -/
def releaseHoldings (number : UInt32) (client : Client) : Client :=
  { client with
    routes := client.routes.unregister number
    courier := (client.courier.cancelSession number).2 }

def callCa (call : CaCall) (client : Client) : Option String × Client :=
  (client.ca.fault client.caCalls call, { client with caCalls := call :: client.caCalls })

/-- End conditional access for a session, if it was begun. -/
def stopCa (ref : SessionRef) (session : Session) (client : Client) : Client :=
  if session.caActive then
    match client.callCa (.stop session.id) with
    | (none, client) => client
    | (some detail, client) => client.tell ref (.caFailed (.notEnded detail))
  else client

/-- A session that is over and awaits nothing. -/
def closed (session : Session) : Session :=
  { session with
    state := .released
    setup := none
    release := none
    status := none
    reset := none
    caActive := false }

/-- Release a session: let go of all that it holds and tell its owner. -/
def finish (ref : SessionRef) (reason : ReasonCode) (byServer : Bool) (client : Client) :
    Client :=
  match client.session? ref with
  | none => client
  | some session =>
      let client := (client.modify ref closed).disarmKeepAlive ref
      let client := client.releaseHoldings session.number
      let client := client.stopCa ref session
      client.tell ref (.released reason byServer)

/-- The keep-alive of a session, sent once. -/
def sendInProgress (ref : SessionRef) (session : Session) (client : Client) :
    Except SubmitError Unit × Client :=
  let (transaction, client) := client.drawTransaction
  client.submit ref session ⟨transaction, [], .sessionInProgress [session.id]⟩ 0

/-- What a session does when its keep-alive alarm rings. -/
def keepAliveDue (ref : SessionRef) (client : Client) : Client :=
  match client.session? ref with
  | none => client
  | some session =>
      if session.state.isEstablished then
        (client.sendInProgress ref session).2.armKeepAlive ref
      else client

/-- What a session does when one of its requests was given up. A notice about a
request that it no longer awaits is passed over. -/
def deliveryFailed (notice : FailureNotice) (client : Client) : Client :=
  let ref := notice.owner
  match client.session? ref with
  | none => client
  | some session =>
      match notice.kind with
      | .setupRequest =>
          if session.setup = some notice.transaction then
            let client := client.modify ref fun session =>
              { session with setup := none, state := .error }
            client.tell ref (.deliveryFailed notice.kind)
          else client
      | .release .request =>
          if session.release = some notice.transaction then
            let client := client.tell ref (.deliveryFailed notice.kind)
            client.finish ref .clientRelease false
          else client
      | .statusRequest =>
          if session.status = some notice.transaction then
            let client := client.modify ref fun session => { session with status := none }
            client.tell ref (.deliveryFailed notice.kind)
          else client
      | .reset .request =>
          if session.reset = some notice.transaction then
            let client := client.modify ref fun session => { session with reset := none }
            client.tell ref (.deliveryFailed notice.kind)
          else client
      | _ => client

end Client

end OnDemand
