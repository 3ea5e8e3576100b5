import OnDemand.Session.Client

/-!
# Messages to sessions

A datagram is decoded, a confirm settles the request that it answers, and the
message is then brought to the session that it is about: the live session of the
number in its session identifier or, failing that, the session that awaits its
transaction. A reset indication goes to all sessions. All other messages are not
for a client.
-/

namespace OnDemand.Client

/-- Begin conditional access for a session. A session that was released in the
meantime has it ended again at once. -/
def startCa (during : Client → Client) (ref : SessionRef) (id : SessionId)
    (info : ClientCaInfo) (entitlement : Option UInt32) (client : Client) : Client :=
  let (fault, client) := client.callCa (.start id info entitlement)
  let client := during client
  match fault with
  | some detail => client.tell ref (.caFailed (.notStarted detail))
  | none =>
      match client.session? ref with
      | none => client
      | some session =>
          if session.state = .released then (client.callCa (.stop id)).2
          else client.modify ref fun session => { session with caActive := true }

/-- A session whose name the network chooses takes the name from the confirm. -/
def adoptId (ref : SessionRef) (session : Session) (confirm : SetupConfirm) (client : Client) :
    Client :=
  if session.id.isZero then
    let routes := (client.routes.rebind client.isLive session.number confirm.session.number).2
    { client with routes }.modify ref fun session => { session with id := confirm.session }
  else client

/-- A session is granted or refused. -/
def onSetupConfirm (during : Client → Client) (ref : SessionRef) (transaction : UInt32)
    (confirm : SetupConfirm) (client : Client) : Client :=
  match client.session? ref with
  | none => client
  | some session =>
      if session.state ≠ .setupSent ∨ session.setup ≠ some transaction then client
      else if ¬ confirm.response.isOk then
        let client := client.modify ref fun session =>
          { session with setup := none, state := .error }
        client.tell ref (.setupFailed confirm.response)
      else
        let client := client.modify ref fun session => { session with setup := none }
        let client := client.adoptId ref session confirm
        let client := client.modify ref (·.applyConfirm confirm)
        let client := client.armKeepAlive ref
        match client.session? ref with
        | none => client
        | some ready =>
            let client :=
              match ready.caInfo with
              | none => client
              | some info => client.startCa during ref ready.id info ready.entitlementId
            client.tell ref (.ready ready.id ready.endpoint ready.handle)

/-- A release that was asked for is granted. -/
def onReleaseConfirm (ref : SessionRef) (transaction : UInt32) (release : Release)
    (client : Client) : Client :=
  match client.session? ref with
  | none => client
  | some session =>
      if session.state = .releasing ∧ session.release = some transaction then
        client.finish ref release.reason false
      else client

/-- The network releases a session. It is always answered, since it repeats the
indication until it is. -/
def onReleaseIndication (ref : SessionRef) (transaction : UInt32) (release : Release)
    (client : Client) : Client :=
  match client.session? ref with
  | none => client
  | some session =>
      let answer : Release := ⟨session.id, release.reason, {}⟩
      let client := (client.submit ref session ⟨transaction, [], .release .response answer⟩ 0).2
      if session.state = .released then client
      else client.finish ref release.reason true

/-- A status that was asked for is told. -/
def onStatusConfirm (ref : SessionRef) (transaction : UInt32) (status : ClientStatus)
    (client : Client) : Client :=
  match client.session? ref with
  | none => client
  | some session =>
      if session.status = some transaction then
        let client := client.modify ref fun session => { session with status := none }
        client.tell ref (.status status.reason status.type status.data)
      else client

/-- A reset that was asked for is confirmed. -/
def onResetConfirm (ref : SessionRef) (transaction : UInt32) (reset : ClientReset)
    (client : Client) : Client :=
  match client.session? ref with
  | none => client
  | some session =>
      if session.reset = some transaction then
        let client := client.modify ref fun session => { session with reset := none }
        client.finish ref reset.reason false
      else client

def handle (during : Client → Client) (ref : SessionRef) (message : Signal) (client : Client) :
    Client :=
  match message.body with
  | .setupConfirm confirm => client.onSetupConfirm during ref message.transaction confirm
  | .release .confirm release => client.onReleaseConfirm ref message.transaction release
  | .release .indication release => client.onReleaseIndication ref message.transaction release
  | .statusConfirm status => client.onStatusConfirm ref message.transaction status
  | .reset .confirm reset => client.onResetConfirm ref message.transaction reset
  | _ => client

/-- Whether a message is one that a session handles. -/
def isForSession (kind : SignalKind) : Bool :=
  match kind with
  | .setupConfirm | .release .confirm | .release .indication | .statusConfirm
  | .reset .confirm => true
  | _ => false

/-- The session that a message is for: by the number in its session identifier,
unless that is all zeros, or else by its transaction. -/
def route (message : Signal) (client : Client) : Option SessionRef :=
  let named := message.body.session?.filter fun id => !id.isZero
  (named.bind fun _ => client.routes.route client.isLive message).or
    (client.routes.routeTransaction client.isLive client.awaits message.transaction)

/-- The network resets the client: it is answered, and all sessions are told. -/
def onResetIndication (transaction : UInt32) (reset : ClientReset) (client : Client) : Client :=
  let answer : Signal :=
    ⟨transaction, [], .reset .response ⟨client.clientId, reset.reason⟩⟩
  let client :=
    match answer.encode with
    | .error _ => client
    | .ok bytes => { client with courier := (client.courier.send none bytes).2 }
  (client.routes.handlers client.isLive).foldl
    (fun client ref => client.tell ref (.resetIndicated reset.reason)) client

def receive (during : Client → Client) (message : Signal) (client : Client) : Client :=
  let client :=
    if message.kind.isConfirm then
      { client with
        courier := (client.courier.acknowledgeReply message.transaction message.kind).2 }
    else client
  match message.body with
  | .reset .indication reset => client.onResetIndication message.transaction reset
  | _ =>
      if isForSession message.kind then
        match client.route message with
        | some ref => client.handle during ref message
        | none => client
      else client

/-- A datagram arrives; one that is no message is dropped. -/
def receiveBytes (during : Client → Client) (datagram : Bytes) (client : Client) : Client :=
  match Signal.decode datagram with
  | .error _ => client
  | .ok message => client.receive during message

/-- The datagram that waits for a start call of the conditional-access component
arrives, while no other waits. -/
def arrival (client : Client) : Client :=
  match client.ca.arrival with
  | none => client
  | some datagram =>
      { client with ca := { client.ca with arrival := none } }.receiveBytes id datagram

/-- A datagram arrives, and another while conditional access is begun for it. -/
def dispatch (datagram : Bytes) (client : Client) : Client :=
  client.receiveBytes arrival datagram

end OnDemand.Client
