import OnDemand.Session.Client

/-!
# Operations on sessions

What the owner of a session can do with it. Each operation is allowed in some
states only. An operation that cannot send its request fails.
-/

namespace OnDemand.Client

/-- A failed or successful submission as the result of an operation. -/
def resultOf : Except SubmitError Unit → Except SessionError Unit
  | .ok () => .ok ()
  | .error cause => .error (.notSubmitted cause)

/-- Ask the resource manager for the session. -/
def setup (ref : SessionRef) (client : Client) : Except SessionError Unit × Client :=
  match client.session? ref with
  | none => (.ok (), client)
  | some session =>
      if session.state ≠ .idle then (.error (.invalidState .setUp session.state), client)
      else
        let data := session.profile.setupPrivateData session.asset client.settings.clientMac
        match data.encode session.profile.format true with
        | .error fault => (.error (.unencodable fault), client)
        | .ok privateData =>
            let (transaction, client) := client.drawTransaction
            let request : SetupRequest :=
              ⟨session.id, client.clientId, client.serverId, { privateData }⟩
            let retries := session.profile.setupRetries client.settings.retryCount
            let client := client.modify ref fun session =>
              { session with state := .setupSent, setup := some transaction }
            match client.submit ref session ⟨transaction, [], .setupRequest request⟩ retries with
            | (.ok (), client) => (.ok (), client)
            | (.error cause, client) =>
                (.error (.notSubmitted cause),
                  client.modify ref fun session => { session with state := .idle, setup := none })

/-- Tell the resource manager that the session is used. -/
def connect (ref : SessionRef) (client : Client) : Except SessionError Unit × Client :=
  match client.session? ref with
  | none => (.ok (), client)
  | some session =>
      if session.state ≠ .serverReady then
        (.error (.invalidState .connect session.state), client)
      else
        let (transaction, client) := client.drawTransaction
        match client.submit ref session
            ⟨transaction, [], .connectRequest ⟨session.id, {}⟩⟩ 0 with
        | (.ok (), client) =>
            (.ok (), client.modify ref fun session => { session with state := .connectSent })
        | (.error cause, client) => (.error (.notSubmitted cause), client)

/-- Send a keep-alive for the session now. -/
def sendKeepAlive (ref : SessionRef) (client : Client) : Except SessionError Unit × Client :=
  match client.session? ref with
  | none => (.ok (), client)
  | some session =>
      if ¬ session.state.isEstablished then
        (.error (.invalidState .sendKeepAlive session.state), client)
      else
        let (result, client) := client.sendInProgress ref session
        (resultOf result, client)

/-- The status type that asks for the state of one session. -/
def sessionStatusType : UInt16 := 0x0001

/-- Ask the resource manager for the status of the session. -/
def requestStatus (ref : SessionRef) (client : Client) : Except SessionError Unit × Client :=
  match client.session? ref with
  | none => (.ok (), client)
  | some session =>
      if session.state ≠ .setupSent ∧ ¬ session.state.isEstablished then
        (.error (.invalidState .requestStatus session.state), client)
      else
        let (transaction, client) := client.drawTransaction
        let request : ClientStatus :=
          ⟨.ok, client.clientId, sessionStatusType, session.id.bytes⟩
        let client := client.modify ref fun session =>
          { session with status := some transaction }
        match client.submit ref session ⟨transaction, [], .statusRequest request⟩
            client.settings.retryCount.toNat with
        | (.ok (), client) => (.ok (), client)
        | (.error cause, client) =>
            (.error (.notSubmitted cause),
              client.modify ref fun session => { session with status := none })

/-- Reset the client; its confirm releases the session. -/
def reset (ref : SessionRef) (client : Client) : Except SessionError Unit × Client :=
  match client.session? ref with
  | none => (.ok (), client)
  | some session =>
      if session.state ≠ .setupSent ∧ session.state ≠ .error
          ∧ ¬ session.state.isEstablished then
        (.error (.invalidState .reset session.state), client)
      else
        let (transaction, client) := client.drawTransaction
        let request : ClientReset := ⟨client.clientId, .normal⟩
        let client := client.modify ref fun session =>
          { session with reset := some transaction }
        match client.submit ref session ⟨transaction, [], .reset .request request⟩
            client.settings.retryCount.toNat with
        | (.ok (), client) => (.ok (), client)
        | (.error cause, client) =>
            (.error (.notSubmitted cause),
              client.modify ref fun session => { session with reset := none })

/-- Release the session. Whatever it awaits is forgotten, and a release request is
sent; when that cannot be sent, the session is released at once. A session that is
being released, or is released already, is left alone. -/
def teardown (ref : SessionRef) (client : Client) : Except SessionError Unit × Client :=
  match client.session? ref with
  | none => (.ok (), client)
  | some session =>
      match session.state with
      | .releasing | .released => (.ok (), client)
      | .idle => (.ok (), client.finish ref .clientRelease false)
      | .setupSent | .serverReady | .connectSent | .error =>
          let client :=
            { client with courier := (client.courier.cancelSession session.number).2 }
          let client := client.disarmKeepAlive ref
          let (transaction, client) := client.drawTransaction
          let request : Release := ⟨session.id, .clientRelease, {}⟩
          let client := client.modify ref fun session =>
            { session with
              state := .releasing
              setup := none
              status := none
              reset := none
              release := some transaction }
          match client.submit ref session ⟨transaction, [], .release .request request⟩
              client.settings.retryCount.toNat with
          | (.ok (), client) => (.ok (), client)
          | (.error cause, client) =>
              (.error (.notSubmitted cause), client.finish ref .clientRelease false)

/-- The owner lets go of a session without releasing it. -/
def drop (ref : SessionRef) (client : Client) : Client :=
  match client.session? ref with
  | none => client
  | some session =>
      let client := client.disarmKeepAlive ref
      let client := client.modify ref fun session => { session with isHeld := false }
      client.releaseHoldings session.number

/-- Take events of a session up to the one that decides about its setup. -/
def awaitReady (ref : SessionRef) (client : Client) : Except SessionError Unit × Client :=
  match client.session? ref with
  | none => (.ok (), client)
  | some session =>
      let (result, session) := session.awaitReady
      (result, client.modify ref fun _ => session)

def takeEvents (ref : SessionRef) (client : Client) : List SessionEvent × Client :=
  match client.session? ref with
  | none => ([], client)
  | some session => (session.inbox, client.modify ref Session.takeAll)

/-- Take the events of all sessions that are held, by session. -/
def collectEvents (client : Client) : List (SessionRef × SessionEvent) × Client :=
  ((List.range client.sessions.length).filter client.isLive).foldl
    (fun (collected, client) ref =>
      let (events, client) := client.takeEvents ref
      (collected ++ events.map (ref, ·), client))
    ([], client)

def seedTransaction (next : UInt32) (client : Client) : Client :=
  { client with nextTransaction := next }

end OnDemand.Client
