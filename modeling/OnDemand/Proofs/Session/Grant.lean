import OnDemand.Proofs.Session.Blank

/-!
# What a granting confirm makes of a session

A session that awaits its setup confirm and accepts one that grants it is ready from then on.  It
has learned what the confirm says and nothing else, since it had learned nothing before, and its
owner is told its name, its endpoint and its handle as they are then.  Private data that does not
decode, and conditional access that does not begin, make no difference to that.
-/

namespace OnDemand

/-- A session as it is after it accepted a confirm that grants it. -/
structure Session.GrantedBy (confirm : SetupConfirm) (before after : Session) : Prop where
  learned : after.learned = .ofConfirm before.profile.format confirm
  entitlement : ∀ {info}, after.caInfo = some info →
    after.entitlementId = info.entitlementId? ∧
      (after.entitlementId = none ↔ info.caInfo.length < 10) ∧
      ∀ {entitlement}, after.entitlementId = some entitlement ↔
        ∃ head rest, info.caInfo = head ++ (Wire.word32 entitlement ++ rest) ∧ head.length = 6
  id : after.id = if before.id.isZero then confirm.session else before.id
  state : after.state = .serverReady
  events : ∃ faults : List CaFault, after.events =
    before.events ++ faults.map .caFailed ++ [.ready after.id after.endpoint after.handle]

namespace Session

variable {session after : Session} {confirm : SetupConfirm}

/-- The entitlement that a session knows is that of the access descriptor that it knows. -/
theorem entitlementId_of_learned {format : PrivateDataFormat} {info : ClientCaInfo}
    (learned : session.learned = .ofConfirm format confirm) (known : session.caInfo = some info) :
    session.entitlementId = info.entitlementId? := by
  have infos : session.caInfo = Resource.last? ResourceContent.caInfo? confirm.resources :=
    congrArg Learned.caInfo learned
  have entitlement : session.entitlementId =
      (Resource.last? ResourceContent.caInfo? confirm.resources).bind (·.entitlementId?) :=
    congrArg Learned.entitlementId learned
  rw [entitlement, ← infos, known]
  rfl

theorem unreleased_granted : (session.granted confirm).state ≠ .released := by
  rw [state_granted]
  decide

/-- A blank session takes a name and what the confirm says, and its owner is told. -/
theorem grantedBy_of_blank (blank : session.learned = {}) {id : SessionId}
    (named : id = if session.id.isZero then confirm.session else session.id)
    (keepAlive : Option Nat) (caActive : Bool) (faults : List CaFault) :
    let stored := granted confirm { session with id }
    session.GrantedBy confirm
      { stored with
        keepAlive, caActive
        events := stored.events ++ faults.map .caFailed ++
          [.ready stored.id stored.endpoint stored.handle] } := by
  have unnamed : Session.learned { session with id } = {} := blank
  have learned := learned_granted unnamed confirm
  constructor
  case learned => exact learned
  case entitlement =>
    intro info known
    have entitlement : (granted confirm { session with id }).entitlementId =
        info.entitlementId? := entitlementId_of_learned learned known
    refine ⟨entitlement, ?_, ?_⟩
    · rw [← ClientCaInfo.entitlementId?_eq_none_iff, ← entitlement]
    · intro value
      rw [← ClientCaInfo.entitlementId?_eq_some_iff, ← entitlement]
  case id => exact (abides_granted confirm { session with id }).id.trans named
  case state =>
    have ready : (granted confirm { session with id }).state = .serverReady :=
      state_granted confirm
    exact ready
  case events =>
    refine ⟨faults, ?_⟩
    rw [events_granted]

end Session

namespace Client

variable {client : Client} {ref : SessionRef} {session : Session} {during : Client → Client}
  {message : Signal} {confirm : SetupConfirm}

theorem session?_armKeepAlive (found : client.session? ref = some session) :
    ∃ keepAlive, (client.armKeepAlive ref).session? ref = some { session with keepAlive } := by
  simp only [armKeepAlive]
  split
  · exact ⟨_, found⟩
  · exact ⟨_, session?_modify_self found⟩

/-- A session that is welcomed is told of failures of its conditional access, and that it is
ready. -/
theorem session?_welcome (quiet : client.ca.arrival = none) (idle : IsIdle during)
    (found : client.session? ref = some session) (unreleased : session.state ≠ .released) :
    ∃ (keepAlive : Option Nat) (caActive : Bool) (faults : List CaFault),
      (client.welcome during ref).session? ref = some
        { session with
          keepAlive, caActive
          events := session.events ++ faults.map .caFailed ++
            [.ready session.id session.endpoint session.handle] } := by
  obtain ⟨keepAlive, armed⟩ := session?_armKeepAlive found
  have stillQuiet : (client.armKeepAlive ref).ca.arrival = none := by
    rw [ca_armKeepAlive]
    exact quiet
  obtain ⟨_, _, _, begun⟩ := beginCa_eq stillQuiet idle armed unreleased
  rw [welcome_eq armed]
  exact ⟨keepAlive, _, _, session?_tell begun⟩

/-- A session takes the name that the confirm gives it only if it has none. -/
theorem session?_adoptId_self (found : client.session? ref = some session)
    (confirm : SetupConfirm) :
    (client.adoptId ref session confirm).session? ref = some
      { session with id := if session.id.isZero then confirm.session else session.id } := by
  simp only [adoptId]
  split
  · exact session?_modify_self found
  · exact found

theorem ca_adoptId : (client.adoptId ref session confirm).ca = client.ca := by
  simp only [adoptId]
  split <;> rfl

theorem grantedBy_onSetupConfirm {transaction : UInt32} (quiet : client.ca.arrival = none)
    (idle : IsIdle during) (found : client.session? ref = some session)
    (blank : session.learned = {}) (sent : session.state = .setupSent)
    (awaited : session.setup = some transaction) (positive : confirm.response.isOk = true) :
    ∃ after, (client.onSetupConfirm during ref transaction confirm).session? ref = some after ∧
      session.GrantedBy confirm after := by
  rw [onSetupConfirm_granted found sent awaited positive]
  have stillQuiet : ((client.adoptId ref session confirm).modify ref
      (Session.granted confirm)).ca.arrival = none :=
    (congrArg CaComponent.arrival ca_adoptId).trans quiet
  have named := session?_adoptId_self found confirm
  have present : ((client.adoptId ref session confirm).modify ref
      (Session.granted confirm)).session? ref = some _ := session?_modify_self named
  obtain ⟨keepAlive, caActive, faults, welcomed⟩ := session?_welcome stillQuiet idle present
    Session.unreleased_granted
  exact ⟨_, welcomed, Session.grantedBy_of_blank blank rfl keepAlive caActive faults⟩

/-- In every run: a session that awaits its setup confirm and receives one that grants it has
learned what the confirm says, is ready, and its owner is told so. -/
theorem grantedBy_receive (settings : ClientSettings) (actions : List ClientAction)
    (body : message.body = .setupConfirm confirm) (positive : confirm.response.isOk = true)
    (routed : ((start settings).run actions).route message = some ref)
    (found : ((start settings).run actions).session? ref = some session)
    (sent : session.state = .setupSent) (awaited : session.setup = some message.transaction) :
    ∃ after,
      (((start settings).run actions).receive arrival message).session? ref = some after ∧
        session.GrantedBy confirm after := by
  have orderly := (Orderly.start settings).run actions
  have startsBlank := (StartsBlank.start settings).run actions
  generalize (start settings).run actions = client at routed found orderly startsBlank ⊢
  have blank : session.learned = {} := startsBlank found (by rw [sent]; rfl)
  have answers : message.kind.request?.isSome := by
    rw [Signal.kind, body]
    rfl
  have settledQuiet : (client.settled message).ca.arrival = none := by
    simp only [settled]
    split <;> exact orderly.quiet
  rw [← session?_settled message] at found
  rw [← route_settled] at routed
  rw [receive_eq, deliver_of_request? answers routed]
  simp only [handle, body]
  exact grantedBy_onSetupConfirm settledQuiet isIdle_arrival found blank sent awaited positive

/-- A confirm with two channels, and two access descriptors of which the second is too short for
an entitlement. -/
def mixedConfirm (privateData : Bytes) : SetupConfirm where
  session := sampleId 1
  response := ⟨0⟩
  server := .zero
  resources :=
    [⟨0, 0, 0, 0, 0, .physicalChannel ⟨603000000, 0⟩⟩,
      ⟨0, 0, 0, 0, 0, .clientCaInfo ⟨3, 0, [1, 2, 3, 4, 5, 6, 0, 0, 0, 9]⟩⟩,
      ⟨0, 0, 0, 0, 0, .physicalChannel ⟨609000000, 0⟩⟩,
      ⟨0, 0, 0, 0, 0, .clientCaInfo ⟨4, 0, [1, 2, 3]⟩⟩]
  userData := { privateData }

/-- Two endpoints, two handles and two lengths of assets. -/
def doubledData : Bytes :=
  (PrivateData.encode .plain true
    ⟨[.streamHandle 7, .streamEndpoint ⟨⟨10, 0, 0, 5⟩, 7000⟩, .assetDuration 5400000,
      .assetDuration 60000, .streamEndpoint ⟨⟨10, 0, 0, 6⟩, 7001⟩,
      .streamHandle 8]⟩).toOption.getD []

/-- The first descriptors of private data count, unless it is cut off. -/
theorem grantedBy_receive_mixedConfirm :
    let received (privateData : Bytes) :=
      ((start sampleSettings).run [.create (.ofVendor .arris) {}, .operate .setup 0]
        |>.receive arrival ⟨1, [], .setupConfirm (mixedConfirm privateData)⟩).session? 0
    (∃ after, received doubledData = some after ∧
      after.tuning.frequencyHz = some 609000000 ∧ after.caInfo = some ⟨4, 0, [1, 2, 3]⟩ ∧
      after.entitlementId = none ∧ after.endpoint = some ⟨⟨10, 0, 0, 5⟩, 7000⟩ ∧
      after.handle = some 7 ∧ after.duration = some 5400000 ∧ after.state = .serverReady) ∧
    ∃ after, received (doubledData.take 7) = some after ∧
      after.tuning.frequencyHz = some 609000000 ∧ after.endpoint = none ∧
      after.handle = none ∧ after.duration = none ∧ after.state = .serverReady := by
  have granted := fun privateData => grantedBy_receive sampleSettings
    [.create (.ofVendor .arris) {}, .operate .setup 0]
    (rfl : Signal.body ⟨1, [], .setupConfirm (mixedConfirm privateData)⟩ = _) rfl
    (rfl : _ = some 0) rfl rfl rfl
  have told : let learned := Learned.ofConfirm .plain (mixedConfirm doubledData)
      learned.endpoint = some ⟨⟨10, 0, 0, 5⟩, 7000⟩ ∧ learned.handle = some 7 ∧
        learned.duration = some 5400000 := by decide +kernel
  have untold : let learned := Learned.ofConfirm .plain (mixedConfirm (doubledData.take 7))
      learned.endpoint = none ∧ learned.handle = none ∧ learned.duration = none := by
    decide +kernel
  constructor
  · obtain ⟨after, found, given⟩ := granted doubledData
    have learned := given.learned
    exact ⟨after, found, congrArg (·.tuning.frequencyHz) learned, congrArg Learned.caInfo learned,
      congrArg Learned.entitlementId learned, (congrArg Learned.endpoint learned).trans told.1,
      (congrArg Learned.handle learned).trans told.2.1,
      (congrArg Learned.duration learned).trans told.2.2, given.state⟩
  · obtain ⟨after, found, given⟩ := granted (doubledData.take 7)
    have learned := given.learned
    exact ⟨after, found, congrArg (·.tuning.frequencyHz) learned,
      (congrArg Learned.endpoint learned).trans untold.1,
      (congrArg Learned.handle learned).trans untold.2.1,
      (congrArg Learned.duration learned).trans untold.2.2, given.state⟩

end Client

end OnDemand
