import OnDemand.Proofs.Session.Acts
import OnDemand.Proofs.Session.Retouch
import OnDemand.Session.Inbound

/-!
# Messages act on the session that they are brought to

What a session does with a message affects that session only and keeps it tended.  After
a confirm the session awaits nothing more in its transaction.  A client in which no
datagram waits for the conditional-access component handles each message by itself.
-/

namespace OnDemand

namespace Client

variable {client next : Client} {ref : SessionRef} {session : Session} {transaction : UInt32}
  {request : Option SignalKind} {during : Client → Client}

/-! ## A session is granted -/

/-- What happens while the conditional-access component runs does not concern a client in
which no datagram waits for that. -/
def IsIdle (during : Client → Client) : Prop := ∀ client : Client, client.ca.arrival = none →
  during client = client

theorem isIdle_arrival : IsIdle arrival := by
  intro client quiet
  simp only [arrival]
  rw [quiet]

theorem Gentle.adoptId (sound : client.Sound) (ref : SessionRef) (session : Session)
    (confirm : SetupConfirm) : Gentle ref client (client.adoptId ref session confirm) := by
  simp only [Client.adoptId]
  split
  · have rebound : Gentle ref client
        { client with
          routes :=
            (client.routes.rebind client.isLive session.number confirm.session.number).2 } := by
      refine .aside ?_ rfl rfl (List.suffix_refl _) rfl rfl
      exact
        { sound with
          routes := sound.routes.rebind
          routed := by
            intro owner ref
            simp only [RouteTable.handler?_rebind]
            exact sound.routed }
    exact rebound.trans (Gentle.modify rebound.sound fun _ _ => Session.retouches_id)
  · exact .refl sound ref

/-- Taking a name leaves a session where it stands. -/
theorem session?_adoptId (found : client.session? ref = some session) (sender : Session)
    (confirm : SetupConfirm) :
    ∃ stored, (client.adoptId ref sender confirm).session? ref = some stored ∧
      stored.state = session.state := by
  simp only [adoptId]
  split
  · exact ⟨_, session?_modify_self found, rfl⟩
  · exact ⟨session, found, rfl⟩

theorem Gentle.startCa (sound : client.Sound) (idle : IsIdle during) (ref : SessionRef)
    (id : SessionId) (info : ClientCaInfo) (entitlement : Option UInt32) :
    Gentle ref client (client.startCa during ref id info entitlement) := by
  have called := Gentle.callCa sound ref (.start id info entitlement)
  simp only [Client.startCa]
  simp only [idle _ called.sound.quiet]
  split
  · exact called.trans (Gentle.tell called.sound ref _)
  · split
    · exact called
    · next session found =>
        split
        · exact called.trans (Gentle.callCa called.sound ref (.stop id))
        · next unreleased =>
            exact called.trans (Gentle.retouch called.sound found
              (fun session => { session with caActive := true })
              (Session.retouches_caActive unreleased))

/-- A session takes a name and what else the confirm grants at once. -/
theorem adoptId_granted {sender : Session} {confirm : SetupConfirm} :
    ((client.modify ref fun session => { session with setup := none }).adoptId ref sender
        confirm).modify ref (·.applyConfirm confirm) =
      (client.adoptId ref sender confirm).modify ref (Session.granted confirm) := by
  have live : (client.modify ref fun session => { session with setup := none }).isLive =
      client.isLive := isLive_modify fun _ => rfl
  simp only [Client.adoptId]
  split
  · rw [live]
    simp only [modify, List.modify_modify_eq]
    rfl
  · exact modify_modify

/-- The client right after a session was granted. -/
theorem Gentle.granted (sound : client.Sound) (found : client.session? ref = some session)
    (sent : session.state = .setupSent) (sender : Session) (confirm : SetupConfirm) :
    Gentle ref client ((client.adoptId ref sender confirm).modify ref (Session.granted confirm)) ∧
      ∃ stored, ((client.adoptId ref sender confirm).modify ref
          (Session.granted confirm)).session? ref = some stored ∧
        stored.setup = none ∧ stored.state.isEstablished = true := by
  have named := Gentle.adoptId sound ref sender confirm
  obtain ⟨stored, present, state⟩ := session?_adoptId found sender confirm
  refine ⟨named.trans (Gentle.retouch named.sound present (Session.granted confirm)
    (Session.retouches_granted (state.trans sent) confirm)), _, session?_modify_self present,
    ?_, ?_⟩
  · exact Session.setup_granted confirm
  · exact Session.isEstablished_granted confirm

/-- What follows once a session is granted: it is kept alive, its conditional access begins,
and its owner is told. -/
def welcome (during : Client → Client) (ref : SessionRef) (client : Client) : Client :=
  let client := client.armKeepAlive ref
  match client.session? ref with
  | none => client
  | some ready =>
      let client :=
        match ready.caInfo with
        | none => client
        | some info => client.startCa during ref ready.id info ready.entitlementId
      client.tell ref (.ready ready.id ready.endpoint ready.handle)

theorem Gentle.welcome (sound : client.Sound) (idle : IsIdle during)
    (found : client.session? ref = some session) (established : session.state.isEstablished)
    (unset : ∀ alarm ∈ client.courier.agenda.alarms, alarm.task ≠ .keepAlive ref) :
    Gentle ref client (client.welcome during ref) := by
  have armed := Gentle.arm sound found established unset
  unfold Client.welcome
  simp only
  split
  · exact armed
  · next granted _ =>
      split
      · exact armed.trans (Gentle.tell armed.sound ref _)
      · next info _ =>
          have started :=
            armed.trans (Gentle.startCa armed.sound idle ref granted.id info granted.entitlementId)
          exact started.trans (Gentle.tell started.sound ref _)

/-- A session that is not established has no keep-alive alarm. -/
theorem Sound.noAlarm (sound : client.Sound) (found : client.session? ref = some session)
    (other : session.state.isEstablished = false) :
    ∀ alarm ∈ client.courier.agenda.alarms, alarm.task ≠ .keepAlive ref := by
  intro alarm set task
  obtain ⟨again, againFound, keepAlive⟩ := sound.ringing set task
  cases found.symm.trans againFound
  cases ((sound.coherent found).keepAlive_eq_none other).symm.trans keepAlive

theorem alarms_adoptId {sender : Session} {confirm : SetupConfirm} :
    (client.adoptId ref sender confirm).courier = client.courier := by
  simp only [adoptId]
  split <;> rfl

/-! ## Messages -/

/-- What a session does when the request of a transaction has come to its end. -/
structure Handles (ref : SessionRef) (transaction : UInt32) (request : Option SignalKind)
    (client next : Client) : Prop extends Acts ref client next where
  slots : AwaitsLess ref client next
  /-- The session no longer awaits the answer to the request. -/
  settled : ∀ {after kind}, next.session? ref = some after → request = some kind →
    after.slot kind ≠ some transaction

/-- A session may do nothing when no request has come to its end. -/
theorem Handles.unasked (sound : client.Sound) : Handles ref transaction none client client where
  toActs := .refl sound ref
  slots := (Gentle.refl sound ref).slots
  settled _ := nofun

/-- A session may do nothing about a request whose answer it does not await. -/
theorem Handles.ignored {kind : SignalKind} (sound : client.Sound)
    (found : client.session? ref = some session)
    (foreign : session.slot kind ≠ some transaction) :
    Handles ref transaction (some kind) client client where
  toActs := .refl sound ref
  slots := (Gentle.refl sound ref).slots
  settled := by
    rintro after _ afterFound ⟨⟩
    cases found.symm.trans afterFound
    exact foreign

/-- What follows the moment in which a session ceases to await an answer. -/
theorem Handles.of_gentle {kind : SignalKind} {middle : Client} {stored : Session}
    (first : Gentle ref client middle) (second : Gentle ref middle next)
    (found : middle.session? ref = some stored) (settled : stored.slot kind = none) :
    Handles ref transaction (some kind) client next where
  toActs := (first.trans second).acts
  slots := (first.trans second).slots
  settled := by
    rintro after _ afterFound ⟨⟩ slot
    obtain ⟨before, beforeFound, _, _, slots⟩ := second.slots afterFound
    cases found.symm.trans beforeFound
    cases settled.symm.trans (slots slot)

/-- A session that is finished awaits nothing. -/
theorem Handles.finish (first : Gentle ref client next) (reason : ReasonCode)
    (byServer : Bool) :
    Handles ref transaction request client (next.finish ref reason byServer) where
  toActs := first.acts.trans (Acts.finish first.sound ref reason byServer)
  slots := first.slots.trans (awaitsLess_finish reason byServer)
  settled := by
    intro after kind found answers slot
    cases (slot_finish found kind).symm.trans slot

theorem Handles.onSetupConfirm (sound : client.Sound) (idle : IsIdle during)
    (found : client.session? ref = some session) (confirm : SetupConfirm) :
    Handles ref transaction (some .setupRequest) client
      (client.onSetupConfirm during ref transaction confirm) := by
  simp only [Client.onSetupConfirm]
  simp only [found]
  split
  · next foreign =>
      refine .ignored sound found fun slot => ?_
      rcases foreign with other | other
      · rw [Session.slot, (sound.coherent found).setup_eq_none other] at slot
        cases slot
      · exact other slot
  · next expected =>
      obtain ⟨sent, _⟩ := not_or.mp expected
      rw [ne_eq, Decidable.not_not] at sent
      split
      · have refused := Gentle.retouch sound found
          (fun session => { session with setup := none, state := .error })
          (Session.retouches_setup_none sent (.inr rfl))
        exact .of_gentle refused (Gentle.tell refused.sound ref _) (session?_modify_self found) rfl
      · rw [adoptId_granted]
        obtain ⟨granted, stored, present, unset, established⟩ :=
          Gentle.granted sound found sent session confirm
        have welcome := Gentle.welcome granted.sound idle present established fun alarm set => by
          rw [Client.modify, alarms_adoptId] at set
          exact sound.noAlarm found (by rw [sent]; rfl) alarm set
        exact .of_gentle granted welcome present unset

theorem Handles.onReleaseConfirm (sound : client.Sound)
    (found : client.session? ref = some session) (release : Release) :
    Handles ref transaction (some (.release .request)) client
      (client.onReleaseConfirm ref transaction release) := by
  simp only [Client.onReleaseConfirm]
  simp only [found]
  split
  · exact .finish (.refl sound ref) _ _
  · next foreign =>
      refine .ignored sound found fun slot => ?_
      have some : session.release.isSome := Option.isSome_iff_exists.mpr ⟨_, slot⟩
      exact foreign ⟨(sound.coherent found).release.mp some, slot⟩

theorem Handles.onReleaseIndication (sound : client.Sound)
    (found : client.session? ref = some session) (active : session.IsActive)
    (release : Release) :
    Handles ref transaction none client
      (client.onReleaseIndication ref transaction release) := by
  have sent : Gentle ref client (client.submit ref session ⟨transaction, [],
      .release .response ⟨session.id, release.reason, {}⟩⟩ 0).2 :=
    Gentle.send sound found rfl active
  simp only [Client.onReleaseIndication]
  simp only [found]
  split
  · next released => exact absurd released active.2
  · exact .finish sent _ _

theorem Handles.onStatusConfirm (sound : client.Sound)
    (found : client.session? ref = some session) (status : ClientStatus) :
    Handles ref transaction (some .statusRequest) client
      (client.onStatusConfirm ref transaction status) := by
  simp only [Client.onStatusConfirm]
  simp only [found]
  split
  · have cleared := Gentle.retouch sound found
      (fun session => { session with status := none }) Session.retouches_status_none
    exact .of_gentle cleared (Gentle.tell cleared.sound ref _) (session?_modify_self found) rfl
  · next foreign =>
      exact .ignored sound found foreign

theorem Handles.onResetConfirm (sound : client.Sound)
    (found : client.session? ref = some session) (reset : ClientReset) :
    Handles ref transaction (some (.reset .request)) client
      (client.onResetConfirm ref transaction reset) := by
  simp only [Client.onResetConfirm]
  simp only [found]
  split
  · have cleared := Gentle.retouch sound found
      (fun session => { session with reset := none }) Session.retouches_reset_none
    exact .finish cleared _ _
  · next foreign =>
      exact .ignored sound found foreign

/-- An active session handles any message by itself. -/
theorem Handles.handle (sound : client.Sound) (idle : IsIdle during)
    (found : client.session? ref = some session) (active : session.IsActive)
    (message : Signal) :
    Handles ref message.transaction message.kind.request? client
      (client.handle during ref message) := by
  simp only [Client.handle, Signal.kind]
  cases message.body with
  | setupConfirm confirm => exact .onSetupConfirm sound idle found confirm
  | release step release =>
      cases step with
      | confirm => exact .onReleaseConfirm sound found release
      | indication => exact .onReleaseIndication sound found active release
      | request => exact .unasked sound
      | response => exact .unasked sound
  | statusConfirm status => exact .onStatusConfirm sound found status
  | reset step reset =>
      cases step with
      | confirm => exact .onResetConfirm sound found reset
      | indication => exact .unasked sound
      | request => exact .unasked sound
      | response => exact .unasked sound
  | setupRequest => exact .unasked sound
  | connectRequest => exact .unasked sound
  | statusRequest => exact .unasked sound
  | sessionInProgress => exact .unasked sound

/-- A session does nothing with an answer that it does not await. -/
theorem handle_of_foreign {during : Client → Client} {message : Signal} {kind : SignalKind}
    (found : client.session? ref = some session) (answers : message.kind.request? = some kind)
    (foreign : session.slot kind ≠ some message.transaction) :
    client.handle during ref message = client := by
  obtain ⟨transaction, adaptation, body⟩ := message
  simp only [Signal.kind] at answers
  simp only [Client.handle]
  cases body with
  | setupConfirm confirm =>
      cases answers
      simp only [onSetupConfirm, found]
      exact if_pos (.inr foreign)
  | release step release =>
      cases step with
      | confirm =>
          cases answers
          simp only [onReleaseConfirm, found]
          exact if_neg fun awaited => foreign awaited.2
      | indication => cases answers
      | request => cases answers
      | response => cases answers
  | statusConfirm status =>
      cases answers
      simp only [onStatusConfirm, found]
      exact if_neg foreign
  | reset step reset =>
      cases step with
      | confirm =>
          cases answers
          simp only [onResetConfirm, found]
          exact if_neg foreign
      | indication => cases answers
      | request => cases answers
      | response => cases answers
  | setupRequest => cases answers
  | connectRequest => cases answers
  | statusRequest => cases answers
  | sessionInProgress => cases answers

/-! ## Requests that are given up -/

/-- A session that is told that its request was given up no longer awaits the answer. -/
theorem Handles.deliveryFailed (sound : client.Sound) (notice : FailureNotice)
    (found : client.session? notice.owner = some session) :
    Handles notice.owner notice.transaction (some notice.kind) client
      (client.deliveryFailed notice) := by
  simp only [Client.deliveryFailed]
  simp only [found]
  split
  · next kind =>
      rw [kind]
      split
      · next awaited =>
          have sent := (sound.coherent found).setup.mp (awaited ▸ rfl)
          have failed := Gentle.retouch sound found
            (fun session => { session with setup := none, state := .error })
            (Session.retouches_setup_none sent (.inr rfl))
          exact .of_gentle failed (Gentle.tell failed.sound _ _) (session?_modify_self found) rfl
      · next foreign =>
          exact .ignored sound found foreign
  · next kind =>
      rw [kind]
      split
      · exact .finish (Gentle.tell sound _ _) _ _
      · next foreign =>
          exact .ignored sound found foreign
  · next kind =>
      rw [kind]
      split
      · have cleared := Gentle.retouch sound found
          (fun session => { session with status := none }) Session.retouches_status_none
        exact .of_gentle cleared (Gentle.tell cleared.sound _ _) (session?_modify_self found) rfl
      · next foreign =>
          exact .ignored sound found foreign
  · next kind =>
      rw [kind]
      split
      · have cleared := Gentle.retouch sound found
          (fun session => { session with reset := none }) Session.retouches_reset_none
        exact .of_gentle cleared (Gentle.tell cleared.sound _ _) (session?_modify_self found) rfl
      · next foreign =>
          exact .ignored sound found foreign
  · next noSetup noRelease noStatus noReset =>
      refine .ignored sound found fun slot => ?_
      unfold Session.slot at slot
      split at slot
      · exact noSetup ‹_›
      · exact noRelease ‹_›
      · exact noStatus ‹_›
      · exact noReset ‹_›
      · cases slot

/-! ## Routes -/

/-- A message that names a session is brought to the live session of that number, and if
there is none, to one that awaits its transaction. -/
theorem route_of_named {message : Signal} {id : SessionId}
    (names : message.body.session? = some id) (named : id.isZero = false) :
    client.route message =
      (client.routes.lookup client.isLive id.number).or
        (client.routes.routeTransaction client.isLive client.awaits message.transaction) := by
  simp only [Client.route, RouteTable.route, names, Option.filter_some, named, Bool.not_false,
    if_true, Option.bind_some, Option.bind_eq_bind]

/-- A route leads to an active session. -/
theorem Sound.active_of_handler (sound : client.Sound) {owner : UInt32}
    (handler : client.routes.handler? owner = some ref) :
    ∃ session, client.session? ref = some session ∧ session.IsActive := by
  obtain ⟨session, found, _, active⟩ := sound.routed.mp handler
  exact ⟨session, found, active⟩

theorem Sound.active_of_mem_handlers (sound : client.Sound)
    (member : ref ∈ client.routes.handlers client.isLive) :
    ∃ session, client.session? ref = some session ∧ session.IsActive := by
  obtain ⟨_, owner, handler⟩ := sound.routes.mem_handlers.mp member
  exact sound.active_of_handler handler

/-- As long as no transaction is drawn twice, it leads to the session that awaits it. -/
theorem Sound.routeTransaction_eq (sound : client.Sound) (nodup : client.drawn.Nodup)
    (found : client.session? ref = some session) (active : session.IsActive) {kind : SignalKind}
    (slot : session.slot kind = some transaction) :
    client.routes.routeTransaction client.isLive client.awaits transaction = some ref := by
  have reached : ref ∈ client.routes.handlers client.isLive := by
    refine sound.routes.mem_handlers.mpr ⟨?_, session.number, ?_⟩
    · rw [isLive, found]
      exact active.1
    · exact sound.routed.mpr ⟨session, found, rfl, active⟩
  have awaits : client.awaits ref transaction = true := by
    rw [Client.awaits, found]
    exact Session.awaits_iff.mpr ⟨kind, slot⟩
  simp only [RouteTable.routeTransaction]
  cases first : (client.routes.handlers client.isLive).find? fun handler =>
      client.awaits handler transaction with
  | none => exact absurd awaits (List.find?_eq_none.mp first ref reached)
  | some other =>
      -- whoever awaits the transaction is the session itself
      have otherAwaits := List.find?_some first
      obtain ⟨otherSession, otherFound, _⟩ :=
        sound.active_of_mem_handlers (List.mem_of_find?_eq_some first)
      rw [Client.awaits, otherFound] at otherAwaits
      obtain ⟨otherKind, otherSlot⟩ := Session.awaits_iff.mp otherAwaits
      have same := sound.apart nodup otherFound otherSlot found slot
      rw [same.1]

/-- A message is brought to an active session. -/
theorem Sound.active_of_route (sound : client.Sound) {message : Signal}
    (routed : client.route message = some ref) :
    ∃ session, client.session? ref = some session ∧ session.IsActive := by
  simp only [Client.route] at routed
  rcases Option.or_eq_some_iff.mp routed with named | ⟨_, awaited⟩
  · obtain ⟨_, _, named⟩ := Option.bind_eq_some_iff.mp named
    obtain ⟨id, _, named⟩ := Option.bind_eq_some_iff.mp named
    obtain ⟨owner, _, named⟩ := Option.bind_eq_some_iff.mp named
    obtain ⟨route, found, named⟩ := Option.bind_eq_some_iff.mp named
    split at named
    · cases named
      have handler : client.routes.handler? owner = some route.handler := by
        rw [RouteTable.handler?, found, Option.map_some]
      exact sound.active_of_handler handler
    · cases named
  · exact sound.active_of_mem_handlers (List.mem_of_find?_eq_some awaited)

end Client

end OnDemand
