import OnDemand.Proofs.Request.Pulse
import OnDemand.Proofs.Session.Abiding

/-!
# What a session keeps up while it stands

Two things run beside a session while it stands: its keep-alive, by an alarm that the session sets
anew each time it rings, and its conditional access, by a call that begins it and a call that ends
it.  Most of what happens to a client touches neither (`Rests`).  The rest is done to one session:
its alarm is taken back (`Quiets`), it ends (`Ends`), or it is granted (`Grants`).
-/

namespace OnDemand

/-- Whether a session was not granted yet, but may still be. -/
def SessionState.isUngranted : SessionState → Bool
  | idle | setupSent => true
  | _ => false

/-- The failure of a call, by its detail. -/
def CaCall.failure : CaCall → String → CaFault
  | start .. => .notStarted
  | stop _ => .notEnded

/-- The failure of the conditional-access component that an event tells of. -/
def SessionEvent.caFault? : SessionEvent → Option CaFault
  | caFailed fault => some fault
  | _ => none

namespace Session

/-- The failures of the conditional-access component that a session was told of, earliest first. -/
def faults (session : Session) : List CaFault := session.events.filterMap SessionEvent.caFault?

/-- Whether a session is to be kept alive: its owner holds it, and it is established. -/
def isSustained (session : Session) : Bool := session.isHeld && session.state.isEstablished

/-- The calls by which conditional access is begun when a session is granted. -/
def starts (session : Session) : List CaCall :=
  session.caInfo.toList.map fun info => .start session.id info session.entitlementId

/-- The calls by which conditional access is ended with a session. -/
def stops (session : Session) : List CaCall :=
  if session.caActive then [.stop session.id] else []

/-- The conditional access of a session is left alone, and the session neither ends nor becomes
one that may still be granted. -/
structure Stays (before after : Session) : Prop where
  id : after.id = before.id
  caInfo : after.caInfo = before.caInfo
  caActive : after.caActive = before.caActive
  faults : after.faults = before.faults
  released : after.state = .released ↔ before.state = .released
  ungranted : after.state.isUngranted = true → before.state.isUngranted = true

/-- The keep-alive of a session is left alone, too. -/
structure Persists (before after : Session) : Prop extends Stays before after where
  keepAlive : after.keepAlive = before.keepAlive
  sustained : after.isSustained = before.isSustained

variable {before middle after : Session}

/-- A session that is not established is not kept alive. -/
theorem isSustained_eq_false (unestablished : before.state.isEstablished = false) :
    before.isSustained = false := by
  rw [isSustained, unestablished, Bool.and_false]

theorem Stays.of_eq (id : after.id = before.id) (caInfo : after.caInfo = before.caInfo)
    (caActive : after.caActive = before.caActive) (events : after.events = before.events)
    (state : after.state = before.state) : before.Stays after where
  id := id
  caInfo := caInfo
  caActive := caActive
  faults := congrArg (List.filterMap SessionEvent.caFault?) events
  released := by rw [state]
  ungranted := by
    rw [state]
    exact fun same => same

theorem Persists.of_eq (id : after.id = before.id) (caInfo : after.caInfo = before.caInfo)
    (caActive : after.caActive = before.caActive) (events : after.events = before.events)
    (state : after.state = before.state) (isHeld : after.isHeld = before.isHeld)
    (keepAlive : after.keepAlive = before.keepAlive) : before.Persists after where
  toStays := .of_eq id caInfo caActive events state
  keepAlive := keepAlive
  sustained := by rw [isSustained, isHeld, state, isSustained]

theorem Stays.refl (session : Session) : session.Stays session := .of_eq rfl rfl rfl rfl rfl

theorem Persists.refl (session : Session) : session.Persists session :=
  .of_eq rfl rfl rfl rfl rfl rfl rfl

theorem Stays.trans (first : before.Stays middle) (second : middle.Stays after) :
    before.Stays after where
  id := second.id.trans first.id
  caInfo := second.caInfo.trans first.caInfo
  caActive := second.caActive.trans first.caActive
  faults := second.faults.trans first.faults
  released := second.released.trans first.released
  ungranted := first.ungranted ∘ second.ungranted

theorem Persists.trans (first : before.Persists middle) (second : middle.Persists after) :
    before.Persists after where
  toStays := first.toStays.trans second.toStays
  keepAlive := second.keepAlive.trans first.keepAlive
  sustained := second.sustained.trans first.sustained

theorem Stays.ungranted_of (stays : before.Stays after)
    (unset : before.state.isUngranted = true → before.caInfo = none ∧ before.caActive = false)
    (ungranted : after.state.isUngranted = true) :
    after.caInfo = none ∧ after.caActive = false := by
  rw [stays.caInfo, stays.caActive]
  exact unset (stays.ungranted ungranted)

theorem Stays.granted_of (stays : before.Stays after) (granted : before.state.isUngranted = false) :
    after.state.isUngranted = false := by
  apply Bool.eq_false_iff.mpr
  intro impossible
  cases granted.symm.trans (stays.ungranted impossible)

/-- What a session was told of anything else says nothing of its conditional access. -/
theorem faults_append (session : Session) (told : List SessionEvent) :
    faults { session with events := session.events ++ told } =
      session.faults ++ told.filterMap SessionEvent.caFault? :=
  List.filterMap_append

theorem persists_tell {event : SessionEvent} (other : event.caFault? = none) (session : Session) :
    session.Persists (session.tell event) := by
  have faults : (session.tell event).faults = session.faults := by
    rw [tell, faults_append, List.filterMap_cons_none other, List.filterMap_nil, List.append_nil]
  exact ⟨⟨rfl, rfl, rfl, faults, .rfl, fun same => same⟩, rfl, rfl⟩

theorem faults_caFailed (faults : List CaFault) :
    (faults.map SessionEvent.caFailed).filterMap SessionEvent.caFault? = faults := by
  rw [List.filterMap_map]
  exact List.filterMap_some

/-- Only a resource that holds it brings a session what conditional access takes. -/
theorem caInfo_foldl_applyResource {info : ClientCaInfo} (resources : List Resource)
    (session : Session) (found : (resources.foldl applyResource session).caInfo = some info) :
    session.caInfo = some info ∨
      ∃ resource ∈ resources, resource.content = .clientCaInfo info := by
  induction resources generalizing session with
  | nil => exact .inl found
  | cons resource rest ih =>
      rcases ih (session.applyResource resource) found with before | ⟨later, member, content⟩
      · simp only [applyResource] at before
        split at before
        case h_5 given content =>
          cases before
          exact .inr ⟨resource, List.mem_cons_self, content⟩
        all_goals exact .inl before
      · exact .inr ⟨later, List.mem_cons_of_mem _ member, content⟩

theorem caInfo_granted {info : ClientCaInfo} {confirm : SetupConfirm}
    (found : (before.granted confirm).caInfo = some info) :
    before.caInfo = some info ∨
      ∃ resource ∈ confirm.resources, resource.content = .clientCaInfo info := by
  apply caInfo_foldl_applyResource confirm.resources { before with setup := none }
  simp only [granted, applyConfirm, applyPrivateData] at found
  split at found
  · exact found
  · split at found <;> exact found

/-- What a confirm grants says nothing of who holds the session, nor of its keep-alive. -/
theorem granted_leaves (confirm : SetupConfirm) (session : Session) :
    (session.granted confirm).isHeld = session.isHeld ∧
      (session.granted confirm).keepAlive = session.keepAlive ∧
      (session.granted confirm).caActive = session.caActive := by
  obtain ⟨_, _, _, _, _, _, _, applied⟩ := applyConfirm_eq { session with setup := none } confirm
  rw [granted, applied]
  exact ⟨rfl, rfl, rfl⟩

/-- A session was made just now. -/
structure IsNew (session : Session) : Prop where
  state : session.state = .idle
  keepAlive : session.keepAlive = none
  caInfo : session.caInfo = none
  caActive : session.caActive = false
  events : session.events = []

end Session

namespace Client

variable {client middle next : Client} {ref other : SessionRef}
  {session stored before after : Session} {change : Session → Session}
  {beat : Option (Alarm Reminder)}

/-- How a call of the conditional-access component would fail now, if it would. -/
def caFault? (client : Client) (call : CaCall) : Option CaFault :=
  (client.ca.fault client.caCalls call).map call.failure

theorem caFault?_congr (ca : next.ca = client.ca) (calls : next.caCalls = client.caCalls) :
    next.caFault? = client.caFault? := by
  funext call
  rw [caFault?, caFault?, ca, calls]

/-- No keep-alive is touched, no call is made, and every session persists. -/
structure Upholds (client next : Client) : Prop where
  settings : next.settings = client.settings
  ca : next.ca = client.ca
  calls : next.caCalls = client.caCalls
  serves : client.courier.Serves next.courier
  persists : ∀ {ref before}, client.session? ref = some before →
    ∃ after, next.session? ref = some after ∧ before.Persists after
  absent : ∀ {ref}, client.session? ref = none → next.session? ref = none

theorem Upholds.trans (first : Upholds client middle) (second : Upholds middle next) :
    Upholds client next where
  settings := second.settings.trans first.settings
  ca := second.ca.trans first.ca
  calls := second.calls.trans first.calls
  serves := first.serves.serves second.serves
  persists found := by
    obtain ⟨between, betweenFound, one⟩ := first.persists found
    obtain ⟨after, afterFound, two⟩ := second.persists betweenFound
    exact ⟨after, afterFound, one.trans two⟩
  absent none := second.absent (first.absent none)

/-- What changes no session. -/
theorem Upholds.aside (sessions : next.sessions = client.sessions)
    (settings : next.settings = client.settings) (ca : next.ca = client.ca)
    (calls : next.caCalls = client.caCalls) (serves : client.courier.Serves next.courier) :
    Upholds client next where
  settings := settings
  ca := ca
  calls := calls
  serves := serves
  persists {ref before} found :=
    ⟨before, by rw [session?, sessions]; exact found, .refl before⟩
  absent {ref} none := by rw [session?, sessions]; exact none

theorem Upholds.refl (regular : client.courier.Regular) : Upholds client client :=
  .aside rfl rfl rfl rfl (.refl regular)

/-- A session is changed and persists. -/
theorem Upholds.of_modify (sessions : next.sessions = client.sessions.modify ref change)
    (persists : ∀ session, client.session? ref = some session →
      session.Persists (change session))
    (settings : next.settings = client.settings) (ca : next.ca = client.ca)
    (calls : next.caCalls = client.caCalls) (serves : client.courier.Serves next.courier) :
    Upholds client next where
  settings := settings
  ca := ca
  calls := calls
  serves := serves
  persists {other before} found := by
    refine ⟨_, (session?_of_sessions sessions).trans
      (session?_modify_eq_some.mpr ⟨before, found, rfl⟩), ?_⟩
    split
    · next own => exact persists before (own ▸ found)
    · exact .refl before
  absent {other} none := by
    rw [session?_of_sessions sessions, session?_modify, none]
    split <;> rfl

theorem Upholds.modify (regular : client.courier.Regular) (ref : SessionRef)
    (change : Session → Session)
    (persists : ∀ session, client.session? ref = some session →
      session.Persists (change session)) : Upholds client (client.modify ref change) :=
  .of_modify rfl persists rfl rfl rfl (.refl regular)

theorem Upholds.tell (regular : client.courier.Regular) (ref : SessionRef) {event : SessionEvent}
    (other : event.caFault? = none) : Upholds client (client.tell ref event) :=
  .modify regular ref _ fun session _ => session.persists_tell other

/-- No keep-alive is touched, no call is made, and sessions persist or are new. -/
structure Maintains (client next : Client) : Prop where
  settings : next.settings = client.settings
  calls : next.caCalls = client.caCalls
  serves : client.courier.Serves next.courier
  persists : ∀ {ref before}, client.session? ref = some before →
    ∃ after, next.session? ref = some after ∧ before.Persists after
  fresh : ∀ {ref after}, client.session? ref = none → next.session? ref = some after → after.IsNew

/-- What changes no session, but perhaps how the component will answer. -/
theorem Maintains.aside (sessions : next.sessions = client.sessions)
    (settings : next.settings = client.settings) (calls : next.caCalls = client.caCalls)
    (serves : client.courier.Serves next.courier) : Maintains client next where
  settings := settings
  calls := calls
  serves := serves
  persists {ref before} found :=
    ⟨before, by rw [session?, sessions]; exact found, .refl before⟩
  fresh absent found := by
    rw [session?, sessions] at found
    cases absent.symm.trans found

theorem Upholds.maintains (upholds : Upholds client next) : Maintains client next where
  settings := upholds.settings
  calls := upholds.calls
  serves := upholds.serves
  persists := upholds.persists
  fresh absent found := by cases (upholds.absent absent).symm.trans found

/-- A message that is no keep-alive is submitted. -/
theorem Upholds.submit (regular : client.courier.Regular) {message : Signal}
    (canonical : message.IsCanonical) (other : message.kind ≠ .sessionInProgress)
    (ref : SessionRef) (session : Session) (retries : Nat) :
    Upholds client (client.submit ref session message retries).2 :=
  .aside rfl rfl rfl rfl (.submit regular canonical other retries session.number ref)

/-! ## Keep-alive alarms -/

/-- The keep-alive alarms that are set are those that sessions know of, and sessions have one
exactly while they are to be kept alive. -/
structure Paced (client : Client) : Prop where
  ringing : ∀ {alarm ref}, alarm ∈ client.courier.agenda.alarms →
    alarm.task = .keepAlive ref →
    ∃ session, client.session? ref = some session ∧ session.keepAlive = some alarm.handle
  waits : ∀ {ref session handle}, client.session? ref = some session →
    session.keepAlive = some handle →
    ∃ alarm ∈ client.courier.agenda.alarms, alarm.handle = handle ∧ alarm.task = .keepAlive ref
  kept : ∀ {ref session}, client.session? ref = some session →
    (session.keepAlive.isSome ↔
      client.settings.keepAliveInterval ≠ 0 ∧ session.isSustained = true)

theorem Maintains.paced (maintains : Maintains client next) (paced : client.Paced) :
    next.Paced where
  ringing waits task := by
    obtain ⟨before, found, keepAlive⟩ :=
      paced.ringing ((maintains.serves.mem_alarms task).mp waits) task
    obtain ⟨after, afterFound, persists⟩ := maintains.persists found
    exact ⟨after, afterFound, persists.keepAlive.trans keepAlive⟩
  waits {ref session handle} found keepAlive := by
    cases present : client.session? ref with
    | none => cases (maintains.fresh present found).keepAlive.symm.trans keepAlive
    | some before =>
        obtain ⟨after, afterFound, persists⟩ := maintains.persists present
        cases found.symm.trans afterFound
        obtain ⟨alarm, waits, named, task⟩ :=
          paced.waits present (persists.keepAlive.symm.trans keepAlive)
        exact ⟨alarm, (maintains.serves.mem_alarms task).mpr waits, named, task⟩
  kept {ref session} found := by
    cases present : client.session? ref with
    | none =>
        have new := maintains.fresh present found
        rw [new.keepAlive, Session.isSustained_eq_false (by rw [new.state]; rfl)]
        simp
    | some before =>
        obtain ⟨after, afterFound, persists⟩ := maintains.persists present
        cases found.symm.trans afterFound
        rw [persists.keepAlive, persists.sustained, maintains.settings]
        exact paced.kept present

/-- A session takes its keep-alive alarm back, and no other. -/
theorem Paced.disarm (paced : client.Paced) (regular : client.courier.Regular)
    (found : client.session? ref = some session) :
    client.courier.Tends session.keepAlive none [] (client.disarmKeepAlive ref).courier := by
  simp only [disarmKeepAlive]
  rw [found, Option.bind_some]
  split
  · next none => exact none ▸ Courier.Serves.refl regular
  · next handle keepAlive =>
      obtain ⟨alarm, waits, named, task⟩ := paced.waits found keepAlive
      rw [keepAlive]
      refine .disarm regular fun other otherWaits same => ⟨ref, ?_⟩
      rw [regular.agenda.eq_of_handle_eq otherWaits waits (same.trans named.symm)]
      exact task

/-- The alarm by which a session is kept alive from now on, if it is. -/
def NextBeat (ref : SessionRef) (beat : Option (Alarm Reminder)) (client : Client) : Prop :=
  let interval := client.settings.keepAliveInterval
  ∃ handle, beat =
    if interval = 0 then none
    else some ⟨client.courier.agenda.now + interval, handle, .keepAlive ref⟩

/-- A session is given a keep-alive alarm, unless the interval is zero. -/
theorem nextBeat_armKeepAlive (regular : client.courier.Regular)
    (found : client.session? ref = some session) :
    ∃ beat, NextBeat ref beat client ∧
      client.courier.Tends none beat [] (client.armKeepAlive ref).courier ∧
      (client.armKeepAlive ref).session? ref =
        some { session with keepAlive := (beat.map Alarm.handle).or session.keepAlive } := by
  simp only [armKeepAlive]
  split
  · next zero =>
      exact ⟨none, ⟨0, by rw [if_pos zero]⟩, Courier.Serves.refl regular, found⟩
  · next positive =>
      refine ⟨_, ⟨client.courier.agenda.nextHandle, by rw [if_neg positive]⟩, ?_, ?_⟩
      · exact .arm regular _ ref
      · exact session?_modify_self found

theorem caCalls_armKeepAlive : (client.armKeepAlive ref).caCalls = client.caCalls := by
  simp only [armKeepAlive]
  split <;> rfl

theorem ca_armKeepAlive : (client.armKeepAlive ref).ca = client.ca := by
  simp only [armKeepAlive]
  split <;> rfl

theorem settings_armKeepAlive : (client.armKeepAlive ref).settings = client.settings := by
  simp only [armKeepAlive]
  split <;> rfl

/-- The keep-alive alarm of a session is taken back, and the session is not kept alive any
more. -/
structure Quiets (ref : SessionRef) (before after : Session) (client next : Client) : Prop where
  settings : next.settings = client.settings
  calls : next.caCalls = client.caCalls
  found : client.session? ref = some before
  afterFound : next.session? ref = some after
  stays : before.Stays after
  keepAlive : after.keepAlive = none
  unsustained : after.isSustained = false
  tends : client.courier.Tends before.keepAlive none [] next.courier

/-! ## The end of a session -/

theorem caCalls_stopCa : (client.stopCa ref session).caCalls = session.stops ++ client.caCalls := by
  rw [stopCa_eq, Session.stops]
  split
  · split <;> rfl
  · rfl

/-- Of the end of its conditional access a session hears when it fails. -/
theorem session?_stopCa_eq (session : Session) (found : client.session? ref = some stored) :
    (client.stopCa ref session).session? ref =
      some { stored with
        events := stored.events ++
          (session.stops.filterMap client.caFault?).map .caFailed } := by
  have silent : { stored with events := stored.events ++ [] } = stored := by rw [List.append_nil]
  rw [stopCa_eq, Session.stops]
  split
  · split
    · next fine =>
        have answer : client.caFault? (.stop session.id) = none := by rw [caFault?, fine]; rfl
        simp only [List.filterMap_cons, answer, List.filterMap_nil, List.map_nil, silent]
        exact found
    · next detail failed =>
        have answer : client.caFault? (.stop session.id) = some (.notEnded detail) := by
          rw [caFault?, failed]
          rfl
        simp only [List.filterMap_cons, answer, List.filterMap_nil, List.map_cons, List.map_nil]
        exact session?_modify_self found
  · rw [List.filterMap_nil, List.map_nil, silent]
    exact found

theorem settings_stopCa : (client.stopCa ref session).settings = client.settings := by
  rw [stopCa_eq]
  split
  · split <;> rfl
  · rfl

section Finishing

variable {reason : ReasonCode} {byServer : Bool}

theorem caCalls_disarmKeepAlive : (client.disarmKeepAlive ref).caCalls = client.caCalls := by
  simp only [disarmKeepAlive]
  split <;> rfl

theorem ca_disarmKeepAlive : (client.disarmKeepAlive ref).ca = client.ca := by
  simp only [disarmKeepAlive]
  split <;> rfl

theorem settings_disarmKeepAlive : (client.disarmKeepAlive ref).settings = client.settings := by
  simp only [disarmKeepAlive]
  split <;> rfl

/-- A session ends in three steps: it lets go of all that it holds, conditional access ends, and
its owner is told. -/
theorem finish_eq (found : client.session? ref = some session) :
    client.finish ref reason byServer =
      (((client.disarmKeepAlive ref).letGo ref closed session.number).stopCa ref session).tell ref
        (.released reason byServer) := by
  simp only [finish]
  simp only [found, disarmKeepAlive_modify_closed]
  rfl

theorem courier_finish (found : client.session? ref = some session) :
    (client.finish ref reason byServer).courier =
      ((client.disarmKeepAlive ref).courier.cancelSession session.number).2 := by
  rw [finish_eq found]
  exact courier_stopCa

theorem caCalls_finish (found : client.session? ref = some session) :
    (client.finish ref reason byServer).caCalls = session.stops ++ client.caCalls := by
  rw [finish_eq found]
  refine caCalls_stopCa.trans (congrArg (session.stops ++ ·) ?_)
  exact caCalls_disarmKeepAlive

theorem settings_finish : (client.finish ref reason byServer).settings = client.settings := by
  cases found : client.session? ref with
  | none => simp only [finish, found]
  | some session =>
      rw [finish_eq found]
      exact settings_stopCa.trans settings_disarmKeepAlive

theorem session?_finish_eq (found : client.session? ref = some session) :
    (client.finish ref reason byServer).session? ref =
      some { closed { session with keepAlive := none } with
        events := session.events ++
          ((session.stops.filterMap client.caFault?).map .caFailed ++
            [.released reason byServer]) } := by
  have gone : ((client.disarmKeepAlive ref).letGo ref closed session.number).session? ref =
      some (closed { session with keepAlive := none }) :=
    session?_modify_self (session?_disarmKeepAlive found)
  have answers : caFault? ((client.disarmKeepAlive ref).letGo ref closed session.number) =
      client.caFault? := caFault?_congr ca_disarmKeepAlive caCalls_disarmKeepAlive
  rw [finish_eq found, ← List.append_assoc]
  have stopped := session?_stopCa_eq session gone
  rw [answers] at stopped
  exact session?_tell stopped

end Finishing

/-- A session ends, and with it its keep-alive and its conditional access. -/
structure Ends (ref : SessionRef) (before after : Session) (client next : Client) : Prop where
  settings : next.settings = client.settings
  found : client.session? ref = some before
  afterFound : next.session? ref = some after
  unreleased : before.state ≠ .released
  released : after.state = .released
  id : after.id = before.id
  keepAlive : after.keepAlive = none
  caActive : after.caActive = false
  calls : next.caCalls = before.stops ++ client.caCalls
  faults : after.faults = before.faults ++ before.stops.filterMap client.caFault?
  tends : client.courier.Tends before.keepAlive none [] next.courier

theorem Ends.finish (found : client.session? ref = some before)
    (unreleased : before.state ≠ .released) (present : middle.session? ref = some stored)
    (stays : before.Stays stored) (settings : middle.settings = client.settings)
    (ca : middle.ca = client.ca) (calls : middle.caCalls = client.caCalls)
    (tends : client.courier.Tends before.keepAlive none [] (middle.disarmKeepAlive ref).courier)
    (reason : ReasonCode) (byServer : Bool) :
    ∃ after, Ends ref before after client (middle.finish ref reason byServer) := by
  have stops : stored.stops = before.stops := by
    rw [Session.stops, stays.caActive, stays.id, Session.stops]
  refine ⟨_, settings_finish.trans settings, found, session?_finish_eq present, unreleased, rfl,
    stays.id, rfl, rfl, ?_, ?_, ?_⟩
  · rw [caCalls_finish present, stops, calls]
  · have told : Session.faults { closed { stored with keepAlive := none } with
        events := stored.events ++
          ((stored.stops.filterMap middle.caFault?).map .caFailed ++
            [.released reason byServer]) } =
        stored.faults ++ stored.stops.filterMap middle.caFault? := by
      rw [Session.faults, List.filterMap_append, List.filterMap_append, Session.faults_caFailed]
      simp [Session.faults, SessionEvent.caFault?]
    rw [told, stays.faults, stops, caFault?_congr ca calls]
  · rw [courier_finish present]
    exact tends.serves (.cancelSession tends.regular _)

/-- After something that touches neither keep-alives nor conditional access a session ends. -/
theorem Upholds.finish (upholds : Upholds client middle) (paced : client.Paced)
    (found : client.session? ref = some before) (unreleased : before.state ≠ .released)
    (reason : ReasonCode) (byServer : Bool) :
    ∃ after, Ends ref before after client (middle.finish ref reason byServer) := by
  obtain ⟨stored, present, persists⟩ := upholds.persists found
  have disarmed := (upholds.maintains.paced paced).disarm upholds.serves.regular present
  rw [persists.keepAlive] at disarmed
  exact Ends.finish found unreleased present persists.toStays upholds.settings upholds.ca
    upholds.calls (upholds.serves.tends disarmed) reason byServer

/-! ## A session is granted -/

/-- A session is granted: it is kept alive from now on, and its conditional access begins if the
confirm holds what that takes. -/
structure Grants (ref : SessionRef) (message : Signal) (before after : Session)
    (client next : Client) : Prop where
  settings : next.settings = client.settings
  found : client.session? ref = some before
  afterFound : next.session? ref = some after
  sent : before.state = .setupSent
  ready : after.state = .serverReady
  isHeld : after.isHeld = before.isHeld
  calls : next.caCalls = after.starts ++ client.caCalls
  faults : after.faults = before.faults ++ after.starts.filterMap client.caFault?
  caActive : after.caActive =
    (before.caActive || after.starts.any fun call => (client.caFault? call).isNone)
  confirmed : ∃ confirm, message.body = .setupConfirm confirm ∧ confirm.response.isOk = true ∧
    before.setup = some message.transaction ∧
    ∀ info, after.caInfo = some info → before.caInfo = some info ∨
      ∃ resource ∈ confirm.resources, resource.content = .clientCaInfo info
  beats : ∃ beat, NextBeat ref beat client ∧
    after.keepAlive = (beat.map Alarm.handle).or before.keepAlive ∧
    client.courier.Tends none beat [] next.courier

section Granting

variable {during : Client → Client}

/-- The client after a granted session has begun its conditional access, if it has any. -/
def beginCa (during : Client → Client) (ref : SessionRef) (session : Session) (client : Client) :
    Client :=
  match session.caInfo with
  | none => client
  | some info => client.startCa during ref session.id info session.entitlementId

theorem welcome_eq (found : (client.armKeepAlive ref).session? ref = some session) :
    client.welcome during ref =
      ((client.armKeepAlive ref).beginCa during ref session).tell ref
        (.ready session.id session.endpoint session.handle) := by
  simp only [welcome]
  simp only [found]
  rfl

/-- Conditional access begins, or its failure is told. -/
theorem startCa_eq (quiet : client.ca.arrival = none) (idle : IsIdle during)
    (found : client.session? ref = some session) (unreleased : session.state ≠ .released)
    (id : SessionId) (info : ClientCaInfo) (entitlement : Option UInt32) :
    client.startCa during ref id info entitlement =
      (client.callCa (.start id info entitlement)).2.modify ref fun session =>
        match client.caFault? (.start id info entitlement) with
        | some fault => session.tell (.caFailed fault)
        | none => { session with caActive := true } := by
  have stillQuiet : (client.callCa (.start id info entitlement)).2.ca.arrival = none := quiet
  have present : (client.callCa (.start id info entitlement)).2.session? ref = some session :=
    found
  simp only [Client.startCa]
  simp only [idle _ stillQuiet, present, unreleased, if_false, caFault?]
  simp only [callCa]
  cases client.ca.fault client.caCalls (.start id info entitlement) <;> rfl

/-- What becomes of conditional access when a session is granted. -/
theorem beginCa_eq (quiet : client.ca.arrival = none) (idle : IsIdle during)
    (found : client.session? ref = some session) (unreleased : session.state ≠ .released) :
    (client.beginCa during ref session).settings = client.settings ∧
      (client.beginCa during ref session).courier = client.courier ∧
      (client.beginCa during ref session).caCalls = session.starts ++ client.caCalls ∧
      (client.beginCa during ref session).session? ref =
        some { session with
          caActive := session.caActive ||
            session.starts.any fun call => (client.caFault? call).isNone
          events := session.events ++
            (session.starts.filterMap client.caFault?).map .caFailed } := by
  rw [beginCa]
  split
  · next unset =>
      have none : session.starts = [] := by rw [Session.starts, unset]; rfl
      rw [none]
      refine ⟨rfl, rfl, rfl, ?_⟩
      simpa using found
  · next info asked =>
      have call : session.starts = [.start session.id info session.entitlementId] := by
        rw [Session.starts, asked]
        rfl
      rw [startCa_eq quiet idle found unreleased, call]
      refine ⟨rfl, rfl, rfl, (session?_modify_self found).trans (congrArg some ?_)⟩
      split
      · next fault failed => simp [failed, Session.tell]
      · next fine => simp [fine]

/-- A session that has just been granted is kept alive from now on, and its conditional access
begins. -/
theorem Grants.welcome {message : Signal} {grantee : Client} (regular : client.courier.Regular)
    (quiet : client.ca.arrival = none) (idle : IsIdle during)
    (found : client.session? ref = some before) (sent : before.state = .setupSent)
    (settings : grantee.settings = client.settings) (ca : grantee.ca = client.ca)
    (calls : grantee.caCalls = client.caCalls) (courier : grantee.courier = client.courier)
    (present : grantee.session? ref = some stored) (ready : stored.state = .serverReady)
    (isHeld : stored.isHeld = before.isHeld) (keepAlive : stored.keepAlive = before.keepAlive)
    (caActive : stored.caActive = before.caActive) (events : stored.events = before.events)
    (confirmed : ∃ confirm, message.body = .setupConfirm confirm ∧
      confirm.response.isOk = true ∧ before.setup = some message.transaction ∧
      ∀ info, stored.caInfo = some info → before.caInfo = some info ∨
        ∃ resource ∈ confirm.resources, resource.content = .clientCaInfo info) :
    ∃ after, Grants ref message before after client (grantee.welcome during ref) := by
  obtain ⟨beat, nextBeat, tends, armed⟩ := nextBeat_armKeepAlive (courier ▸ regular) present
  have stillQuiet : (grantee.armKeepAlive ref).ca.arrival = none := by
    rw [ca_armKeepAlive, ca]
    exact quiet
  have unreleased : stored.state ≠ .released := by
    rw [ready]
    decide
  obtain ⟨begunSettings, begunCourier, begunCalls, begun⟩ :=
    beginCa_eq stillQuiet idle armed unreleased
  rw [caFault?_congr (ca_armKeepAlive.trans ca) (caCalls_armKeepAlive.trans calls)] at begun
  rw [NextBeat, settings, courier] at nextBeat
  rw [courier, ← begunCourier] at tends
  rw [welcome_eq armed]
  refine ⟨_, begunSettings.trans (settings_armKeepAlive.trans settings), found,
    session?_tell begun, sent, ready, isHeld, ?_, ?_, congrArg (· || _) caActive, confirmed,
    beat, nextBeat, congrArg (Option.or _) keepAlive, tends⟩
  · exact begunCalls.trans (congrArg _ (caCalls_armKeepAlive.trans calls))
  · simp only [Session.faults, Session.tell, List.filterMap_append, Session.faults_caFailed, events]
    exact List.append_nil _

/-- The session takes what the confirm grants, and is welcomed. -/
theorem onSetupConfirm_granted {transaction : UInt32} {confirm : SetupConfirm}
    (found : client.session? ref = some session) (sent : session.state = .setupSent)
    (awaited : session.setup = some transaction) (positive : confirm.response.isOk = true) :
    client.onSetupConfirm during ref transaction confirm =
      ((client.adoptId ref session confirm).modify ref (Session.granted confirm)).welcome
        during ref := by
  simp only [Client.onSetupConfirm]
  simp only [found, sent, awaited, positive, ne_eq, not_true_eq_false, or_self, if_false]
  rw [adoptId_granted]
  rfl

theorem Grants.onSetupConfirm {message : Signal} {confirm : SetupConfirm}
    (regular : client.courier.Regular) (quiet : client.ca.arrival = none) (idle : IsIdle during)
    (found : client.session? ref = some session) (sent : session.state = .setupSent)
    (awaited : session.setup = some message.transaction)
    (body : message.body = .setupConfirm confirm) (positive : confirm.response.isOk = true) :
    ∃ after, Grants ref message session after client
      (client.onSetupConfirm during ref message.transaction confirm) := by
  obtain ⟨id, present⟩ := session?_adoptId_eq found session confirm
  obtain ⟨settings, ca, calls⟩ : (client.adoptId ref session confirm).settings = client.settings ∧
      (client.adoptId ref session confirm).ca = client.ca ∧
      (client.adoptId ref session confirm).caCalls = client.caCalls := by
    simp only [adoptId]
    split <;> exact ⟨rfl, rfl, rfl⟩
  obtain ⟨isHeld, keepAlive, caActive⟩ := Session.granted_leaves confirm { session with id }
  rw [onSetupConfirm_granted found sent awaited positive]
  exact Grants.welcome regular quiet idle found sent settings ca calls alarms_adoptId
    (session?_modify_self present) (Session.state_granted confirm) isHeld keepAlive caActive
    (Session.events_granted confirm)
    ⟨confirm, body, positive, awaited, fun _ => Session.caInfo_granted⟩

end Granting

end Client

end OnDemand
