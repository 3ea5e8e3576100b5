import OnDemand.Proofs.Session.Run
import OnDemand.Proofs.Session.Turning

/-!
# An action is at most one turn of each session

A message brought to one session turns that session only, a reset of the network tells all
sessions something minor, and a new session is idle.  So for every action of a client, other
than that time passes, and for every alarm that rings, each session takes one turn.
-/

namespace OnDemand

namespace Client

variable {client middle next : Client} {ref other : SessionRef} {session before : Session}

/-- The client after each of its sessions has taken a turn, and new ones may have been
made. -/
structure Follows (client next : Client) : Prop where
  orderly : next.Orderly
  turns : ∀ {ref before}, client.session? ref = some before →
    ∃ after, next.session? ref = some after ∧ before.Turns after
  fresh : ∀ {ref after}, client.session? ref = none → next.session? ref = some after →
    after.state = .idle ∧ after.events = []

/-- The client after all of its sessions have rested. -/
structure Calm (client next : Client) : Prop where
  orderly : next.Orderly
  rests : ∀ {ref before}, client.session? ref = some before →
    ∃ after, next.session? ref = some after ∧ before.Rests after
  absent : ∀ {ref}, client.session? ref = none → next.session? ref = none

theorem Turned.follows (turned : Turned ref client next) (orderly : client.Orderly) :
    Follows client next where
  orderly := turned.orderly orderly
  turns {other before} found := by
    by_cases own : other = ref
    · subst own
      obtain ⟨after, afterFound, turns, _⟩ := turned.turns found
      exact ⟨after, afterFound, turns⟩
    · have rests := Session.Rests.refl (orderly.coherent found)
      exact ⟨before, (turned.others own).trans found, rests.turns⟩
  fresh {other after} absent found := by
    by_cases own : other = ref
    · subst own
      cases (turned.absent absent).symm.trans found
    · cases absent.symm.trans ((turned.others own).symm.trans found)

theorem Rested.calm (rested : Rested ref client next) (orderly : client.Orderly) :
    Calm client next where
  orderly := rested.orderly orderly
  rests {other before} found := by
    by_cases own : other = ref
    · subst own
      exact rested.rests found
    · exact ⟨before, (rested.others own).trans found, .refl (orderly.coherent found)⟩
  absent {other} none := by
    by_cases own : other = ref
    · subst own
      exact rested.absent none
    · exact (rested.others own).trans none

theorem Calm.trans (first : Calm client middle) (second : Calm middle next) :
    Calm client next where
  orderly := second.orderly
  rests found := by
    obtain ⟨between, betweenFound, one⟩ := first.rests found
    obtain ⟨after, afterFound, two⟩ := second.rests betweenFound
    exact ⟨after, afterFound, one.trans two⟩
  absent none := second.absent (first.absent none)

theorem Calm.follows (calm : Calm client next) : Follows client next where
  orderly := calm.orderly
  turns found := by
    obtain ⟨after, afterFound, rests⟩ := calm.rests found
    exact ⟨after, afterFound, rests.turns⟩
  fresh absent found := nomatch (calm.absent absent).symm.trans found

/-- A change that touches neither sessions nor routes disturbs no session. -/
theorem Calm.of_sessions (orderly : client.Orderly) (sessions : next.sessions = client.sessions)
    (routes : next.routes = client.routes) (arrival : next.ca.arrival = client.ca.arrival) :
    Calm client next :=
  have rested : Rested 0 client next := .of_sessions orderly sessions routes arrival
  rested.calm orderly

theorem Orderly.of_sessions (orderly : client.Orderly)
    (sessions : next.sessions = client.sessions) (routes : next.routes = client.routes)
    (arrival : next.ca.arrival = client.ca.arrival) : next.Orderly :=
  (Calm.of_sessions orderly sessions routes arrival).orderly

theorem Follows.of_sessions (sessions : middle.sessions = client.sessions)
    (follows : Follows middle next) : Follows client next where
  orderly := follows.orderly
  turns {ref before} found := follows.turns (by rw [session?, sessions]; exact found)
  fresh {ref after} absent found := follows.fresh (by rw [session?, sessions]; exact absent) found

/-! ## New sessions -/

theorem Orderly.start (settings : ClientSettings) : (Client.start settings).Orderly where
  quiet := rfl
  routes := .empty
  coherent found := nomatch (session?_start settings _).symm.trans found
  routed handler := nomatch handler

/-- A sound client is in order. -/
theorem Sound.orderly (sound : client.Sound) : client.Orderly where
  quiet := sound.quiet
  routes := sound.routes
  coherent := sound.coherent
  routed handler := by
    obtain ⟨session, found, number, active⟩ := sound.routed.mp handler
    exact ⟨session, found, number, active.2⟩

/-- A new session is idle, and nothing has been told of it. -/
theorem Follows.create (orderly : client.Orderly) (profile : VendorProfile)
    (asset : AssetRequest) : Follows client (client.create profile asset).2 := by
  obtain ⟨routes, id, created, consistent, handlers⟩ := create_eq orderly.routes profile asset
  rw [created]
  have stays : ∀ {ref session}, client.session? ref = some session →
      session? ref { client with
        nextNumber := (draw client.nextNumber).2
        routes
        sessions := client.sessions ++
          [{ profile, asset, number := (draw client.nextNumber).1, id }] } = some session :=
    fun found => (session?_append rfl).mpr (.inl found)
  constructor
  case turns =>
    intro ref before found
    exact ⟨before, stays found, (Session.Rests.refl (orderly.coherent found)).turns⟩
  case fresh =>
    intro ref after absent found
    cases (session?_append rfl).mp found with
    | inl old => cases absent.symm.trans old
    | inr new =>
        rw [new.2]
        exact ⟨rfl, rfl⟩
  case orderly =>
    constructor
    case quiet => exact orderly.quiet
    case routes => exact consistent
    case coherent =>
      intro ref session found
      cases (session?_append rfl).mp found with
      | inl old => exact orderly.coherent old
      | inr new =>
          rw [new.2]
          exact ⟨iff_of_false nofun nofun, iff_of_false nofun nofun, nofun, nofun⟩
    case routed =>
      intro owner ref handler
      simp only [handlers] at handler
      split at handler
      · next own =>
          cases handler
          exact ⟨_, (session?_append rfl).mpr (.inr ⟨rfl, rfl⟩), own.symm, nofun⟩
      · obtain ⟨session, found, standing⟩ := orderly.routed handler
        exact ⟨session, stays found, standing⟩

/-! ## Messages -/

/-- Telling sessions that are not released something minor disturbs none. -/
theorem Calm.tellAll (orderly : client.Orderly) {event : SessionEvent}
    (minor : event.isMinor = true) {refs : List SessionRef}
    (unreleased : ∀ ref ∈ refs, ∃ session, client.session? ref = some session ∧
      session.state ≠ .released) :
    Calm client (refs.foldl (fun client ref => client.tell ref event) client) := by
  induction refs generalizing client with
  | nil => exact .of_sessions orderly rfl rfl rfl
  | cons first rest ih =>
      obtain ⟨session, found, standing⟩ := unreleased first List.mem_cons_self
      have told := (Rested.tell orderly found standing minor).calm orderly
      refine told.trans (ih told.orderly fun ref member => ?_)
      obtain ⟨before, beforeFound, stands⟩ := unreleased ref (List.mem_cons_of_mem _ member)
      obtain ⟨after, afterFound, rests⟩ := told.rests beforeFound
      exact ⟨after, afterFound, by rw [rests.state]; exact stands⟩

theorem Orderly.unreleased_of_mem_handlers (orderly : client.Orderly)
    (member : ref ∈ client.routes.handlers client.isLive) :
    ∃ session, client.session? ref = some session ∧ session.state ≠ .released := by
  obtain ⟨_, owner, handler⟩ := orderly.routes.mem_handlers.mp member
  obtain ⟨session, found, _, unreleased⟩ := orderly.routed handler
  exact ⟨session, found, unreleased⟩

theorem Calm.onResetIndication (orderly : client.Orderly) (transaction : UInt32)
    (reset : ClientReset) : Calm client (client.onResetIndication transaction reset) := by
  have told : ∀ {answered : Client}, answered.Orderly → Calm answered
      ((answered.routes.handlers answered.isLive).foldl
        (fun client ref => client.tell ref (.resetIndicated reset.reason)) answered) :=
    fun answered => .tellAll answered rfl fun _ => answered.unreleased_of_mem_handlers
  unfold Client.onResetIndication
  simp only
  split
  · exact told orderly
  · next bytes _ =>
      have answered : Calm client { client with courier := (client.courier.send none bytes).2 } :=
        .of_sessions orderly rfl rfl rfl
      exact answered.trans (told answered.orderly)

theorem session?_of_isLive (live : client.isLive ref = true) :
    ∃ session, client.session? ref = some session := by
  rw [isLive, Option.any_eq_true] at live
  exact live.imp fun _ both => both.1

/-- A message is brought only to a session that its owner still holds. -/
theorem isLive_of_route {message : Signal} (routed : client.route message = some ref) :
    client.isLive ref = true := by
  simp only [Client.route] at routed
  cases Option.or_eq_some_iff.mp routed with
  | inl named =>
      obtain ⟨_, _, named⟩ := Option.bind_eq_some_iff.mp named
      obtain ⟨id, _, named⟩ := Option.bind_eq_some_iff.mp named
      obtain ⟨owner, _, named⟩ := Option.bind_eq_some_iff.mp named
      obtain ⟨route, _, named⟩ := Option.bind_eq_some_iff.mp named
      split at named
      · next live =>
          cases named
          exact live
      · cases named
  | inr awaited => exact (List.mem_filter.mp (List.mem_of_find?_eq_some awaited.2)).2

theorem Follows.deliver {during : Client → Client} (orderly : client.Orderly)
    (idle : IsIdle during) (message : Signal) :
    Follows client (client.deliver during message) := by
  have nothing : Follows client client := (Calm.of_sessions orderly rfl rfl rfl).follows
  simp only [Client.deliver]
  split
  · exact (Calm.onResetIndication orderly _ _).follows
  · split
    · split
      · next ref routed =>
          obtain ⟨session, found⟩ := session?_of_isLive (isLive_of_route routed)
          exact (Turned.handle orderly idle found message).follows orderly
      · exact nothing
    · exact nothing

theorem Follows.receive {during : Client → Client} (orderly : client.Orderly)
    (idle : IsIdle during) (message : Signal) :
    Follows client (client.receive during message) := by
  have same : (client.settled message).sessions = client.sessions ∧
      (client.settled message).routes = client.routes ∧
      (client.settled message).ca.arrival = client.ca.arrival := by
    simp only [Client.settled]
    split <;> exact ⟨rfl, rfl, rfl⟩
  have settled := Calm.of_sessions orderly same.1 same.2.1 same.2.2
  exact (Follows.deliver settled.orderly idle message).of_sessions same.1

theorem Follows.dispatch (orderly : client.Orderly) (datagram : Bytes) :
    Follows client (client.dispatch datagram) := by
  simp only [Client.dispatch, receiveBytes]
  split
  · exact (Calm.of_sessions orderly rfl rfl rfl).follows
  · next message _ => exact .receive orderly isIdle_arrival message

/-! ## Alarms -/

theorem Follows.ring (orderly : client.Orderly) (reminder : Reminder) :
    Follows client (client.ring reminder) := by
  cases reminder with
  | keepAlive ref =>
      simp only [Client.ring]
      split
      · exact ((Rested.keepAliveDue orderly ref).calm orderly).follows
      · exact (Calm.of_sessions orderly rfl rfl rfl).follows
  | unanswered transaction =>
      simp only [Client.ring]
      split
      · next courier _ =>
          have expired : Calm client { client with courier } := .of_sessions orderly rfl rfl rfl
          exact expired.follows
      · next courier notice _ =>
          have expired : Calm client { client with courier } := .of_sessions orderly rfl rfl rfl
          split
          · next live =>
              obtain ⟨session, found⟩ := session?_of_isLive live
              have turned := Turned.deliveryFailed expired.orderly notice found
              have same : ({ client with courier } : Client).sessions = client.sessions := rfl
              exact .of_sessions same (turned.follows expired.orderly)
          · exact expired.follows

theorem Follows.step (orderly : client.Orderly) {limit : Time}
    (stepped : client.step limit = some next) : Follows client next := by
  simp only [Client.step] at stepped
  split at stepped
  · cases stepped
  · next alarm agenda _ =>
      cases stepped
      have popped : Calm client
          { client with courier := { client.courier with agenda } } :=
        .of_sessions orderly rfl rfl rfl
      have same : ({ client with courier := { client.courier with agenda } } : Client).sessions =
        client.sessions := rfl
      exact .of_sessions same (Follows.ring popped.orderly alarm.task)

/-! ## Actions -/

theorem Follows.operate (orderly : client.Orderly) (found : client.session? ref = some session)
    (action : OwnerAction) : Follows client (client.operate action ref) := by
  suffices Turned ref client (client.operate action ref) from this.follows orderly
  cases action with
  | setup => exact .setup orderly found
  | connect => exact .connect orderly found
  | sendKeepAlive => exact .sendKeepAlive orderly found
  | requestStatus => exact .requestStatus orderly found
  | reset => exact .reset orderly found
  | teardown => exact .teardown orderly found
  | awaitReady => exact (Rested.awaitReady orderly ref).turned
  | takeEvents => exact (Rested.takeEvents orderly ref).turned
  | drop => exact (Rested.drop orderly ref).turned

theorem Follows.perform (orderly : client.Orderly) {action : ClientAction}
    (instant : ∀ duration, action ≠ .advance duration) :
    Follows client (client.perform action) := by
  have nothing : Follows client client := (Calm.of_sessions orderly rfl rfl rfl).follows
  cases action with
  | create profile asset => exact .create orderly profile asset
  | operate action ref =>
      simp only [Client.perform]
      split
      · next live =>
          obtain ⟨session, found⟩ := session?_of_isLive live
          exact .operate orderly found action
      · exact nothing
  | dispatch datagram => exact .dispatch orderly datagram
  | advance duration => exact absurd rfl (instant duration)
  | ringFirst duration =>
      simp only [Client.perform]
      cases stepped : client.step (client.courier.agenda.now + duration) with
      | none => exact nothing
      | some next => exact .step orderly stepped
  | setRefusals _ | setFaults _ | seedTransaction _ =>
      exact Calm.follows (.of_sessions orderly rfl rfl rfl)

/-! ## Runs -/

theorem Orderly.advance (orderly : client.Orderly) (duration : Time) :
    (client.advance duration).Orderly := by
  have stepped : ∀ before next, Client.step (client.courier.agenda.now + duration) before =
      some next → before.Orderly → next.Orderly :=
    fun _ _ taken before => (Follows.step before taken).orderly
  have rang := exhaust_preserves stepped
    (client.weight (client.courier.agenda.now + duration)) orderly
  exact rang.of_sessions rfl rfl rfl

theorem Orderly.perform (orderly : client.Orderly) (action : ClientAction) :
    (client.perform action).Orderly := by
  by_cases instant : ∀ duration, action ≠ .advance duration
  · exact (Follows.perform orderly instant).orderly
  · push Not at instant
    obtain ⟨duration, rfl⟩ := instant
    exact orderly.advance duration

/-- A client stays in order in every run. -/
theorem Orderly.run (orderly : client.Orderly) (actions : List ClientAction) :
    (client.run actions).Orderly := by
  induction actions generalizing client with
  | nil => exact orderly
  | cons action rest ih => exact ih (orderly.perform action)

end Client

end OnDemand
