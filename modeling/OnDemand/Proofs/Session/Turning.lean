import OnDemand.Proofs.Session.Course
import OnDemand.Proofs.Session.Operations
import OnDemand.Proofs.Session.Inbound
import OnDemand.Session.Run

/-!
# What happens to a client is a turn of its sessions

Everything that a client does for a session is a turn of that session and leaves all others
alone.  This holds however many sessions there are, also once numbers for sessions are
used again, so it does not build on the soundness of clients, for which these numbers
must be distinct.
-/

namespace OnDemand

open SessionEvent (AllMinor)

namespace Session

variable {before middle after : Session}

/-- The session takes a turn. -/
structure Turns (before after : Session) : Prop where
  number : after.number = before.number
  coherent : after.Coherent
  turn : ∃ told, before.state.Turns told after.state ∧ after.events = before.events ++ told

/-- The session stays where it stands, and its owner hears of nothing but minor events, and
of none once it is released. -/
structure Rests (before after : Session) : Prop where
  number : after.number = before.number
  coherent : after.Coherent
  state : after.state = before.state
  told : ∃ told, AllMinor told ∧ (before.state = .released → told = []) ∧
    after.events = before.events ++ told

theorem Rests.refl (coherent : before.Coherent) : before.Rests before where
  number := rfl
  coherent := coherent
  state := rfl
  told := ⟨[], .nil, fun _ => rfl, (List.append_nil _).symm⟩

theorem Rests.trans (first : before.Rests middle) (second : middle.Rests after) :
    before.Rests after where
  number := second.number.trans first.number
  coherent := second.coherent
  state := second.state.trans first.state
  told := by
    obtain ⟨one, oneMinor, oneSilent, oneEvents⟩ := first.told
    obtain ⟨two, twoMinor, twoSilent, twoEvents⟩ := second.told
    refine ⟨one ++ two, oneMinor.append twoMinor, fun released => ?_, ?_⟩
    · rw [oneSilent released, twoSilent (first.state.trans released)]
      rfl
    · rw [twoEvents, oneEvents, List.append_assoc]

theorem Rests.turns (rests : before.Rests after) : before.Turns after where
  number := rests.number
  coherent := rests.coherent
  turn := by
    obtain ⟨told, minor, silent, events⟩ := rests.told
    exact ⟨told, by rw [rests.state]; exact .stays minor silent, events⟩

/-- A change that touches neither the state nor what was told. -/
theorem Rests.of_events (number : after.number = before.number) (coherent : after.Coherent)
    (state : after.state = before.state) (events : after.events = before.events) :
    before.Rests after where
  number := number
  coherent := coherent
  state := state
  told := ⟨[], .nil, fun _ => rfl, by rw [events, List.append_nil]⟩

theorem RetouchesInside.rests {granted : Option (SignalKind × UInt32)}
    (retouches : before.RetouchesInside granted after) (coherent : before.Coherent)
    (state : after.state = before.state) (events : after.events = before.events) :
    before.Rests after :=
  .of_events retouches.number (retouches.coherent coherent) state events

/-- A change of the state of which nothing is told. -/
theorem RetouchesInside.turns {granted : Option (SignalKind × UInt32)}
    (retouches : before.RetouchesInside granted after) (coherent : before.Coherent)
    (turns : before.state.Turns [] after.state) (events : after.events = before.events) :
    before.Turns after where
  number := retouches.number
  coherent := retouches.coherent coherent
  turn := ⟨[], turns, by rw [events, List.append_nil]⟩

/-- What a session was told plays no part in its coherence. -/
theorem Coherent.withEvents (coherent : before.Coherent) (events : List SessionEvent) :
    { before with events }.Coherent :=
  ⟨coherent.setup, coherent.release, coherent.keepAlive, coherent.released⟩

theorem Rests.tell (coherent : before.Coherent) {event : SessionEvent}
    (minor : event.isMinor = true) (unreleased : before.state ≠ .released) :
    before.Rests (before.tell event) where
  number := rfl
  coherent := coherent.withEvents _
  state := rfl
  told := ⟨[event], .single minor, fun released => absurd released unreleased, rfl⟩

end Session

namespace Client

variable {client middle next : Client} {ref other : SessionRef} {session before : Session}

/-- Nothing changes but one session, and no route is added. -/
structure Confined (ref : SessionRef) (client next : Client) : Prop where
  arrival : next.ca.arrival = client.ca.arrival
  others : ∀ {other}, other ≠ ref → next.session? other = client.session? other
  absent : client.session? ref = none → next.session? ref = none
  routes : client.routes.Consistent → next.routes.Consistent
  handlers : ∀ {owner other}, next.routes.handler? owner = some other →
    client.routes.handler? owner = some other

theorem Confined.refl (ref : SessionRef) (client : Client) : Confined ref client client :=
  ⟨rfl, fun _ => rfl, id, id, id⟩

theorem Confined.trans (first : Confined ref client middle) (second : Confined ref middle next) :
    Confined ref client next where
  arrival := second.arrival.trans first.arrival
  others different := (second.others different).trans (first.others different)
  absent none := second.absent (first.absent none)
  routes consistent := second.routes (first.routes consistent)
  handlers found := first.handlers (second.handlers found)

/-- A session is changed, and besides neither sessions nor routes are. -/
theorem Confined.of_modify {change : Session → Session}
    (sessions : next.sessions = client.sessions.modify ref change)
    (routes : next.routes = client.routes) (arrival : next.ca.arrival = client.ca.arrival) :
    Confined ref client next where
  arrival := arrival
  others different := by
    rw [session?, sessions]
    exact session?_modify_of_ne different
  absent none := by
    rw [session?, sessions]
    exact client.session?_modify.trans (by rw [if_pos rfl, none, Option.map_none])
  routes consistent := routes ▸ consistent
  handlers found := routes ▸ found

/-- Neither sessions nor routes are changed. -/
theorem Confined.of_sessions (sessions : next.sessions = client.sessions)
    (routes : next.routes = client.routes) (arrival : next.ca.arrival = client.ca.arrival) :
    Confined ref client next where
  arrival := arrival
  others _ := by rw [session?, sessions, session?]
  absent none := by rw [session?, sessions]; exact none
  routes consistent := routes ▸ consistent
  handlers found := routes ▸ found

/-- A session takes a turn, and nothing else changes.  A session that ends loses its
route. -/
structure Turned (ref : SessionRef) (client next : Client) : Prop
    extends Confined ref client next where
  turns : ∀ {before}, client.session? ref = some before → ∃ after,
    next.session? ref = some after ∧ before.Turns after ∧
      (after.state = .released → before.state ≠ .released →
        next.routes.handler? before.number = none)

/-- A session stays where it stands, and nothing else changes. -/
structure Rested (ref : SessionRef) (client next : Client) : Prop
    extends Confined ref client next where
  rests : ∀ {before}, client.session? ref = some before → ∃ after,
    next.session? ref = some after ∧ before.Rests after

theorem Rested.turned (rested : Rested ref client next) : Turned ref client next where
  toConfined := rested.toConfined
  turns found := by
    obtain ⟨after, afterFound, rests⟩ := rested.rests found
    exact ⟨after, afterFound, rests.turns, fun released unreleased =>
      absurd (rests.state.symm.trans released) unreleased⟩

theorem Rested.trans (first : Rested ref client middle) (second : Rested ref middle next) :
    Rested ref client next where
  toConfined := first.toConfined.trans second.toConfined
  rests found := by
    obtain ⟨between, betweenFound, one⟩ := first.rests found
    obtain ⟨after, afterFound, two⟩ := second.rests betweenFound
    exact ⟨after, afterFound, one.trans two⟩

/-- The client is in order: no datagram waits for the conditional-access component, each
session is coherent, and routes lead to sessions of their numbers that are not released. -/
structure Orderly (client : Client) : Prop where
  quiet : client.ca.arrival = none
  routes : client.routes.Consistent
  coherent : ∀ {ref session}, client.session? ref = some session → session.Coherent
  routed : ∀ {owner ref}, client.routes.handler? owner = some ref →
    ∃ session, client.session? ref = some session ∧ session.number = owner ∧
      session.state ≠ .released

theorem Rested.of_sessions (orderly : client.Orderly) (sessions : next.sessions = client.sessions)
    (routes : next.routes = client.routes) (arrival : next.ca.arrival = client.ca.arrival) :
    Rested ref client next where
  toConfined := .of_sessions sessions routes arrival
  rests {before} found := by
    refine ⟨before, ?_, .refl (orderly.coherent found)⟩
    rw [session?, sessions]
    exact found

theorem Rested.refl (orderly : client.Orderly) (ref : SessionRef) : Rested ref client client :=
  .of_sessions orderly rfl rfl rfl

/-- A client stays in order when nothing changes but one session, which stays coherent and
loses its route if it ends. -/
theorem Confined.orderly (confined : Confined ref client next) (orderly : client.Orderly)
    (own : ∀ {before}, client.session? ref = some before → ∃ after,
      next.session? ref = some after ∧ after.number = before.number ∧ after.Coherent ∧
        (after.state = .released → before.state ≠ .released →
          next.routes.handler? before.number = none)) : next.Orderly where
  quiet := confined.arrival.trans orderly.quiet
  routes := confined.routes orderly.routes
  coherent {other after} found := by
    by_cases same : other = ref
    · subst same
      cases present : client.session? other with
      | none => cases (confined.absent present).symm.trans found
      | some before =>
          obtain ⟨again, againFound, _, coherent, _⟩ := own present
          cases againFound.symm.trans found
          exact coherent
    · rw [confined.others same] at found
      exact orderly.coherent found
  routed {owner other} handler := by
    obtain ⟨before, found, number, unreleased⟩ := orderly.routed (confined.handlers handler)
    by_cases same : other = ref
    · subst same
      obtain ⟨after, afterFound, sameNumber, _, unrouted⟩ := own found
      refine ⟨after, afterFound, sameNumber.trans number, fun released => ?_⟩
      cases (number ▸ unrouted released unreleased).symm.trans handler
    · exact ⟨before, (confined.others same).trans found, number, unreleased⟩

theorem Turned.orderly (turned : Turned ref client next) (orderly : client.Orderly) :
    next.Orderly := by
  refine turned.toConfined.orderly orderly fun found => ?_
  obtain ⟨after, afterFound, turns, unrouted⟩ := turned.turns found
  exact ⟨after, afterFound, turns.number, turns.coherent, unrouted⟩

theorem Rested.orderly (rested : Rested ref client next) (orderly : client.Orderly) :
    next.Orderly :=
  rested.turned.orderly orderly

/-! ## Changes of one session -/

/-- A session that is known is changed by a turn that does not end it. -/
theorem Turned.of_modify {change : Session → Session}
    (found : client.session? ref = some session)
    (sessions : next.sessions = client.sessions.modify ref change)
    (routes : next.routes = client.routes) (arrival : next.ca.arrival = client.ca.arrival)
    (turns : session.Turns (change session))
    (standing : (change session).state = .released → session.state = .released) :
    Turned ref client next where
  toConfined := .of_modify sessions routes arrival
  turns {before} beforeFound := by
    cases found.symm.trans beforeFound
    have changed : next.session? ref = some (change session) := by
      rw [session?, sessions]
      exact session?_modify_self found
    exact ⟨change session, changed, turns, fun released unreleased =>
      absurd (standing released) unreleased⟩

theorem Rested.of_modify {change : Session → Session}
    (found : client.session? ref = some session)
    (sessions : next.sessions = client.sessions.modify ref change)
    (routes : next.routes = client.routes) (arrival : next.ca.arrival = client.ca.arrival)
    (rests : session.Rests (change session)) : Rested ref client next where
  toConfined := .of_modify sessions routes arrival
  rests {before} beforeFound := by
    cases found.symm.trans beforeFound
    refine ⟨change session, ?_, rests⟩
    rw [session?, sessions]
    exact session?_modify_self found

/-- What is done to all there is of a session, be it nothing. -/
theorem Rested.modify (orderly : client.Orderly) (change : Session → Session)
    (rests : ∀ session : Session, session.Coherent → session.Rests (change session)) :
    Rested ref client (client.modify ref change) where
  toConfined := .of_modify rfl rfl rfl
  rests {before} found :=
    ⟨change before, session?_modify_self found, rests before (orderly.coherent found)⟩

theorem Rested.tell (orderly : client.Orderly) (found : client.session? ref = some session)
    (unreleased : session.state ≠ .released) {event : SessionEvent}
    (minor : event.isMinor = true) : Rested ref client (client.tell ref event) :=
  .of_modify found rfl rfl rfl (.tell (orderly.coherent found) minor unreleased)

/-- A session that is established may be given a keep-alive alarm. -/
theorem Rested.arm (orderly : client.Orderly) (found : client.session? ref = some session)
    (established : session.state.isEstablished = true) :
    Rested ref client (client.armKeepAlive ref) := by
  simp only [armKeepAlive]
  split
  · exact .refl orderly ref
  · have coherent := orderly.coherent found
    exact .of_modify found rfl rfl rfl (.of_events rfl
      ⟨coherent.setup, coherent.release, fun _ => established, coherent.released⟩ rfl rfl)

theorem Rested.disarm (orderly : client.Orderly) (ref : SessionRef) :
    Rested ref client (client.disarmKeepAlive ref) := by
  simp only [disarmKeepAlive]
  split
  · exact .refl orderly ref
  · next alarm keepAlive =>
      obtain ⟨session, found, _⟩ := Option.bind_eq_some_iff.mp keepAlive
      have coherent := orderly.coherent found
      exact .of_modify found rfl rfl rfl (.of_events rfl
        ⟨coherent.setup, coherent.release, (fun held => by cases held), coherent.released⟩ rfl rfl)

/-! ## The end of a session -/

theorem Confined.disarm (ref : SessionRef) (client : Client) :
    Confined ref client (client.disarmKeepAlive ref) := by
  simp only [disarmKeepAlive]
  split
  · exact .refl ref client
  · exact .of_modify rfl rfl rfl

/-- A session lets go of its route. -/
theorem Confined.releaseHoldings (number : UInt32) (client : Client) :
    Confined ref client (client.releaseHoldings number) where
  arrival := rfl
  others _ := rfl
  absent := id
  routes consistent := consistent.unregister number
  handlers {owner other} found := by
    change (client.routes.unregister number).handler? owner = some other at found
    rw [RouteTable.handler?_unregister] at found
    split at found
    · cases found
    · exact found

theorem Confined.stopCa (ref : SessionRef) (session : Session) (client : Client) :
    Confined ref client (client.stopCa ref session) := by
  rw [stopCa_eq]
  split
  · split
    · exact .of_sessions rfl rfl rfl
    · exact .of_modify rfl rfl rfl
  · exact .refl ref client

/-- Of the end of its conditional access a session hears at most a minor event. -/
theorem session?_stopCa_told {stored : Session} (session : Session)
    (found : client.session? ref = some stored) :
    ∃ told, AllMinor told ∧ (client.stopCa ref session).session? ref =
      some { stored with events := stored.events ++ told } := by
  have silent : { stored with events := stored.events ++ [] } = stored := by rw [List.append_nil]
  rw [stopCa_eq]
  split
  · split
    · exact ⟨[], .nil, found.trans (congrArg some silent.symm)⟩
    · exact ⟨[_], .single rfl, session?_modify_self found⟩
  · exact ⟨[], .nil, found.trans (congrArg some silent.symm)⟩

theorem session?_finish_told (found : client.session? ref = some session) (reason : ReasonCode)
    (byServer : Bool) :
    ∃ told, AllMinor told ∧ (client.finish ref reason byServer).session? ref =
      some { closed { session with keepAlive := none } with
        events := session.events ++ (told ++ [.released reason byServer]) } := by
  simp only [finish]
  simp only [found, disarmKeepAlive_modify_closed]
  have gone : ((client.disarmKeepAlive ref).letGo ref closed session.number).session? ref =
      some (closed { session with keepAlive := none }) :=
    session?_modify_self (session?_disarmKeepAlive found)
  obtain ⟨told, minor, stopped⟩ := session?_stopCa_told session gone
  refine ⟨told, minor, ?_⟩
  rw [← List.append_assoc]
  exact session?_tell stopped

theorem Confined.finish (ref : SessionRef) (reason : ReasonCode) (byServer : Bool)
    (client : Client) : Confined ref client (client.finish ref reason byServer) := by
  simp only [Client.finish]
  split
  · exact .refl ref client
  · next session _ =>
      have closed : Confined ref client (client.modify ref closed) := .of_modify rfl rfl rfl
      have held := closed.trans (.disarm ref _)
      have gone := held.trans (.releaseHoldings session.number _)
      exact (gone.trans (.stopCa ref session _)).trans (.of_modify rfl rfl rfl)

/-- A session that is finished is on no route. -/
theorem handler?_finish {reason : ReasonCode} {byServer : Bool}
    (found : client.session? ref = some session) :
    (client.finish ref reason byServer).routes.handler? session.number = none := by
  rw [routes_finish found, RouteTable.handler?_unregister, if_pos rfl]

/-- A session that is not released ends, after nothing but minor events. -/
theorem Turned.finish (confined : Confined ref client middle)
    (found : client.session? ref = some before) (unreleased : before.state ≠ .released)
    (present : middle.session? ref = some session) (number : session.number = before.number)
    {heard : List SessionEvent} (minor : AllMinor heard)
    (events : session.events = before.events ++ heard) (reason : ReasonCode) (byServer : Bool) :
    Turned ref client (middle.finish ref reason byServer) where
  toConfined := confined.trans (.finish ref reason byServer middle)
  turns {again} againFound := by
    cases found.symm.trans againFound
    obtain ⟨told, toldMinor, finished⟩ := session?_finish_told present reason byServer
    refine ⟨_, finished, ⟨number, (coherent_closed session).withEvents _,
      heard ++ told ++ [.released reason byServer], ?_, ?_⟩, ?_⟩
    · exact .ended unreleased (minor.append toldMinor)
    · rw [events, List.append_assoc, List.append_assoc]
    · intro _ _
      rw [← number]
      exact handler?_finish present

/-! ## Operations -/

section Asking

variable {mark unmark : Session → Session} {message : Signal} {retries : Nat}

/-- Asking is a turn when its mark is; when the request cannot be sent, the session is back
where it was. -/
theorem Turned.ask (found : client.session? ref = some session)
    (marks : session.Turns (mark session))
    (standing : (mark session).state = .released → session.state = .released)
    (unmarks : session.Rests (unmark (mark session))) :
    Turned ref client
      (match client.asking ref mark session message retries with
        | (.ok (), next) => ((.ok (), next) : Except SessionError Unit × Client)
        | (.error cause, next) => (.error (.notSubmitted cause), next.modify ref unmark)).2 := by
  split
  · next next outcome =>
      have marked : Turned ref client (client.asking ref mark session message retries).2 :=
        .of_modify found rfl rfl rfl marks standing
      exact congrArg Prod.snd outcome ▸ marked
  · next cause next outcome =>
      have unmarked : Rested ref client
          ((client.asking ref mark session message retries).2.modify ref unmark) :=
        .of_modify found (List.modify_modify_eq ..) rfl rfl unmarks
      rw [outcome] at unmarked
      exact unmarked.turned

end Asking

theorem Turned.setup (orderly : client.Orderly) (found : client.session? ref = some session) :
    Turned ref client (client.setup ref).2 := by
  have coherent := orderly.coherent found
  simp only [Client.setup]
  simp only [found]
  split
  · exact (Rested.refl orderly ref).turned
  · next idle =>
      simp only [ne_eq, Decidable.not_not] at idle
      split
      · exact (Rested.refl orderly ref).turned
      · let asked : Session :=
          { session with state := .setupSent, setup := some client.drawTransaction.1 }
        have marks : session.RetouchesInside _ asked := Session.retouches_setup idle
        have marked := marks.turns coherent (by rw [idle]; exact .asked) rfl
        have unmarks : asked.RetouchesInside none { asked with setup := none, state := .idle } :=
          Session.retouches_setup_none rfl (.inl rfl)
        exact Turned.ask found marked (fun released => by cases released)
          (.of_events rfl (unmarks.coherent marked.coherent) idle.symm rfl)

theorem Rested.sendInProgress (orderly : client.Orderly) (ref : SessionRef) (session : Session) :
    Rested ref client (client.sendInProgress ref session).2 :=
  .of_sessions orderly rfl rfl rfl

theorem Turned.connect (orderly : client.Orderly) (found : client.session? ref = some session) :
    Turned ref client (client.connect ref).2 := by
  simp only [Client.connect]
  simp only [found]
  split
  · exact (Rested.refl orderly ref).turned
  · next ready =>
      simp only [ne_eq, Decidable.not_not] at ready
      have sent : Rested ref client (client.drawTransaction.2.submit ref session
          ⟨client.drawTransaction.1, [], .connectRequest ⟨session.id, {}⟩⟩ 0).2 :=
        .of_sessions orderly rfl rfl rfl
      split
      · next submitted outcome =>
          obtain rfl : _ = submitted := congrArg Prod.snd outcome
          have connects := (Session.retouches_connect ready).turns (orderly.coherent found)
            (by rw [ready]; exact .connected) rfl
          exact .of_modify found rfl rfl rfl connects fun released => by cases released
      · next cause submitted outcome => exact (congrArg Prod.snd outcome ▸ sent).turned

theorem Turned.sendKeepAlive (orderly : client.Orderly)
    (found : client.session? ref = some session) :
    Turned ref client (client.sendKeepAlive ref).2 := by
  simp only [Client.sendKeepAlive]
  simp only [found]
  split
  · exact (Rested.refl orderly ref).turned
  · exact (Rested.sendInProgress orderly ref session).turned

theorem Turned.requestStatus (orderly : client.Orderly)
    (found : client.session? ref = some session) :
    Turned ref client (client.requestStatus ref).2 := by
  simp only [Client.requestStatus]
  simp only [found]
  split
  · exact (Rested.refl orderly ref).turned
  · next allowed =>
      have unreleased := (SessionState.not_ending fun refused =>
        allowed ⟨refused.1, refused.2.2⟩).2
      have marks : session.Rests { session with status := some client.drawTransaction.1 } :=
        (Session.retouches_status unreleased).rests (orderly.coherent found) rfl rfl
      have unmarks := Session.retouches_status_none.rests marks.coherent rfl rfl
      exact Turned.ask found marks.turns id (marks.trans unmarks)

theorem Turned.reset (orderly : client.Orderly) (found : client.session? ref = some session) :
    Turned ref client (client.reset ref).2 := by
  simp only [Client.reset]
  simp only [found]
  split
  · exact (Rested.refl orderly ref).turned
  · next allowed =>
      have unreleased := (SessionState.not_ending allowed).2
      have marks : session.Rests { session with reset := some client.drawTransaction.1 } :=
        (Session.retouches_reset unreleased).rests (orderly.coherent found) rfl rfl
      have unmarks := Session.retouches_reset_none.rests marks.coherent rfl rfl
      exact Turned.ask found marks.turns id (marks.trans unmarks)

/-- A session that has nothing left to await asks for its release, or ends when it cannot. -/
theorem Turned.askRelease {quiet : Client} {message : Signal} {retries : Nat}
    (confined : Confined ref client quiet) (found : client.session? ref = some session)
    (releasable : session.state.leadsTo .releasing = true) (unreleased : session.state ≠ .released)
    (present : quiet.session? ref = some { session with keepAlive := none }) :
    Turned ref client
      (match quiet.asking ref (Session.releasing quiet.drawTransaction.1) session message
          retries with
        | (.ok (), next) => ((.ok (), next) : Except SessionError Unit × Client)
        | (.error cause, next) =>
            (.error (.notSubmitted cause), next.finish ref .clientRelease false)).2 := by
  have marked : (quiet.asking ref (Session.releasing quiet.drawTransaction.1) session message
      retries).2.session? ref =
        some (Session.releasing quiet.drawTransaction.1 { session with keepAlive := none }) :=
    session?_asking present
  have asked : Confined ref client (quiet.asking ref
      (Session.releasing quiet.drawTransaction.1) session message retries).2 :=
    confined.trans (.of_modify rfl rfl rfl)
  split
  · next next outcome =>
      obtain rfl : _ = next := congrArg Prod.snd outcome
      refine ⟨asked, fun {again} againFound => ?_⟩
      cases found.symm.trans againFound
      refine ⟨_, marked, ⟨rfl, ?_, [], .releases releasable, (List.append_nil _).symm⟩, nofun⟩
      exact ⟨iff_of_false nofun nofun, iff_of_true rfl rfl, nofun, nofun⟩
  · next cause next outcome =>
      obtain rfl : _ = next := congrArg Prod.snd outcome
      exact .finish asked found unreleased marked rfl .nil (List.append_nil _).symm _ _

theorem Turned.teardown (orderly : client.Orderly) (found : client.session? ref = some session) :
    Turned ref client (client.teardown ref).2 := by
  have cancelled : Confined ref client
      { client with courier := (client.courier.cancelSession session.number).2 } :=
    .of_sessions rfl rfl rfl
  have quieted := cancelled.trans (.disarm ref _)
  have present : (disarmKeepAlive ref { client with
      courier := (client.courier.cancelSession session.number).2 }).session? ref = _ :=
    session?_disarmKeepAlive found
  simp only [Client.teardown]
  simp only [found]
  cases state : session.state
  case releasing => exact (Rested.refl orderly ref).turned
  case released => exact (Rested.refl orderly ref).turned
  case idle =>
    exact .finish (.refl ref client) found (by rw [state]; decide) found rfl .nil
      (List.append_nil _).symm _ _
  all_goals
    exact Turned.askRelease quieted found (by rw [state]; rfl) (by rw [state]; decide) present

theorem Rested.releaseHoldings (orderly : client.Orderly) (number : UInt32) :
    Rested ref client (client.releaseHoldings number) where
  toConfined := .releaseHoldings number client
  rests {before} found := ⟨before, found, .refl (orderly.coherent found)⟩

/-- A session that its owner drops stays where it stands. -/
theorem Rested.drop (orderly : client.Orderly) (ref : SessionRef) :
    Rested ref client (client.drop ref) := by
  simp only [Client.drop]
  split
  · exact .refl orderly ref
  · next session _ =>
      have disarmed := Rested.disarm orderly ref
      have dropped := disarmed.trans (Rested.modify (disarmed.orderly orderly)
        (fun session => { session with isHeld := false }) fun session coherent => .of_events rfl
          ⟨coherent.setup, coherent.release, coherent.keepAlive, coherent.released⟩ rfl rfl)
      exact dropped.trans (.releaseHoldings (dropped.orderly orderly) session.number)

theorem Rested.takeEvents (orderly : client.Orderly) (ref : SessionRef) :
    Rested ref client (client.takeEvents ref).2 := by
  simp only [Client.takeEvents]
  split
  · exact .refl orderly ref
  · exact .modify orderly _ fun _ coherent => Session.retouches_eventsTaken.rests coherent rfl rfl

theorem Rested.awaitReady (orderly : client.Orderly) (ref : SessionRef) :
    Rested ref client (client.awaitReady ref).2 := by
  simp only [Client.awaitReady]
  split
  · exact .refl orderly ref
  · next session found =>
      have coherent := orderly.coherent found
      refine Rested.of_modify found rfl rfl rfl ?_
      unfold Session.awaitReady
      simp only
      split
      · exact Session.retouches_eventsTaken.rests coherent rfl rfl
      · exact Session.retouches_eventsTaken.rests coherent rfl rfl

/-! ## Messages -/

section Granting

variable {during : Client → Client} {granted : Client} {stored : Session}

theorem Rested.startCa (orderly : client.Orderly) (idle : IsIdle during)
    (found : client.session? ref = some session) (unreleased : session.state ≠ .released)
    (id : SessionId) (info : ClientCaInfo) (entitlement : Option UInt32) :
    Rested ref client (client.startCa during ref id info entitlement) := by
  have called : Rested ref client (client.callCa (.start id info entitlement)).2 :=
    .of_sessions orderly rfl rfl rfl
  have present : (client.callCa (.start id info entitlement)).2.session? ref = some session := found
  simp only [Client.startCa]
  simp only [idle _ (called.orderly orderly).quiet, present, unreleased, if_false]
  split
  · exact called.trans (.tell (called.orderly orderly) present unreleased rfl)
  · have begun := (Session.retouches_caActive unreleased).rests (orderly.coherent found) rfl rfl
    exact called.trans (.of_modify present rfl rfl rfl begun)

theorem Confined.adoptId (ref : SessionRef) (session : Session) (confirm : SetupConfirm)
    (client : Client) : Confined ref client (client.adoptId ref session confirm) := by
  simp only [Client.adoptId]
  split
  · have rebound : Confined ref client
        { client with
          routes :=
            (client.routes.rebind client.isLive session.number confirm.session.number).2 } :=
      ⟨rfl, fun _ => rfl, id, fun consistent => consistent.rebind, fun found => by
        rwa [RouteTable.handler?_rebind] at found⟩
    exact rebound.trans (.of_modify rfl rfl rfl)
  · exact .refl ref client

/-- Taking a name changes nothing else about a session. -/
theorem session?_adoptId_eq (found : client.session? ref = some session) (sender : Session)
    (confirm : SetupConfirm) :
    ∃ id, (client.adoptId ref sender confirm).session? ref = some { session with id } := by
  simp only [Client.adoptId]
  split
  · exact ⟨_, session?_modify_self found⟩
  · exact ⟨session.id, found⟩

/-- Telling its owner that it is ready completes the turn of a session that was granted. -/
theorem Turned.ready (confined : Confined ref client granted)
    (found : client.session? ref = some session) (sent : session.state = .setupSent)
    (present : granted.session? ref = some stored) (number : stored.number = session.number)
    (state : stored.state = .serverReady) (events : stored.events = session.events)
    (rested : Rested ref granted next) (id : SessionId) (endpoint : Option Ipv4Endpoint)
    (handle : Option UInt32) : Turned ref client (next.tell ref (.ready id endpoint handle)) where
  toConfined := (confined.trans rested.toConfined).trans (.of_modify rfl rfl rfl)
  turns {again} againFound := by
    cases found.symm.trans againFound
    obtain ⟨after, afterFound, rests⟩ := rested.rests present
    obtain ⟨told, minor, _, heard⟩ := rests.told
    have ready : after.state = .serverReady := rests.state.trans state
    refine ⟨_, session?_tell afterFound, ⟨rests.number.trans number, rests.coherent.withEvents _,
      told ++ [.ready id endpoint handle], ?_, ?_⟩, fun released => ?_⟩
    · rw [sent]
      exact ready ▸ .granted minor
    · rw [Session.tell, heard, events, List.append_assoc]
    · cases ready.symm.trans released

theorem Turned.welcome (confined : Confined ref client granted)
    (found : client.session? ref = some session) (sent : session.state = .setupSent)
    (orderly : granted.Orderly) (idle : IsIdle during)
    (present : granted.session? ref = some stored) (number : stored.number = session.number)
    (state : stored.state = .serverReady) (events : stored.events = session.events) :
    Turned ref client (granted.welcome during ref) := by
  have armed := Rested.arm orderly present (by rw [state]; rfl)
  obtain ⟨after, afterFound, rests⟩ := armed.rests present
  simp only [Client.welcome]
  simp only [afterFound]
  split
  · exact .ready confined found sent present number state events armed _ _ _
  · next info _ =>
      have unreleased : after.state ≠ .released := by rw [rests.state, state]; nofun
      have started := armed.trans (.startCa (armed.orderly orderly) idle afterFound unreleased
        after.id info after.entitlementId)
      exact .ready confined found sent present number state events started _ _ _

end Granting

/-- A setup that was asked for comes to nothing, and its owner is told so. -/
theorem Turned.fail (orderly : client.Orderly) (found : client.session? ref = some session)
    (sent : session.state = .setupSent) {event : SessionEvent}
    (failure : event.isSetupFailure = true) :
    Turned ref client ((client.modify ref fun session =>
      { session with setup := none, state := .error }).tell ref event) := by
  have coherent := (Session.retouches_setup_none sent (.inr rfl)).coherent (orderly.coherent found)
  refine .of_modify found (List.modify_modify_eq ..) rfl rfl
    ⟨rfl, coherent.withEvents _, [event], ?_, rfl⟩ nofun
  rw [sent]
  exact .failed failure

theorem Turned.onSetupConfirm {during : Client → Client} (orderly : client.Orderly)
    (idle : IsIdle during) (found : client.session? ref = some session) (transaction : UInt32)
    (confirm : SetupConfirm) :
    Turned ref client (client.onSetupConfirm during ref transaction confirm) := by
  simp only [Client.onSetupConfirm]
  simp only [found]
  split
  · exact (Rested.refl orderly ref).turned
  · next expected =>
      have sent : session.state = .setupSent := Decidable.not_not.mp (not_or.mp expected).1
      split
      · exact .fail orderly found sent rfl
      · rw [adoptId_granted]
        obtain ⟨id, present⟩ := session?_adoptId_eq found session confirm
        have confined : Confined ref client
            ((client.adoptId ref session confirm).modify ref (Session.granted confirm)) :=
          (Confined.adoptId ref session confirm client).trans (.of_modify rfl rfl rfl)
        let named : Session := { session with id }
        have names : session.RetouchesInside none named := Session.retouches_id
        have stillSent : named.state = .setupSent := sent
        have grants := Session.retouches_granted stillSent confirm
        have coherent := grants.coherent (names.coherent (orderly.coherent found))
        refine Turned.welcome confined found sent ?_ idle (session?_modify_self present)
          grants.number (Session.state_granted confirm) (Session.events_granted confirm)
        refine confined.orderly orderly fun again => ?_
        cases found.symm.trans again
        exact ⟨_, session?_modify_self present, grants.number, coherent, fun released => by
          cases (Session.state_granted confirm).symm.trans released⟩

/-- A session that rests ends. -/
theorem Rested.finish (rested : Rested ref client middle)
    (found : client.session? ref = some session) (unreleased : session.state ≠ .released)
    (reason : ReasonCode) (byServer : Bool) :
    Turned ref client (middle.finish ref reason byServer) := by
  obtain ⟨after, afterFound, rests⟩ := rested.rests found
  obtain ⟨told, minor, _, events⟩ := rests.told
  exact .finish rested.toConfined found unreleased afterFound rests.number minor events _ _

theorem Turned.onReleaseConfirm (orderly : client.Orderly)
    (found : client.session? ref = some session) (transaction : UInt32) (release : Release) :
    Turned ref client (client.onReleaseConfirm ref transaction release) := by
  simp only [Client.onReleaseConfirm]
  simp only [found]
  split
  · next expected =>
      exact (Rested.refl orderly ref).finish found (by rw [expected.1]; decide) _ _
  · exact (Rested.refl orderly ref).turned

theorem Turned.onReleaseIndication (orderly : client.Orderly)
    (found : client.session? ref = some session) (transaction : UInt32) (release : Release) :
    Turned ref client (client.onReleaseIndication ref transaction release) := by
  have sent : Rested ref client (client.submit ref session ⟨transaction, [],
      .release .response ⟨session.id, release.reason, {}⟩⟩ 0).2 :=
    .of_sessions orderly rfl rfl rfl
  simp only [Client.onReleaseIndication]
  simp only [found]
  split
  · exact sent.turned
  · next unreleased => exact sent.finish found unreleased _ _

/-- A session that awaits the answer to a request for its status or for a reset is not
released. -/
theorem unreleased_of_slot (orderly : client.Orderly) (found : client.session? ref = some session)
    (kind : SignalKind) {transaction : UInt32} (awaited : session.slot kind = some transaction) :
    session.state ≠ .released := by
  intro released
  cases ((orderly.coherent found).slot_eq_none released kind).symm.trans awaited

theorem Rested.clearStatus (orderly : client.Orderly) (found : client.session? ref = some session) :
    Rested ref client (client.modify ref fun session => { session with status := none }) :=
  .of_modify found rfl rfl rfl
    (Session.retouches_status_none.rests (orderly.coherent found) rfl rfl)

theorem Rested.clearReset (orderly : client.Orderly) (found : client.session? ref = some session) :
    Rested ref client (client.modify ref fun session => { session with reset := none }) :=
  .of_modify found rfl rfl rfl
    (Session.retouches_reset_none.rests (orderly.coherent found) rfl rfl)

/-- A session that rests and is not released hears something minor. -/
theorem Rested.told (rested : Rested ref client middle) (orderly : client.Orderly)
    (found : client.session? ref = some session) (unreleased : session.state ≠ .released)
    {event : SessionEvent} (minor : event.isMinor = true) :
    Rested ref client (middle.tell ref event) := by
  obtain ⟨after, afterFound, rests⟩ := rested.rests found
  exact rested.trans
    (.tell (rested.orderly orderly) afterFound (by rw [rests.state]; exact unreleased) minor)

theorem Turned.onStatusConfirm (orderly : client.Orderly)
    (found : client.session? ref = some session) (transaction : UInt32) (status : ClientStatus) :
    Turned ref client (client.onStatusConfirm ref transaction status) := by
  simp only [Client.onStatusConfirm]
  simp only [found]
  split
  · next awaited =>
      have unreleased := unreleased_of_slot orderly found .statusRequest awaited
      exact ((Rested.clearStatus orderly found).told orderly found unreleased rfl).turned
  · exact (Rested.refl orderly ref).turned

theorem Turned.onResetConfirm (orderly : client.Orderly)
    (found : client.session? ref = some session) (transaction : UInt32) (reset : ClientReset) :
    Turned ref client (client.onResetConfirm ref transaction reset) := by
  simp only [Client.onResetConfirm]
  simp only [found]
  split
  · next awaited =>
      have unreleased := unreleased_of_slot orderly found (.reset .request) awaited
      exact (Rested.clearReset orderly found).finish found unreleased _ _
  · exact (Rested.refl orderly ref).turned

/-- Whatever a session does with a message is a turn. -/
theorem Turned.handle {during : Client → Client} (orderly : client.Orderly) (idle : IsIdle during)
    (found : client.session? ref = some session) (message : Signal) :
    Turned ref client (client.handle during ref message) := by
  have rests := (Rested.refl orderly ref).turned
  simp only [Client.handle]
  cases message.body with
  | setupConfirm confirm => exact .onSetupConfirm orderly idle found _ confirm
  | release step release =>
      cases step with
      | confirm => exact .onReleaseConfirm orderly found _ release
      | indication => exact .onReleaseIndication orderly found _ release
      | request | response => exact rests
  | statusConfirm status => exact .onStatusConfirm orderly found _ status
  | reset step reset =>
      cases step with
      | confirm => exact .onResetConfirm orderly found _ reset
      | indication | request | response => exact rests
  | setupRequest _ | connectRequest _ | statusRequest _ | sessionInProgress _ => exact rests

/-! ## Alarms -/

/-- That its request was given up is a turn of the session that awaits the answer. -/
theorem Turned.deliveryFailed (orderly : client.Orderly) (notice : FailureNotice)
    (found : client.session? notice.owner = some session) :
    Turned notice.owner client (client.deliveryFailed notice) := by
  have rests := (Rested.refl orderly notice.owner).turned
  simp only [Client.deliveryFailed]
  simp only [found]
  split
  · next kind =>
      split
      · next awaited =>
          have sent := (orderly.coherent found).setup.mp (awaited ▸ rfl)
          exact .fail orderly found sent (by rw [kind]; rfl)
      · exact rests
  · next kind =>
      split
      · next awaited =>
          have unreleased := unreleased_of_slot orderly found (.release .request) awaited
          have minor : SessionEvent.isMinor (.deliveryFailed notice.kind) = true := by
            rw [kind]
            rfl
          exact (Rested.tell orderly found unreleased minor).finish found unreleased _ _
      · exact rests
  · next kind =>
      split
      · next awaited =>
          have unreleased := unreleased_of_slot orderly found .statusRequest awaited
          have cleared := Rested.clearStatus orderly found
          exact (cleared.told orderly found unreleased (by rw [kind]; rfl)).turned
      · exact rests
  · next kind =>
      split
      · next awaited =>
          have unreleased := unreleased_of_slot orderly found (.reset .request) awaited
          have cleared := Rested.clearReset orderly found
          exact (cleared.told orderly found unreleased (by rw [kind]; rfl)).turned
      · exact rests
  · exact rests

theorem Rested.keepAliveDue (orderly : client.Orderly) (ref : SessionRef) :
    Rested ref client (client.keepAliveDue ref) := by
  simp only [Client.keepAliveDue]
  split
  · exact .refl orderly ref
  · next session found =>
      split
      · next established =>
          have sent := Rested.sendInProgress orderly ref session
          exact sent.trans (.arm (sent.orderly orderly) found established)
      · exact .refl orderly ref

end Client

end OnDemand
