import OnDemand.Proofs.Session.Following

/-!
# What a release indication releases

The network releases the live session that has the number in the indication.  When there is
none, it releases the one that awaits the transaction of the indication, although the network
draws that number itself.  Either way one session ends, and nothing that belongs to another
changes.
-/

namespace OnDemand

namespace Client

variable {client next : Client} {ref : SessionRef} {session : Session} {message : Signal}
  {release : Release} {datagram : Bytes}

/-- One session that is on the routes ends.  All other sessions stay as they are, and so do the
routes and the requests under any other number than its own. -/
structure ReleasesAlone (ref : SessionRef) (session : Session) (client next : Client) : Prop where
  found : client.session? ref = some session
  held : session.isHeld = true
  routed : client.routes.handler? session.number = some ref
  released : ∃ after, next.session? ref = some after ∧ after.state = .released
  others : ∀ {other}, other ≠ ref → next.session? other = client.session? other
  routes : ∀ {owner}, owner ≠ session.number →
    next.routes.sessions.get? owner = client.routes.sessions.get? owner
  numbers : ∀ {number owner}, owner ≠ session.number →
    (next.routes.byNumber.get? number = some owner ↔
      client.routes.byNumber.get? number = some owner)
  requests : (next.courier.pending.filter fun entry => entry.2.session != session.number) =
    client.courier.pending.filter fun entry => entry.2.session != session.number

/-! ## What the session does -/

/-- A session that is not released answers the indication and ends. -/
theorem onReleaseIndication_eq (found : client.session? ref = some session)
    (unreleased : session.state ≠ .released) (transaction : UInt32) (release : Release) :
    client.onReleaseIndication ref transaction release =
      (client.submit ref session ⟨transaction, [],
        .release .response ⟨session.id, release.reason, {}⟩⟩ 0).2.finish ref release.reason
          true := by
  simp only [onReleaseIndication]
  simp only [found]
  exact if_neg unreleased

/-- A session on a route is released alone. -/
theorem Orderly.releasesAlone (orderly : client.Orderly) (live : client.isLive ref = true)
    {owner : UInt32} (handler : client.routes.handler? owner = some ref) (transaction : UInt32)
    (release : Release) :
    ∃ session, ReleasesAlone ref session client
      (client.onReleaseIndication ref transaction release) := by
  obtain ⟨session, found, number, unreleased⟩ := orderly.routed handler
  rw [onReleaseIndication_eq found unreleased]
  -- what was sent stays unread: it is in neither the sessions nor the routes nor the requests
  have sent : (client.submit ref session ⟨transaction, [],
      .release .response ⟨session.id, release.reason, {}⟩⟩ 0).2.session? ref = some session := found
  refine ⟨session, ?_⟩
  constructor
  case found => exact found
  case held => rwa [isLive, found, Option.any_some] at live
  case routed => exact number ▸ handler
  case released =>
    obtain ⟨events, finished⟩ := session?_finish sent release.reason true
    exact ⟨_, finished, rfl⟩
  case others => exact fun different => (Confined.finish ref _ _ _).others different
  case routes =>
    intro other different
    rw [routes_finish sent, RouteTable.sessions_unregister, if_neg different]
    rfl
  case numbers =>
    intro wire other different
    rw [routes_finish sent, RouteTable.byNumber_unregister different]
    rfl
  case requests =>
    simp only [pending_finish sent, List.filter_filter, Bool.and_self]
    simp only [Client.submit, Courier.pending_submit_zero]

/-! ## Whom the message reaches -/

theorem handler?_of_lookup {live : HandlerRef → Bool} {number : UInt32}
    (found : client.routes.lookup live number = some ref) :
    live ref = true ∧ ∃ owner, client.routes.handler? owner = some ref := by
  obtain ⟨owner, _, found⟩ := Option.bind_eq_some_iff.mp found
  obtain ⟨route, routed, found⟩ := Option.bind_eq_some_iff.mp found
  split at found
  · next alive =>
      cases found
      exact ⟨alive, owner, by rw [RouteTable.handler?, routed, Option.map_some]⟩
  · cases found

theorem handler?_of_routeTransaction (consistent : client.routes.Consistent)
    {live : HandlerRef → Bool} {awaits : HandlerRef → UInt32 → Bool} {transaction : UInt32}
    (found : client.routes.routeTransaction live awaits transaction = some ref) :
    awaits ref transaction = true ∧ live ref = true ∧
      ∃ owner, client.routes.handler? owner = some ref := by
  have awaited := List.find?_some found
  exact ⟨awaited, consistent.mem_handlers.mp (List.mem_of_find?_eq_some found)⟩

/-- A release indication that names a session is handled by whom it reaches. -/
theorem dispatch_releaseIndication_eq (decoded : Signal.decode datagram = .ok message)
    (body : message.body = .release .indication release)
    (named : release.session.isZero = false) :
    client.dispatch datagram =
      match (client.routes.lookup client.isLive release.session.number).or
          (client.routes.routeTransaction client.isLive client.awaits message.transaction) with
      | some ref => client.onReleaseIndication ref message.transaction release
      | none => client := by
  have names : message.body.session? = some release.session := by rw [body]; rfl
  have kind : message.kind = .release .indication := by rw [Signal.kind, body]; rfl
  simp only [dispatch, receiveBytes, decoded, receive]
  rw [kind]
  simp only [body, SignalKind.isConfirm, SignalKind.request?, isForSession, handle,
    Option.isSome_none, Bool.false_eq_true, if_false, if_true]
  rw [route_of_named names named]
  rfl

/-- In a client that is in order, a release indication that names a session releases the live
session of that number, or else the one that awaits its transaction. -/
theorem Orderly.releaseIndication (orderly : client.Orderly)
    (decoded : Signal.decode datagram = .ok message)
    (body : message.body = .release .indication release)
    (named : release.session.isZero = false) :
    (∀ ref, client.routes.lookup client.isLive release.session.number = some ref →
      ∃ session, ReleasesAlone ref session client (client.dispatch datagram)) ∧
    (∀ ref, client.routes.lookup client.isLive release.session.number = none →
      client.routes.routeTransaction client.isLive client.awaits message.transaction = some ref →
      ∃ session, session.awaits message.transaction = true ∧
        ReleasesAlone ref session client (client.dispatch datagram)) ∧
    (client.routes.lookup client.isLive release.session.number = none →
      client.routes.routeTransaction client.isLive client.awaits message.transaction = none →
      client.dispatch datagram = client) := by
  rw [dispatch_releaseIndication_eq decoded body named]
  refine ⟨fun ref bound => ?_, fun ref unbound awaiting => ?_, fun unbound unawaited => ?_⟩
  · obtain ⟨live, owner, handler⟩ := handler?_of_lookup bound
    rw [bound, Option.some_or]
    exact orderly.releasesAlone live handler _ _
  · obtain ⟨awaits, live, owner, handler⟩ := handler?_of_routeTransaction orderly.routes awaiting
    obtain ⟨session, alone⟩ := orderly.releasesAlone live handler message.transaction release
    rw [unbound, awaiting, Option.none_or]
    refine ⟨session, ?_, alone⟩
    rwa [Client.awaits, alone.found, Option.any_some] at awaits
  · rw [unbound, unawaited, Option.none_or]

/-- A session that was asked for, before the network answers. -/
def awaitedSetup : List ClientAction := [.create (.ofVendor .arris) {}, .operate .setup 0]

end Client

end OnDemand
