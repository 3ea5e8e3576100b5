import Mathlib.Data.List.Induction
import OnDemand.Proofs.Session.Run

/-!
# When a session loses a request that it awaits

A confirm settles a request by its transaction, before it is brought to a session by the
number that it names.  When it names another session than the one that awaits it, the
request is gone and the session still awaits it.  This is the only way in which a session
can be left awaiting a request that nobody repeats or gives up.
-/

namespace OnDemand

namespace Client

variable {client next : Client} {ref other : SessionRef} {session : Session}

/-- Every request that a session awaits and that is to be repeated is kept. -/
structure KeepsAwaited (client : Client) : Prop where
  requests : ∀ {ref session kind transaction}, client.session? ref = some session →
    session.isHeld = true → session.slot kind = some transaction →
    session.retries client.settings kind ≠ 0 →
    ∃ request, client.courier.pending.get? transaction = some request ∧
      request.session = session.number ∧ request.kind = kind
  /-- A session that waits for its setup or its release still has another copy or a notice
  of failure coming. -/
  coming : ∀ {ref session kind}, client.session? ref = some session → session.isHeld = true →
    (session.state = .setupSent ∧ kind = .setupRequest ∨
      session.state = .releasing ∧ kind = .release .request) →
    session.retries client.settings kind ≠ 0 →
    ∃ transaction request, client.courier.pending.get? transaction = some request ∧
      request.session = session.number ∧ request.kind = kind ∧
      ∃ alarm ∈ client.courier.agenda.alarms,
        alarm.handle = request.alarm ∧ alarm.task = .unanswered transaction

/-- A session awaits the answer to a request that is repeated, and a message is that
answer. -/
structure IsAnsweredBy (client : Client) (message : Signal) (ref : SessionRef)
    (session : Session) (kind : SignalKind) : Prop where
  found : client.session? ref = some session
  held : session.isHeld = true
  slot : session.slot kind = some message.transaction
  repeated : session.retries client.settings kind ≠ 0
  answers : message.kind.request? = some kind

/-- A message is the answer that one session awaits, but names another that is alive. -/
def GoesAstray (message : Signal) (client : Client) : Prop :=
  ∃ ref session kind id other, client.IsAnsweredBy message ref session kind ∧
    message.body.session? = some id ∧ id.isZero = false ∧
    client.routes.lookup client.isLive id.number = some other ∧ other ≠ ref

/-! ## Requests that are kept -/

/-- A request is kept for a session under its number. -/
theorem Sound.keeps_iff (sound : client.Sound) (found : client.session? ref = some session)
    {transaction : UInt32} {kind : SignalKind} :
    client.Keeps transaction kind ref ↔
      ∃ request, client.courier.pending.get? transaction = some request ∧
        request.session = session.number ∧ request.kind = kind := by
  refine exists_congr fun request => and_congr_right fun present => ?_
  obtain ⟨owner, ownerFound, number, _⟩ := sound.owned present
  rw [← number, sound.number_eq_iff found ownerFound]
  exact and_comm

/-- All that is awaited is kept exactly when all sessions are tended. -/
theorem Sound.keepsAwaited_iff (sound : client.Sound) :
    client.KeepsAwaited ↔ ∀ owner, client.Tended (fun _ => False) owner := by
  constructor
  · intro keeps owner session kind transaction found held slot repeated _
    exact (sound.keeps_iff found).mpr (keeps.requests found held slot repeated)
  · intro tended
    have requests : ∀ {ref session kind transaction}, client.session? ref = some session →
        session.isHeld = true → session.slot kind = some transaction →
        session.retries client.settings kind ≠ 0 →
        ∃ request, client.courier.pending.get? transaction = some request ∧
          request.session = session.number ∧ request.kind = kind :=
      fun found held slot repeated =>
        (sound.keeps_iff found).mp (tended _ found held slot repeated id)
    refine ⟨requests, ?_⟩
    intro ref session kind found held waits repeated
    have coherent := sound.coherent found
    obtain ⟨transaction, slot⟩ : ∃ transaction, session.slot kind = some transaction := by
      rcases waits with ⟨sent, rfl⟩ | ⟨releasing, rfl⟩
      · exact Option.isSome_iff_exists.mp (coherent.setup.mpr sent)
      · exact Option.isSome_iff_exists.mp (coherent.release.mpr releasing)
    obtain ⟨request, present, number, named⟩ := requests found held slot repeated
    exact ⟨transaction, request, present, number, named, sound.courier.timed present⟩

/-! ## Messages that are brought to who awaits them -/

/-- A session that awaits something is reached by its number. -/
theorem IsAnsweredBy.active {message : Signal} {kind : SignalKind} (sound : client.Sound)
    (answered : client.IsAnsweredBy message ref session kind) : session.IsActive := by
  refine ⟨answered.held, fun released => ?_⟩
  have none := (sound.coherent answered.found).slot_eq_none released kind
  cases none.symm.trans answered.slot

/-- As long as no transaction is drawn twice, the transaction of an answer leads to the
session that awaits it. -/
theorem IsAnsweredBy.routeTransaction_eq {message : Signal} {kind : SignalKind}
    (sound : client.Sound) (nodup : client.drawn.Nodup)
    (answered : client.IsAnsweredBy message ref session kind) :
    client.routes.routeTransaction client.isLive client.awaits message.transaction =
      some ref :=
  sound.routeTransaction_eq nodup answered.found (answered.active sound) answered.slot

/-- An answer that does not go astray is brought to the session that awaits it. -/
theorem IsAnsweredBy.route_eq {message : Signal} {kind : SignalKind} (sound : client.Sound)
    (nodup : client.drawn.Nodup) (straight : ¬ client.GoesAstray message)
    (answered : client.IsAnsweredBy message ref session kind) :
    client.route message = some ref := by
  have awaiting := answered.routeTransaction_eq sound nodup
  cases named : message.body.session? with
  | none => simp only [Client.route, named, awaiting, Option.filter_none, Option.bind_none,
      Option.none_or]
  | some id =>
      by_cases unnamed : id.isZero
      · simp only [Client.route, named, awaiting, Option.filter_some, unnamed, Bool.not_true,
          Bool.false_eq_true, if_false, Option.bind_none, Option.none_or]
      · rw [Bool.not_eq_true] at unnamed
        rw [route_of_named named unnamed, awaiting]
        cases reached : client.routes.lookup client.isLive id.number with
        | none => rfl
        | some other =>
            by_cases own : other = ref
            · rw [own]
              rfl
            · exact absurd ⟨ref, session, kind, id, other, answered, named, unnamed, reached, own⟩
                straight

theorem Delivery.tended {message : Signal} {excused : UInt32 → Prop} (sound : client.Sound)
    (delivery : Delivery message client next) (nodup : next.drawn.Nodup)
    (tended : ∀ owner, client.Tended excused owner) : ∀ owner, next.Tended excused owner := by
  cases delivery with
  | handled routed found active handles => exact handles.tended_all sound nodup tended
  | unclaimed unrouted => exact tended
  | toAll unasked proceeds => exact proceeds.tended nodup tended

/-- Whoever is brought a message awaits the answer no longer, and nobody awaits anything
new. -/
theorem Delivery.settles {message : Signal} {kind : SignalKind}
    (delivery : Delivery message client next) (answers : message.kind.request? = some kind) :
    (∀ owner, AwaitsLess owner client next) ∧
      ∀ {owner after}, client.route message = some owner → next.session? owner = some after →
        after.slot kind ≠ some message.transaction := by
  cases delivery with
  | handled routed found active handles =>
      refine ⟨handles.awaitsLess, fun reached afterFound => ?_⟩
      cases routed.symm.trans reached
      exact handles.settled afterFound answers
  | unclaimed unrouted =>
      refine ⟨fun _ after found => ⟨after, found, rfl, rfl, fun _ _ slot => slot⟩, ?_⟩
      intro owner after reached
      cases (unrouted (answers ▸ rfl)).symm.trans reached
  | toAll unasked proceeds => cases unasked.symm.trans answers

/-- A message that does not go astray leaves all sessions tended. -/
theorem tended_receive {during : Client → Client} (sound : client.Sound) (idle : IsIdle during)
    {message : Signal} (nodup : (client.receive during message).drawn.Nodup)
    (straight : ¬ client.GoesAstray message)
    (tended : ∀ owner, client.Tended (fun _ => False) owner) :
    ∀ owner, (client.receive during message).Tended (fun _ => False) owner := by
  have settles := Affects.settled sound message
  have settledSound := (settles 0).sound
  have evolved := Evolves.receive sound idle message
  have before : client.drawn.Nodup := nodup.sublist evolved.drawn.sublist
  have delivery := settledSound.delivery idle message
  rw [receive_eq] at nodup evolved ⊢
  by_cases dropped : ∃ request, client.courier.pending.get? message.transaction = some request ∧
      message.kind.request? = some request.kind
  · obtain ⟨request, present, answers⟩ := dropped
    have left := delivery.tended settledSound nodup fun owner =>
      tended_of_lost (settles 0) (session?_settled message client)
        (fun _ _ gone => gone.1) (tended owner)
    obtain ⟨slots, settled⟩ := delivery.settles answers
    refine tended_recover tended evolved.settings ?_ left ?_
    · intro owner after found
      obtain ⟨stored, storedFound, less⟩ := slots owner found
      exact ⟨stored, (session?_settled message client owner).symm.trans storedFound, less⟩
    · intro owner session after kind found held slot repeated keeps afterFound
      obtain ⟨rfl, _⟩ := keeps_unique present keeps
      -- who awaited the request was brought the message
      refine settled ?_ afterFound
      rw [route_settled]
      exact IsAnsweredBy.route_eq sound before straight ⟨found, held, slot, repeated, answers⟩
  · have same : ∀ owner, (client.settled message).Tended (fun _ => False) owner := by
      intro owner session kind transaction found held slot repeated stays
      rw [session?_settled] at found
      rw [(settles 0).settings] at repeated
      apply (settles 0).keeps (tended owner found held slot repeated stays)
      rintro ⟨rfl, _, ⟨request, present, rfl, _⟩, answers⟩
      exact dropped ⟨request, present, answers⟩
    exact delivery.tended settledSound nodup same

/-! ## Messages that go astray -/

/-- A message that goes astray settles the request and leaves the session that awaits it as
it is. -/
theorem not_keepsAwaited_receive {during : Client → Client} (sound : client.Sound)
    (nodup : client.drawn.Nodup) {message : Signal} (astray : client.GoesAstray message)
    (before : client.KeepsAwaited) : ¬ (client.receive during message).KeepsAwaited := by
  obtain ⟨ref, session, kind, id, other, answered, named, unnamed, reached, different⟩ := astray
  have routed : client.route message = some other := by
    rw [route_of_named named unnamed, reached, Option.some_or]
  obtain ⟨otherSession, otherFound, _⟩ := sound.active_of_route routed
  have foreign : otherSession.slot kind ≠ some message.transaction := by
    intro slot
    exact different (sound.apart nodup otherFound slot answered.found answered.slot).1
  have received : client.receive during message = client.settled message := by
    rw [receive_eq, deliver_of_request? (answered.answers ▸ rfl)
      ((route_settled message client).trans routed)]
    exact handle_of_foreign ((session?_settled message client other).trans otherFound)
      answered.answers foreign
  obtain ⟨request, present, _, rfl⟩ :=
    before.requests answered.found answered.held answered.slot answered.repeated
  have gone : (client.settled message).courier.pending.get? message.transaction = none := by
    have confirm : message.kind.isConfirm = true := by
      rw [SignalKind.isConfirm, answered.answers]
      rfl
    simp only [settled]
    rw [if_pos confirm, Courier.acknowledgeReply_eq, if_pos ⟨request, present, answered.answers⟩]
    simp only [Courier.pending_drop, if_true]
  intro after
  rw [received] at after
  obtain ⟨again, againPresent, _⟩ := after.requests
    ((session?_settled message client ref).trans answered.found) answered.held answered.slot
    ((Affects.settled sound message 0).settings ▸ answered.repeated)
  cases gone.symm.trans againPresent

/-! ## Runs -/

/-- As long as no answer goes astray, all that sessions await is kept. -/
theorem tended_run (settings : ClientSettings) {actions : List ClientAction}
    (few : ClientAction.allCreated actions < 2 ^ 32 - 1)
    (nodup : ((start settings).run actions).drawn.Nodup)
    (straight : ∀ before datagram message, before ++ [.dispatch datagram] <+: actions →
      Signal.decode datagram = .ok message →
      ¬ ((start settings).run before).GoesAstray message) :
    ∀ owner, ((start settings).run actions).Tended (fun _ => False) owner := by
  induction actions using List.reverseRecOn with
  | nil => exact fun owner session kind transaction found => nomatch found
  | append_singleton before action ih =>
      have resumed := Evolves.resume settings few
      have first : ClientAction.allCreated before < 2 ^ 32 - 1 := by
        rw [ClientAction.allCreated_append] at few
        exact Nat.lt_of_le_of_lt (Nat.le_add_right _ _) few
      have evolved := Evolves.start settings first
      have tended := ih first (nodup.sublist resumed.drawn.sublist) fun earlier datagram message
        within => straight earlier datagram message (within.trans (List.prefix_append _ _))
      rw [run_append] at nodup ⊢
      by_cases silent : ∀ datagram, action ≠ .dispatch datagram
      · refine (Proceeds.perform evolved.sound ?_ silent).tended nodup tended
        rw [evolved.length, Client.start, List.length_nil, Nat.zero_add]
        rw [ClientAction.allCreated_append] at few
        exact few
      · push Not at silent
        obtain ⟨datagram, rfl⟩ := silent
        change ∀ owner, (((start settings).run before).dispatch datagram).Tended _ owner
        change (((start settings).run before).dispatch datagram).drawn.Nodup at nodup
        simp only [dispatch, receiveBytes] at nodup ⊢
        split at nodup
        · exact tended
        · next message decoded =>
            exact tended_receive evolved.sound isIdle_arrival nodup
              (straight before datagram message (List.prefix_refl _) decoded) tended

/-- As long as no transaction is drawn twice, sessions lose no request that they await in a
run exactly when no answer goes astray in it. -/
theorem keepsAwaited_iff_straight (settings : ClientSettings) (actions : List ClientAction)
    (few : ClientAction.allCreated actions < 2 ^ 32 - 1)
    (nodup : ((start settings).run actions).drawn.Nodup) :
    (∀ before, before <+: actions → ((start settings).run before).KeepsAwaited) ↔
      ∀ before datagram message, before ++ [.dispatch datagram] <+: actions →
        Signal.decode datagram = .ok message →
        ¬ ((start settings).run before).GoesAstray message := by
  have cut : ∀ {before}, before <+: actions →
      ClientAction.allCreated before < 2 ^ 32 - 1 ∧
        ((start settings).run before).drawn.Nodup := by
    rintro before ⟨rest, rfl⟩
    refine ⟨?_, nodup.sublist (Evolves.resume settings few).drawn.sublist⟩
    rw [ClientAction.allCreated_append] at few
    exact Nat.lt_of_le_of_lt (Nat.le_add_right _ _) few
  constructor
  · intro keeps before datagram message within decoded astray
    have sooner : before <+: actions := (List.prefix_append _ _).trans within
    obtain ⟨few, nodup⟩ := cut sooner
    have after := keeps _ within
    rw [run_append] at after
    change (((start settings).run before).dispatch datagram).KeepsAwaited at after
    simp only [dispatch, receiveBytes, decoded] at after
    exact not_keepsAwaited_receive (Evolves.start settings few).sound nodup astray (keeps _ sooner)
      after
  · intro straight before within
    obtain ⟨few, nodup⟩ := cut within
    rw [(Evolves.start settings few).sound.keepsAwaited_iff]
    exact tended_run settings few nodup fun earlier datagram message sooner =>
      straight earlier datagram message (sooner.trans within)

/-- A confirm in the transaction of one session, with the number of another. -/
def foreignConfirm : List ClientAction :=
  [.create (.ofVendor .arris) {}, .create (.ofVendor .arris) {}, .operate .setup 0,
    .dispatch (sampleDatagram (.setupConfirm ⟨sampleId 2, ⟨0⟩, .zero, [], {}⟩) 1)]

theorem keepsAwaited_iff_straight_foreignConfirm :
    ClientAction.allCreated foreignConfirm < 2 ^ 32 - 1 ∧
    ((start sampleSettings).run foreignConfirm).drawn.Nodup ∧
    ((∀ before, before <+: foreignConfirm →
        ((start sampleSettings).run before).KeepsAwaited) ↔
      ∀ before datagram message, before ++ [.dispatch datagram] <+: foreignConfirm →
        Signal.decode datagram = .ok message →
        ¬ ((start sampleSettings).run before).GoesAstray message) :=
  ⟨by decide, by decide +kernel,
    keepsAwaited_iff_straight sampleSettings foreignConfirm (by decide) (by decide +kernel)⟩

/-- The session that sent the setup request awaits its confirm still, but no copy of the
request will be sent again, and nobody will be told that it failed. -/
theorem not_keepsAwaited_foreignConfirm :
    ¬ ∀ (settings : ClientSettings) (actions : List ClientAction),
      ClientAction.allCreated actions < 2 ^ 32 - 1 →
      ((start settings).run actions).drawn.Nodup →
      ((start settings).run actions).KeepsAwaited := by
  intro keeps
  have few : ClientAction.allCreated foreignConfirm < 2 ^ 32 - 1 := by decide
  have nodup : ((start sampleSettings).run foreignConfirm).drawn.Nodup := by decide +kernel
  obtain ⟨session, found, held, awaited, repeated⟩ :
      ∃ session, ((start sampleSettings).run foreignConfirm).session? 0 = some session ∧
        session.isHeld = true ∧ session.slot .setupRequest = some 1 ∧
        session.retries sampleSettings .setupRequest ≠ 0 :=
    ⟨_, rfl, rfl, rfl, by decide +kernel⟩
  have dropped : ((start sampleSettings).run foreignConfirm).courier.pending.get? 1 = none := rfl
  obtain ⟨request, present, _⟩ :=
    (keeps sampleSettings foreignConfirm few nodup).requests found held awaited repeated
  cases dropped.symm.trans present

end Client

end OnDemand
