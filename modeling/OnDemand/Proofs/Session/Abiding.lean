import OnDemand.Proofs.Session.Following

/-!
# What most of what happens leaves alone

A session begins to await an answer only when it asks for something, and only then is a request
kept.  It takes a name only when it is granted, and only then is it reached by another number.
Whatever else happens to a client, its sessions keep their names and await no more than before,
and neither requests nor routes are added.
-/

namespace OnDemand

namespace Session

/-- The session keeps its number and its name, and awaits nothing that it did not await. -/
structure Abides (before after : Session) : Prop where
  number : after.number = before.number
  id : after.id = before.id
  slots : ∀ {kind transaction}, after.slot kind = some transaction →
    before.slot kind = some transaction

/-- What a session awaits is in its four slots. -/
theorem Abides.of_slots {before after : Session} (number : after.number = before.number)
    (id : after.id = before.id)
    (setup : after.setup = none ∨ after.setup = before.setup)
    (release : after.release = none ∨ after.release = before.release)
    (status : after.status = none ∨ after.status = before.status)
    (reset : after.reset = none ∨ after.reset = before.reset) : before.Abides after where
  number := number
  id := id
  slots {kind transaction} slot := by
    have kept : ∀ {was now : Option UInt32}, now = none ∨ now = was → now = some transaction →
        was = some transaction := by
      intro was now left same
      rcases left with none | stays
      · cases none.symm.trans same
      · exact stays.symm.trans same
    simp only [Session.slot] at slot ⊢
    split at slot
    · exact kept setup slot
    · exact kept release slot
    · exact kept status slot
    · exact kept reset slot
    · cases slot

theorem abides_closed (session : Session) : session.Abides (Client.closed session) :=
  .of_slots rfl rfl (.inl rfl) (.inl rfl) (.inl rfl) (.inl rfl)

theorem abides_granted (confirm : SetupConfirm) (session : Session) :
    session.Abides (session.granted confirm) := by
  obtain ⟨_, _, _, _, _, _, _, applied⟩ := applyConfirm_eq { session with setup := none } confirm
  rw [granted, applied]
  exact .of_slots rfl rfl (.inl rfl) (.inr rfl) (.inr rfl) (.inr rfl)

end Session

namespace Client

variable {client middle next : Client} {ref other : SessionRef} {session stored : Session}
  {change : Session → Session}

/-- Nothing is awaited and no request is kept that was not before. -/
structure Lessens (client next : Client) : Prop where
  drawn : client.drawn <:+ next.drawn
  numbers : ∀ {ref before}, client.session? ref = some before →
    ∃ after, next.session? ref = some after ∧ after.number = before.number
  slots : ∀ {ref after kind transaction}, next.session? ref = some after →
    after.slot kind = some transaction →
    ∃ before, client.session? ref = some before ∧ before.slot kind = some transaction
  requests : client.courier.Loses next.courier

/-- No session takes another name, and no route is added or changed. -/
structure Resides (client next : Client) : Prop where
  settings : next.settings = client.settings
  names : ∀ {ref after}, next.session? ref = some after →
    ∃ before, client.session? ref = some before ∧ after.number = before.number ∧
      after.id = before.id
  routes : ∀ {owner route}, next.routes.sessions.get? owner = some route →
    client.routes.sessions.get? owner = some route

/-- Neither is anything awaited or kept that was not before, nor does any session take another
name or route. -/
structure Abides (client next : Client) : Prop extends Lessens client next, Resides client next

theorem Lessens.trans (first : Lessens client middle) (second : Lessens middle next) :
    Lessens client next where
  drawn := first.drawn.trans second.drawn
  numbers found := by
    obtain ⟨between, betweenFound, number⟩ := first.numbers found
    obtain ⟨after, afterFound, same⟩ := second.numbers betweenFound
    exact ⟨after, afterFound, same.trans number⟩
  slots found slot := by
    obtain ⟨between, betweenFound, awaited⟩ := second.slots found slot
    exact first.slots betweenFound awaited
  requests := first.requests.trans second.requests

theorem Resides.trans (first : Resides client middle) (second : Resides middle next) :
    Resides client next where
  settings := second.settings.trans first.settings
  names found := by
    obtain ⟨between, betweenFound, number, id⟩ := second.names found
    obtain ⟨before, beforeFound, numberBefore, idBefore⟩ := first.names betweenFound
    exact ⟨before, beforeFound, number.trans numberBefore, id.trans idBefore⟩
  routes found := first.routes (second.routes found)

theorem Abides.trans (first : Abides client middle) (second : Abides middle next) :
    Abides client next where
  toLessens := first.toLessens.trans second.toLessens
  toResides := first.toResides.trans second.toResides

/-! ## Changes of one session -/

theorem session?_of_sessions (sessions : next.sessions = client.sessions.modify ref change) :
    next.session? other = (client.modify ref change).session? other := by
  rw [session?, sessions]
  rfl

theorem Lessens.of_modify (sessions : next.sessions = client.sessions.modify ref change)
    (number : ∀ session, client.session? ref = some session →
      (change session).number = session.number)
    (slots : ∀ session, client.session? ref = some session → ∀ {kind transaction},
      (change session).slot kind = some transaction → session.slot kind = some transaction)
    (drawn : client.drawn <:+ next.drawn) (requests : client.courier.Loses next.courier) :
    Lessens client next where
  drawn := drawn
  numbers {other before} found := by
    refine ⟨_, (session?_of_sessions sessions).trans
      (session?_modify_eq_some.mpr ⟨before, found, rfl⟩), ?_⟩
    split
    · next own => exact number before (own ▸ found)
    · rfl
  slots {other after kind transaction} found slot := by
    obtain ⟨before, beforeFound, rfl⟩ :=
      session?_modify_eq_some.mp ((session?_of_sessions sessions).symm.trans found)
    refine ⟨before, beforeFound, ?_⟩
    split at slot
    · next own => exact slots before (own ▸ beforeFound) slot
    · exact slot
  requests := requests

theorem Resides.of_modify (sessions : next.sessions = client.sessions.modify ref change)
    (names : ∀ session, client.session? ref = some session →
      (change session).number = session.number ∧ (change session).id = session.id)
    (settings : next.settings = client.settings) (routes : next.routes = client.routes) :
    Resides client next where
  settings := settings
  names {other after} found := by
    obtain ⟨before, beforeFound, rfl⟩ :=
      session?_modify_eq_some.mp ((session?_of_sessions sessions).symm.trans found)
    refine ⟨before, beforeFound, ?_⟩
    split
    · next own => exact names before (own ▸ beforeFound)
    · exact ⟨rfl, rfl⟩
  routes found := routes ▸ found

theorem Abides.of_modify (sessions : next.sessions = client.sessions.modify ref change)
    (abides : ∀ session, client.session? ref = some session → session.Abides (change session))
    (settings : next.settings = client.settings) (drawn : client.drawn <:+ next.drawn)
    (routes : next.routes = client.routes) (requests : client.courier.Loses next.courier) :
    Abides client next where
  toLessens := .of_modify sessions (fun session found => (abides session found).number)
    (fun session found _ _ => (abides session found).slots) drawn requests
  toResides := .of_modify sessions
    (fun session found => ⟨(abides session found).number, (abides session found).id⟩) settings
    routes

/-- What changes no session, draws at most transactions, and adds neither routes nor
requests. -/
theorem Abides.aside (sessions : next.sessions = client.sessions)
    (settings : next.settings = client.settings) (drawn : client.drawn <:+ next.drawn)
    (routes : ∀ {owner route}, next.routes.sessions.get? owner = some route →
      client.routes.sessions.get? owner = some route)
    (requests : client.courier.Loses next.courier) : Abides client next where
  drawn := drawn
  numbers {ref before} found := ⟨before, by rw [session?, sessions]; exact found, rfl⟩
  slots {ref after _ _} found slot := ⟨after, by rw [session?, ← sessions]; exact found, slot⟩
  requests := requests
  settings := settings
  names {ref after} found := ⟨after, by rw [session?, ← sessions]; exact found, rfl, rfl⟩
  routes := routes

theorem Abides.refl (client : Client) : Abides client client :=
  .aside rfl rfl (List.suffix_refl _) id (.refl _)

/-- What only sends, sets alarms or takes them back. -/
theorem Abides.of_courier {courier : Courier} (requests : client.courier.Loses courier) :
    Abides client { client with courier } :=
  .aside rfl rfl (List.suffix_refl _) id requests

theorem Abides.modify (ref : SessionRef) (change : Session → Session) (client : Client)
    (abides : ∀ session, client.session? ref = some session → session.Abides (change session)) :
    Abides client (client.modify ref change) :=
  .of_modify rfl abides rfl (List.suffix_refl _) rfl (.refl _)

theorem Abides.tell (ref : SessionRef) (event : SessionEvent) (client : Client) :
    Abides client (client.tell ref event) :=
  .modify ref _ client fun _ _ => ⟨rfl, rfl, id⟩

theorem Abides.draw (client : Client) : Abides client client.drawTransaction.2 :=
  .aside rfl rfl (List.suffix_cons _ _) id (.refl _)

theorem Abides.send (ref : SessionRef) (session : Session) (message : Signal) (client : Client) :
    Abides client (client.submit ref session message 0).2 :=
  .of_courier (.of_eq Courier.pending_submit_zero)

theorem Abides.arm (ref : SessionRef) (client : Client) :
    Abides client (client.armKeepAlive ref) := by
  simp only [armKeepAlive]
  split
  · exact .refl client
  · exact .of_modify rfl (fun _ _ => ⟨rfl, rfl, id⟩) rfl (List.suffix_refl _) rfl (.of_eq rfl)

theorem Abides.disarm (ref : SessionRef) (client : Client) :
    Abides client (client.disarmKeepAlive ref) := by
  simp only [disarmKeepAlive]
  split
  · exact .refl client
  · exact .of_modify rfl (fun _ _ => ⟨rfl, rfl, id⟩) rfl (List.suffix_refl _) rfl (.of_eq rfl)

/-! ## The end of a session -/

theorem Abides.releaseHoldings (number : UInt32) (client : Client) :
    Abides client (client.releaseHoldings number) := by
  refine .aside rfl rfl (List.suffix_refl _) ?_ (.cancelSession client.courier number)
  intro owner route found
  simp only [Client.releaseHoldings, RouteTable.sessions_unregister] at found
  split at found
  · cases found
  · exact found

theorem Abides.callCa (call : CaCall) (client : Client) : Abides client (client.callCa call).2 :=
  .aside rfl rfl (List.suffix_refl _) id (.refl _)

theorem Abides.stopCa (ref : SessionRef) (session : Session) (client : Client) :
    Abides client (client.stopCa ref session) := by
  rw [stopCa_eq]
  split
  · split
    · exact .callCa _ client
    · exact (Abides.callCa _ client).trans (.tell ref _ _)
  · exact .refl client

theorem Abides.finish (ref : SessionRef) (reason : ReasonCode) (byServer : Bool)
    (client : Client) : Abides client (client.finish ref reason byServer) := by
  simp only [Client.finish]
  split
  · exact .refl client
  · next session _ =>
      have closed := Abides.modify ref closed client fun session _ => session.abides_closed
      have held := closed.trans (.disarm ref _)
      have gone := held.trans (.releaseHoldings session.number _)
      exact (gone.trans (.stopCa ref session _)).trans (.tell ref _ _)

/-! ## Operations -/

theorem Abides.sendInProgress (ref : SessionRef) (session : Session) (client : Client) :
    Abides client (client.sendInProgress ref session).2 :=
  (Abides.draw client).trans (.send ref session _ _)

theorem Abides.connect (ref : SessionRef) (client : Client) :
    Abides client (client.connect ref).2 := by
  simp only [Client.connect]
  split
  · exact .refl client
  · next session found =>
      split
      · exact .refl client
      · have sent := (Abides.draw client).trans (.send ref session
          ⟨client.drawTransaction.1, [], .connectRequest ⟨session.id, {}⟩⟩ _)
        split
        · next submitted outcome =>
            obtain rfl : _ = submitted := congrArg Prod.snd outcome
            exact sent.trans (.modify ref _ _ fun _ _ => ⟨rfl, rfl, id⟩)
        · next cause submitted outcome => exact congrArg Prod.snd outcome ▸ sent

theorem Abides.sendKeepAlive (ref : SessionRef) (client : Client) :
    Abides client (client.sendKeepAlive ref).2 := by
  simp only [Client.sendKeepAlive]
  split
  · exact .refl client
  · split
    · exact .refl client
    · exact .sendInProgress ref _ client

theorem Abides.drop (ref : SessionRef) (client : Client) : Abides client (client.drop ref) := by
  simp only [Client.drop]
  split
  · exact .refl client
  · next session _ =>
      have dropped := (Abides.disarm ref client).trans
        (.modify ref (fun session => { session with isHeld := false }) _ fun _ _ => ⟨rfl, rfl, id⟩)
      exact dropped.trans (.releaseHoldings session.number _)

theorem Abides.takeEvents (ref : SessionRef) (client : Client) :
    Abides client (client.takeEvents ref).2 := by
  simp only [Client.takeEvents]
  split
  · exact .refl client
  · exact .modify ref _ client fun _ _ => ⟨rfl, rfl, id⟩

theorem Abides.awaitReady (ref : SessionRef) (client : Client) :
    Abides client (client.awaitReady ref).2 := by
  simp only [Client.awaitReady]
  split
  · exact .refl client
  · next session found =>
      refine .modify ref _ client fun again againFound => ?_
      cases found.symm.trans againFound
      unfold Session.awaitReady
      simp only
      split
      · exact ⟨rfl, rfl, id⟩
      · exact ⟨rfl, rfl, id⟩

/-! ## Requests -/

/-- A session begins to await the answer to a request in a transaction that is drawn for it, and
the request is submitted.  Before that and after it nothing else is awaited or kept.  A session
that asks for its release has no other requests. -/
inductive Asks (ref : SessionRef) (client : Client) : Client → Prop where
  | intro {quiet next : Client} {stored sender : Session} {kind : SignalKind}
      {mark : Session → Session} {message : Signal} {retries : Nat}
      (quieted : Abides client quiet)
      (found : quiet.session? ref = some stored)
      (number : sender.number = stored.number)
      (transaction : message.transaction = quiet.drawTransaction.1)
      (named : message.kind = kind)
      (marks : stored.Retouches (some (kind, quiet.drawTransaction.1)) (mark stored))
      (id : (mark stored).id = stored.id)
      (alone : ∀ {other}, (mark stored).slot (.release .request) = some other →
        other = quiet.drawTransaction.1 ∧
          ∀ entry ∈ quiet.courier.pending, entry.2.session ≠ stored.number)
      (rest : Abides (quiet.asking ref mark sender message retries).2 next) :
      Asks ref client next

section Asking

variable {kind : SignalKind} {mark unmark : Session → Session} {message : Signal}
  {retries : Nat}

/-- A session that asks for something else than its release. -/
theorem Asks.ask (found : client.session? ref = some session)
    (transaction : message.transaction = client.drawTransaction.1) (named : message.kind = kind)
    (marks : session.RetouchesInside (some (kind, client.drawTransaction.1)) (mark session))
    (id : (mark session).id = session.id)
    (stays : (mark session).slot (.release .request) = none)
    (unmarks : (mark session).Abides (unmark (mark session))) :
    Asks ref client
      (match client.asking ref mark session message retries with
        | (.ok (), next) => ((.ok (), next) : Except SessionError Unit × Client)
        | (.error cause, next) => (.error (.notSubmitted cause), next.modify ref unmark)).2 := by
  have asks : ∀ {next}, Abides (client.asking ref mark session message retries).2 next →
      Asks ref client next :=
    .intro (.refl client) found rfl transaction named marks.toRetouches id
      fun slot => nomatch stays.symm.trans slot
  split
  · next next outcome =>
      obtain rfl : _ = next := congrArg Prod.snd outcome
      exact asks (.refl _)
  · next cause next outcome =>
      obtain rfl : _ = next := congrArg Prod.snd outcome
      refine asks (.modify ref unmark _ fun again againFound => ?_)
      cases (session?_asking found).symm.trans againFound
      exact unmarks

theorem asks_setup (orderly : client.Orderly) (found : client.session? ref = some session) :
    Abides client (client.setup ref).2 ∨ Asks ref client (client.setup ref).2 := by
  simp only [Client.setup]
  simp only [found]
  split
  · exact .inl (.refl client)
  · next idle =>
      simp only [ne_eq, Decidable.not_not] at idle
      split
      · exact .inl (.refl client)
      · exact .inr (Asks.ask found rfl rfl (Session.retouches_setup idle) rfl
          ((orderly.coherent found).release_eq_none (by rw [idle]; decide))
          (.of_slots rfl rfl (.inl rfl) (.inr rfl) (.inr rfl) (.inr rfl)))

theorem asks_requestStatus (orderly : client.Orderly)
    (found : client.session? ref = some session) :
    Abides client (client.requestStatus ref).2 ∨ Asks ref client (client.requestStatus ref).2 := by
  simp only [Client.requestStatus]
  simp only [found]
  split
  · exact .inl (.refl client)
  · next allowed =>
      obtain ⟨standing, unreleased⟩ := SessionState.not_ending fun refused =>
        allowed ⟨refused.1, refused.2.2⟩
      exact .inr (Asks.ask found rfl rfl (Session.retouches_status unreleased) rfl
        ((orderly.coherent found).release_eq_none standing)
        (.of_slots rfl rfl (.inr rfl) (.inr rfl) (.inl rfl) (.inr rfl)))

theorem asks_reset (orderly : client.Orderly) (found : client.session? ref = some session) :
    Abides client (client.reset ref).2 ∨ Asks ref client (client.reset ref).2 := by
  simp only [Client.reset]
  simp only [found]
  split
  · exact .inl (.refl client)
  · next allowed =>
      obtain ⟨standing, unreleased⟩ := SessionState.not_ending allowed
      exact .inr (Asks.ask found rfl rfl (Session.retouches_reset unreleased) rfl
        ((orderly.coherent found).release_eq_none standing)
        (.of_slots rfl rfl (.inr rfl) (.inr rfl) (.inr rfl) (.inl rfl)))

/-- A session that has forgotten its requests asks for its release. -/
theorem Asks.askRelease {quiet : Client} (quieted : Abides client quiet)
    (present : quiet.session? ref = some stored) (number : session.number = stored.number)
    (unreleased : stored.state ≠ .released) (unset : stored.keepAlive = none)
    (forgotten : ∀ entry ∈ quiet.courier.pending, entry.2.session ≠ stored.number)
    (transaction : message.transaction = quiet.drawTransaction.1)
    (named : message.kind = .release .request) :
    Asks ref client
      (match quiet.asking ref (Session.releasing quiet.drawTransaction.1) session message
          retries with
        | (.ok (), next) => ((.ok (), next) : Except SessionError Unit × Client)
        | (.error cause, next) =>
            (.error (.notSubmitted cause), next.finish ref .clientRelease false)).2 := by
  have asks : ∀ {next}, Abides (quiet.asking ref (Session.releasing quiet.drawTransaction.1)
      session message retries).2 next → Asks ref client next :=
    .intro quieted present number transaction named
      (Session.retouches_release unreleased unset).toRetouches rfl
      fun slot => ⟨(Option.some.inj slot).symm, forgotten⟩
  split
  · next next outcome =>
      obtain rfl : _ = next := congrArg Prod.snd outcome
      exact asks (.refl _)
  · next cause next outcome =>
      obtain rfl : _ = next := congrArg Prod.snd outcome
      exact asks (.finish ref _ _ _)

theorem asks_teardown (found : client.session? ref = some session) :
    Abides client (client.teardown ref).2 ∨ Asks ref client (client.teardown ref).2 := by
  have cancelled : Abides client
      { client with courier := (client.courier.cancelSession session.number).2 } :=
    .of_courier (.cancelSession _ _)
  have quieted := cancelled.trans (.disarm ref _)
  have present : (disarmKeepAlive ref { client with
      courier := (client.courier.cancelSession session.number).2 }).session? ref = _ :=
    session?_disarmKeepAlive found
  have forgotten : ∀ entry ∈ (disarmKeepAlive ref { client with
      courier := (client.courier.cancelSession session.number).2 }).courier.pending,
      entry.2.session ≠ session.number := by
    intro entry left
    rw [pending_disarmKeepAlive, Courier.pending_cancelSession] at left
    exact bne_iff_ne.mp (List.mem_filter.mp left).2
  simp only [Client.teardown]
  simp only [found]
  cases state : session.state
  case releasing => exact .inl (.refl client)
  case released => exact .inl (.refl client)
  case idle => exact .inl (.finish ref _ _ client)
  all_goals
    exact .inr (Asks.askRelease quieted present rfl (by rw [state]; decide) rfl forgotten rfl rfl)

end Asking

/-- What the owner does with a session is to ask for something, or less. -/
theorem asks_operate (orderly : client.Orderly) (found : client.session? ref = some session)
    (action : OwnerAction) :
    Abides client (client.operate action ref) ∨ Asks ref client (client.operate action ref) := by
  cases action with
  | setup => exact asks_setup orderly found
  | connect => exact .inl (.connect ref client)
  | sendKeepAlive => exact .inl (.sendKeepAlive ref client)
  | requestStatus => exact asks_requestStatus orderly found
  | reset => exact asks_reset orderly found
  | teardown => exact asks_teardown found
  | awaitReady => exact .inl (.awaitReady ref client)
  | takeEvents => exact .inl (.takeEvents ref client)
  | drop => exact .inl (.drop ref client)

/-! ## Alarms -/

theorem Abides.keepAliveDue (ref : SessionRef) (client : Client) :
    Abides client (client.keepAliveDue ref) := by
  simp only [Client.keepAliveDue]
  split
  · exact .refl client
  · split
    · exact (Abides.sendInProgress ref _ client).trans (.arm ref _)
    · exact .refl client

theorem Abides.deliveryFailed (notice : FailureNotice) (client : Client) :
    Abides client (client.deliveryFailed notice) := by
  simp only [Client.deliveryFailed]
  split
  · exact .refl client
  · split
    · split
      · have failed := Abides.modify notice.owner
          (fun session => { session with setup := none, state := .error }) client
          fun _ _ => .of_slots rfl rfl (.inl rfl) (.inr rfl) (.inr rfl) (.inr rfl)
        exact failed.trans (.tell _ _ _)
      · exact .refl client
    · split
      · exact (Abides.tell notice.owner _ client).trans (.finish _ _ _ _)
      · exact .refl client
    · split
      · have cleared := Abides.modify notice.owner (fun session => { session with status := none })
          client fun _ _ => .of_slots rfl rfl (.inr rfl) (.inr rfl) (.inl rfl) (.inr rfl)
        exact cleared.trans (.tell _ _ _)
      · exact .refl client
    · split
      · have cleared := Abides.modify notice.owner (fun session => { session with reset := none })
          client fun _ _ => .of_slots rfl rfl (.inr rfl) (.inr rfl) (.inr rfl) (.inl rfl)
        exact cleared.trans (.tell _ _ _)
      · exact .refl client
    · exact .refl client

theorem Abides.ring (reminder : Reminder) (client : Client) :
    Abides client (client.ring reminder) := by
  cases reminder with
  | keepAlive ref =>
      simp only [Client.ring]
      split
      · exact .keepAliveDue ref client
      · exact .refl client
  | unanswered transaction =>
      have expired : Abides client
          { client with courier := (client.courier.expire transaction).1 } :=
        .of_courier (.expire client.courier transaction)
      simp only [Client.ring]
      split
      · next courier outcome =>
          obtain rfl : _ = courier := congrArg Prod.fst outcome
          exact expired
      · next courier notice outcome =>
          obtain rfl : _ = courier := congrArg Prod.fst outcome
          split
          · exact expired.trans (.deliveryFailed notice _)
          · exact expired

theorem Abides.step {limit : Time} (stepped : client.step limit = some next) :
    Abides client next := by
  simp only [Client.step] at stepped
  split at stepped
  · cases stepped
  · next alarm agenda _ =>
      cases stepped
      have popped : Abides client { client with courier := { client.courier with agenda } } :=
        .of_courier (.of_eq rfl)
      exact popped.trans (.ring alarm.task _)

theorem Abides.advance (duration : Time) (client : Client) :
    Abides client (client.advance duration) := by
  have stepped : ∀ before next, Client.step (client.courier.agenda.now + duration) before =
      some next → Abides client before → Abides client next :=
    fun _ _ taken before => before.trans (.step taken)
  have rang := exhaust_preserves stepped
    (client.weight (client.courier.agenda.now + duration)) (.refl client)
  exact rang.trans (.of_courier (.of_eq rfl))

/-- Unless a session is created or a message arrives, a session asks for something, or less
happens. -/
theorem perform_cases (orderly : client.Orderly) (action : ClientAction) :
    (∃ profile asset, action = .create profile asset) ∨ (∃ datagram, action = .dispatch datagram) ∨
      Abides client (client.perform action) ∨ ∃ ref, Asks ref client (client.perform action) := by
  cases action with
  | create profile asset => exact .inl ⟨profile, asset, rfl⟩
  | dispatch datagram => exact .inr (.inl ⟨datagram, rfl⟩)
  | operate action ref =>
      refine .inr (.inr ?_)
      simp only [perform]
      split
      · next live =>
          obtain ⟨session, found⟩ := session?_of_isLive live
          exact (asks_operate orderly found action).imp_right fun asks => ⟨ref, asks⟩
      · exact .inl (.refl client)
  | advance duration => exact .inr (.inr (.inl (.advance duration client)))
  | ringFirst duration =>
      refine .inr (.inr (.inl ?_))
      simp only [perform]
      cases stepped : client.step (client.courier.agenda.now + duration) with
      | none => exact .refl client
      | some next => exact .step stepped
  | setRefusals _ | setFaults _ | seedTransaction _ =>
      exact .inr (.inr (.inl (.aside rfl rfl (List.suffix_refl _) id (.of_eq rfl))))

/-! ## Messages -/

theorem Lessens.adoptId (ref : SessionRef) (session : Session) (confirm : SetupConfirm)
    (client : Client) : Lessens client (client.adoptId ref session confirm) := by
  simp only [Client.adoptId]
  split
  · exact .of_modify rfl (fun _ _ => rfl) (fun _ _ => id) (List.suffix_refl _) (.refl _)
  · exact (Abides.refl client).toLessens

section Handling

variable {during : Client → Client} {message : Signal} {kind : SignalKind}

theorem Abides.startCa (quiet : client.ca.arrival = none) (idle : IsIdle during)
    (ref : SessionRef) (name : SessionId) (info : ClientCaInfo) (entitlement : Option UInt32) :
    Abides client (client.startCa during ref name info entitlement) := by
  have called := Abides.callCa (.start name info entitlement) client
  have stillQuiet : (client.callCa (.start name info entitlement)).2.ca.arrival = none := quiet
  simp only [Client.startCa]
  simp only [idle _ stillQuiet]
  split
  · exact called.trans (.tell ref _ _)
  · split
    · exact called
    · split
      · exact called.trans (.callCa _ _)
      · exact called.trans (.modify ref _ _ fun _ _ => ⟨rfl, rfl, id⟩)

theorem arrival_armKeepAlive : (client.armKeepAlive ref).ca.arrival = client.ca.arrival := by
  simp only [armKeepAlive]
  split <;> rfl

theorem Abides.welcome (quiet : client.ca.arrival = none) (idle : IsIdle during)
    (ref : SessionRef) : Abides client (client.welcome during ref) := by
  have armed := Abides.arm ref client
  have stillQuiet : (client.armKeepAlive ref).ca.arrival = none := arrival_armKeepAlive.trans quiet
  simp only [Client.welcome]
  split
  · exact armed
  · next ready _ =>
      split
      · exact armed.trans (.tell ref _ _)
      · next info _ =>
          have started := armed.trans
            (.startCa stillQuiet idle ref ready.id info ready.entitlementId)
          exact started.trans (.tell ref _ _)

/-- A session is given the answer that it awaits, and awaits it no longer.  It takes at most a
name before that, and loses its requests at most if it ends. -/
structure Answers (message : Signal) (kind : SignalKind) (ref : SessionRef) (session : Session)
    (client next : Client) : Prop where
  abides : Abides client next ∨ ∃ confirm, message.body = .setupConfirm confirm ∧
    Abides (client.adoptId ref session confirm) next
  spent : ∀ {after}, next.session? ref = some after → after.slot kind = none
  left : ∀ entry ∈ client.courier.pending, entry ∈ next.courier.pending ∨
    (kind = .release .request ∨ kind = .reset .request) ∧ entry.2.session = session.number

theorem Answers.lessens (answers : Answers message kind ref session client next) :
    Lessens client next := by
  rcases answers.abides with abides | ⟨confirm, _, abides⟩
  · exact abides.toLessens
  · exact (Lessens.adoptId ref session confirm client).trans abides.toLessens

/-- What a session has ceased to await, it does not await later. -/
theorem Lessens.spent (lessens : Lessens client next) (found : client.session? ref = some session)
    (cleared : session.slot kind = none) {after : Session}
    (afterFound : next.session? ref = some after) : after.slot kind = none := by
  cases slot : after.slot kind with
  | none => rfl
  | some transaction =>
      obtain ⟨before, beforeFound, awaited⟩ := lessens.slots afterFound slot
      cases found.symm.trans beforeFound
      cases cleared.symm.trans awaited

theorem Answers.of_abides (first : Abides client middle) (found : middle.session? ref = some stored)
    (cleared : stored.slot kind = none) (second : Abides middle next)
    (pending : next.courier.pending = client.courier.pending) :
    Answers message kind ref session client next where
  abides := .inl (first.trans second)
  spent := second.toLessens.spent found cleared
  left _ kept := .inl (pending ▸ kept)

theorem pending_armKeepAlive :
    (client.armKeepAlive ref).courier.pending = client.courier.pending := by
  simp only [armKeepAlive]
  split <;> rfl

theorem courier_startCa (quiet : client.ca.arrival = none) (idle : IsIdle during)
    (name : SessionId) (info : ClientCaInfo) (entitlement : Option UInt32) :
    (client.startCa during ref name info entitlement).courier = client.courier := by
  have stillQuiet : (client.callCa (.start name info entitlement)).2.ca.arrival = none := quiet
  simp only [Client.startCa]
  simp only [idle _ stillQuiet]
  split
  · rfl
  · split
    · rfl
    · split <;> rfl

/-- Being granted costs a session none of its requests. -/
theorem pending_welcome (quiet : client.ca.arrival = none) (idle : IsIdle during) :
    (client.welcome during ref).courier.pending = client.courier.pending := by
  simp only [Client.welcome]
  split
  · exact pending_armKeepAlive
  · next ready _ =>
      split
      · exact pending_armKeepAlive
      · next info _ =>
          have started : ((client.armKeepAlive ref).startCa during ref ready.id info
              ready.entitlementId).courier = (client.armKeepAlive ref).courier :=
            courier_startCa (arrival_armKeepAlive.trans quiet) idle ready.id info _
          exact (congrArg Courier.pending started).trans pending_armKeepAlive

theorem Answers.onSetupConfirm (quiet : client.ca.arrival = none) (idle : IsIdle during)
    (found : client.session? ref = some session) (coherent : session.Coherent)
    (confirm : SetupConfirm) (body : message.body = .setupConfirm confirm)
    (awaited : session.setup = some message.transaction) :
    Answers message .setupRequest ref session client
      (client.onSetupConfirm during ref message.transaction confirm) := by
  have sent : session.state = .setupSent := coherent.setup.mp (awaited ▸ rfl)
  simp only [Client.onSetupConfirm]
  simp only [found, sent, awaited, ne_eq, not_true_eq_false, or_self, if_false]
  split
  · have failed := Abides.modify ref
      (fun session => { session with setup := none, state := .error }) client
      fun _ _ => .of_slots rfl rfl (.inl rfl) (.inr rfl) (.inr rfl) (.inr rfl)
    exact .of_abides failed (session?_modify_self found) rfl (.tell ref _ _) rfl
  · rw [adoptId_granted]
    obtain ⟨name, present⟩ := session?_adoptId_eq found session confirm
    have grants := Abides.modify ref (Session.granted confirm)
      (client.adoptId ref session confirm) fun session _ => session.abides_granted confirm
    have stillQuiet : ((client.adoptId ref session confirm).modify ref
        (Session.granted confirm)).ca.arrival = none :=
      (Confined.adoptId ref session confirm client).arrival.trans quiet
    have welcomed := Abides.welcome stillQuiet idle ref
    constructor
    case abides => exact .inr ⟨confirm, body, grants.trans welcomed⟩
    case spent =>
      apply welcomed.toLessens.spent (session?_modify_self present)
      exact Session.setup_granted confirm
    case left =>
      have pending : (((client.adoptId ref session confirm).modify ref
          (Session.granted confirm)).welcome during ref).courier.pending = client.courier.pending :=
        (pending_welcome stillQuiet idle).trans (congrArg Courier.pending alarms_adoptId)
      intro entry kept
      rw [← pending] at kept
      exact .inl kept

theorem Answers.finish (abides : Abides client middle)
    (ends : kind = .release .request ∨ kind = .reset .request)
    (present : middle.session? ref = some stored) (number : stored.number = session.number)
    (pending : middle.courier.pending = client.courier.pending) (reason : ReasonCode)
    (byServer : Bool) :
    Answers message kind ref session client (middle.finish ref reason byServer) where
  abides := .inl (abides.trans (.finish ref _ _ _))
  spent found := slot_finish found kind
  left entry kept := by
    rw [pending_finish present, pending, List.mem_filter, number]
    by_cases own : entry.2.session = session.number
    · exact .inr ⟨ends, own⟩
    · exact .inl ⟨kept, bne_iff_ne.mpr own⟩

/-- A session handles the answer that it awaits. -/
theorem Answers.handle (quiet : client.ca.arrival = none) (idle : IsIdle during)
    (found : client.session? ref = some session) (coherent : session.Coherent)
    (answers : message.kind.request? = some kind)
    (awaited : session.slot kind = some message.transaction) :
    Answers message kind ref session client (client.handle during ref message) := by
  simp only [Signal.kind] at answers
  simp only [Client.handle]
  cases body : message.body with
  | setupConfirm confirm =>
      rw [body] at answers
      cases answers
      exact .onSetupConfirm quiet idle found coherent confirm body awaited
  | release step release =>
      rw [body] at answers
      cases step with
      | confirm =>
          cases answers
          have releasing := coherent.release.mp (Option.isSome_iff_exists.mpr ⟨_, awaited⟩)
          simp only [Client.onReleaseConfirm]
          simp only [found]
          rw [if_pos ⟨releasing, awaited⟩]
          exact .finish (.refl client) (.inl rfl) found rfl rfl _ _
      | indication | request | response => cases answers
  | statusConfirm status =>
      rw [body] at answers
      cases answers
      have asked : session.status = some message.transaction := awaited
      simp only [Client.onStatusConfirm]
      simp only [found]
      rw [if_pos asked]
      have cleared := Abides.modify ref (fun session => { session with status := none })
        client fun _ _ => .of_slots rfl rfl (.inr rfl) (.inr rfl) (.inl rfl) (.inr rfl)
      exact .of_abides cleared (session?_modify_self found) rfl (.tell ref _ _) rfl
  | reset step reset =>
      rw [body] at answers
      cases step with
      | confirm =>
          cases answers
          have asked : session.reset = some message.transaction := awaited
          simp only [Client.onResetConfirm]
          simp only [found]
          rw [if_pos asked]
          have cleared := Abides.modify ref (fun session => { session with reset := none })
            client fun _ _ => .of_slots rfl rfl (.inr rfl) (.inr rfl) (.inr rfl) (.inl rfl)
          have number : { session with reset := none }.number = session.number := rfl
          exact .finish cleared (.inr rfl) (session?_modify_self found) number rfl _ _
      | indication | request | response => cases answers
  | setupRequest | connectRequest | statusRequest | sessionInProgress =>
      rw [body] at answers
      cases answers

/-- A message that is no answer makes no session await anything. -/
theorem Abides.handle (unasked : message.kind.request? = none) (ref : SessionRef)
    (client : Client) : Abides client (client.handle during ref message) := by
  simp only [Signal.kind] at unasked
  simp only [Client.handle]
  cases body : message.body with
  | release step release =>
      rw [body] at unasked
      cases step with
      | confirm => cases unasked
      | indication =>
          simp only [Client.onReleaseIndication]
          split
          · exact .refl client
          · split
            · exact .send ref _ _ client
            · exact (Abides.send ref _ _ client).trans (.finish ref _ _ _)
      | request | response => exact .refl client
  | reset step reset =>
      rw [body] at unasked
      cases step with
      | confirm => cases unasked
      | indication | request | response => exact .refl client
  | setupConfirm | statusConfirm =>
      rw [body] at unasked
      cases unasked
  | setupRequest | connectRequest | statusRequest | sessionInProgress => exact .refl client

theorem Abides.tellAll (event : SessionEvent) (refs : List SessionRef) (client : Client) :
    Abides client (refs.foldl (fun client ref => client.tell ref event) client) := by
  induction refs generalizing client with
  | nil => exact .refl client
  | cons first rest ih => exact (Abides.tell first event client).trans (ih _)

theorem Abides.onResetIndication (transaction : UInt32) (reset : ClientReset) (client : Client) :
    Abides client (client.onResetIndication transaction reset) := by
  unfold Client.onResetIndication
  simp only
  split
  · exact .tellAll _ _ client
  · next bytes _ =>
      have answered : Abides client { client with courier := (client.courier.send none bytes).2 } :=
        .of_courier (.of_eq rfl)
      exact answered.trans (.tellAll _ _ _)

theorem Abides.settled (message : Signal) (client : Client) :
    Abides client (client.settled message) := by
  simp only [Client.settled]
  split
  · exact .of_courier (.acknowledgeReply _ _ _)
  · exact .refl client

theorem Abides.deliver (unasked : message.kind.request? = none) (client : Client) :
    Abides client (client.deliver during message) := by
  simp only [Client.deliver]
  split
  · exact .onResetIndication _ _ client
  · split
    · split
      · exact .handle unasked _ client
      · exact .refl client
    · exact .refl client

/-- An answer does no more than settle its request, unless it is brought to a session that
awaits it. -/
theorem receive_answer (orderly : client.Orderly) (idle : IsIdle during)
    (answers : message.kind.request? = some kind) :
    (client.receive during message = client.settled message ∧
      ∀ ref session, client.route message = some ref → client.session? ref = some session →
        session.slot kind ≠ some message.transaction) ∨
      ∃ ref session, client.route message = some ref ∧ client.session? ref = some session ∧
        session.slot kind = some message.transaction ∧
        Answers message kind ref session (client.settled message)
          (client.receive during message) := by
  rw [receive_eq]
  cases routed : client.route message with
  | none =>
      refine .inl ⟨?_, fun _ _ unrouted => by cases unrouted⟩
      simp only [deliver, route_settled, routed]
      split
      · next reset body =>
          rw [Signal.kind, body] at answers
          cases answers
      · split <;> rfl
  | some ref =>
      have brought := (route_settled message client).trans routed
      rw [deliver_of_request? (answers ▸ rfl) brought]
      obtain ⟨session, found⟩ := session?_of_isLive (isLive_of_route routed)
      have present := (session?_settled message client ref).trans found
      by_cases awaited : session.slot kind = some message.transaction
      · have quiet : (client.settled message).ca.arrival = none := by
          simp only [settled]
          split <;> exact orderly.quiet
        exact .inr ⟨ref, session, rfl, found, awaited,
          .handle quiet idle present (orderly.coherent found) answers awaited⟩
      · refine .inl ⟨handle_of_foreign present answers awaited, fun other again same there => ?_⟩
        cases same
        cases found.symm.trans there
        exact awaited

/-- A message adds nothing, but that it may give a name to a session that is granted. -/
theorem receive_abides (orderly : client.Orderly) (idle : IsIdle during) (message : Signal) :
    Abides client (client.receive during message) ∨
      ∃ ref session confirm, client.route message = some ref ∧
        client.session? ref = some session ∧ message.body = .setupConfirm confirm ∧
        Abides ((client.settled message).adoptId ref session confirm)
          (client.receive during message) := by
  have settled := Abides.settled message client
  cases answers : message.kind.request? with
  | none => exact .inl (settled.trans (.deliver answers _))
  | some kind =>
      rcases receive_answer orderly idle answers with ⟨same, _⟩ | ⟨ref, session, given⟩
      · exact .inl (same ▸ settled)
      · obtain ⟨routed, found, _, given⟩ := given
        rcases given.abides with abides | ⟨confirm, body, abides⟩
        · exact .inl (settled.trans abides)
        · exact .inr ⟨ref, session, confirm, routed, found, body, abides⟩

theorem Lessens.receive (orderly : client.Orderly) (idle : IsIdle during) (message : Signal) :
    Lessens client (client.receive during message) := by
  rcases receive_abides orderly idle message with abides | ⟨ref, session, confirm, _, _, _, abides⟩
  · exact abides.toLessens
  · have settled := (Abides.settled message client).toLessens
    exact (settled.trans (.adoptId ref session confirm _)).trans abides.toLessens

theorem Lessens.dispatch (orderly : client.Orderly) (datagram : Bytes) :
    Lessens client (client.dispatch datagram) := by
  simp only [Client.dispatch, receiveBytes]
  split
  · exact (Abides.refl client).toLessens
  · next message _ => exact .receive orderly isIdle_arrival message

end Handling

end Client

end OnDemand
