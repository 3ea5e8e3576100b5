import OnDemand.Proofs.Session.Upkeep

/-!
# Everything that happens keeps upkeep in step

Each operation, message, alarm and other action does one of six things to keep-alives and
conditional access (`Deed`): nothing; a keep-alive that the owner asks for; the end of a session's
keep-alive; the end of a session; the grant of a session; or the keep-alive that falls due.  Each of
these leaves a client in which keep-alive alarms go with the sessions that are to be kept alive
(`Steady`).
-/

namespace OnDemand

namespace Client

variable {client middle next : Client} {ref other : SessionRef}
  {session stored before after : Session} {cause : Option ClientAction} {message : Signal}

/-- The keep-alive of a session falls due: it is sent, and the alarm is set anew. -/
structure Beats (ref : SessionRef) (before after : Session) (attempt : SendAttempt)
    (client next : Client) : Prop where
  settings : next.settings = client.settings
  calls : next.caCalls = client.caCalls
  found : client.session? ref = some before
  afterFound : next.session? ref = some after
  stays : before.Stays after
  sustained : before.isSustained = true
  afterSustained : after.isSustained = true
  due : ∃ alarm ∈ client.courier.agenda.alarms,
    alarm.task = .keepAlive ref ∧ alarm.deadline ≤ client.courier.agenda.now
  time : attempt.time = client.courier.agenda.now
  sender : attempt.sender = some ref
  lists : ∃ transaction, (Signal.inProgress transaction before.id).encode = .ok attempt.bytes
  beats : ∃ beat, NextBeat ref beat client ∧ after.keepAlive = beat.map Alarm.handle ∧
    client.courier.Tends before.keepAlive beat [attempt] next.courier

/-- One thing that happens to a client, by its cause: an action, or an alarm while time passes. -/
inductive Deed (cause : Option ClientAction) (client next : Client) : Prop where
  | maintains (maintains : Maintains client next)
  | nudges {ref : SessionRef} {attempt : SendAttempt}
      (asked : cause = some (.operate .sendKeepAlive ref))
      (settings : next.settings = client.settings)
      (calls : next.caCalls = client.caCalls)
      (sessions : next.sessions = client.sessions)
      (tends : client.courier.Tends none none [attempt] next.courier)
  | quiets {ref : SessionRef} {before after : Session}
      (others : ∀ {other}, other ≠ ref → next.session? other = client.session? other)
      (quiets : Quiets ref before after client next)
  | ends {ref : SessionRef} {before after : Session}
      (others : ∀ {other}, other ≠ ref → next.session? other = client.session? other)
      (ends : Ends ref before after client next)
  | grants {ref : SessionRef} {before after : Session} {datagram : Bytes} {message : Signal}
      (dispatched : cause = some (.dispatch datagram))
      (decoded : Signal.decode datagram = .ok message)
      (held : before.isHeld = true)
      (others : ∀ {other}, other ≠ ref → next.session? other = client.session? other)
      (grants : Grants ref message before after client next)
  | beats {ref : SessionRef} {before after : Session} {attempt : SendAttempt}
      (others : ∀ {other}, other ≠ ref → next.session? other = client.session? other)
      (beats : Beats ref before after attempt client next)

/-- A client whose sessions and their upkeep belong together. -/
structure Steady (client : Client) : Prop where
  orderly : client.Orderly
  courier : client.courier.Regular
  paced : client.Paced
  /-- What conditional access takes comes with the grant. -/
  ungranted : ∀ {ref session}, client.session? ref = some session →
    session.state.isUngranted = true → session.caInfo = none ∧ session.caActive = false

theorem Upholds.deed (upholds : Upholds client next) : Deed cause client next :=
  .maintains upholds.maintains

/-! ## Operations -/

theorem Upholds.draw (regular : client.courier.Regular) :
    Upholds client client.drawTransaction.2 :=
  .aside rfl rfl rfl rfl (.refl regular)

section Asking

variable {mark unmark : Session → Session} {retries : Nat}

theorem Upholds.asking (regular : client.courier.Regular)
    (marks : ∀ session, client.session? ref = some session → session.Persists (mark session))
    (canonical : message.IsCanonical) (other : message.kind ≠ .sessionInProgress) :
    Upholds client (client.asking ref mark session message retries).2 :=
  .of_modify rfl marks rfl rfl rfl (.submit regular canonical other retries session.number ref)

/-- Asking for something, whether the request is sent or not. -/
theorem Upholds.ask (regular : client.courier.Regular) (found : client.session? ref = some session)
    (marks : session.Persists (mark session))
    (unmarks : (mark session).Persists (unmark (mark session)))
    (canonical : message.IsCanonical) (other : message.kind ≠ .sessionInProgress) :
    Upholds client
      (match client.asking ref mark session message retries with
        | (.ok (), next) => ((.ok (), next) : Except SessionError Unit × Client)
        | (.error cause, next) => (.error (.notSubmitted cause), next.modify ref unmark)).2 := by
  have asked : Upholds client (client.asking ref mark session message retries).2 := by
    refine .asking regular (fun again againFound => ?_) canonical other
    cases found.symm.trans againFound
    exact marks
  split
  · next next outcome => exact congrArg Prod.snd outcome ▸ asked
  · next cause next outcome =>
      obtain rfl : _ = next := congrArg Prod.snd outcome
      refine asked.trans (.modify asked.serves.regular ref _ fun again againFound => ?_)
      have present : (client.asking ref mark session message retries).2.session? ref =
          some (mark session) := session?_asking found
      cases present.symm.trans againFound
      exact unmarks

end Asking

theorem Upholds.setup (regular : client.courier.Regular) (ref : SessionRef) :
    Upholds client (client.setup ref).2 := by
  simp only [Client.setup]
  split
  · exact .refl regular
  · next session found =>
      split
      · exact .refl regular
      · next idle =>
          simp only [ne_eq, Decidable.not_not] at idle
          split
          · exact .refl regular
          · refine Upholds.ask regular found ⟨⟨rfl, rfl, rfl, rfl, ?_, ?_⟩, rfl, ?_⟩
              ⟨⟨rfl, rfl, rfl, rfl, ?_, fun _ => rfl⟩, rfl, ?_⟩ trivial (by rintro ⟨⟩)
            · simp [idle]
            · simp [idle, SessionState.isUngranted]
            · simp [idle, Session.isSustained, SessionState.isEstablished]
            · simp
            · simp [Session.isSustained, SessionState.isEstablished]

theorem Upholds.connect (regular : client.courier.Regular) (ref : SessionRef) :
    Upholds client (client.connect ref).2 := by
  simp only [Client.connect]
  split
  · exact .refl regular
  · next session found =>
      split
      · exact .refl regular
      · next ready =>
          simp only [ne_eq, Decidable.not_not] at ready
          have drawn := Upholds.draw regular
          have sent : Upholds client (client.drawTransaction.2.submit ref session
              ⟨client.drawTransaction.1, [], .connectRequest ⟨session.id, {}⟩⟩ 0).2 :=
            drawn.trans (.submit drawn.serves.regular (by trivial) (by rintro ⟨⟩) ref session 0)
          split
          · next submitted outcome =>
              obtain rfl : _ = submitted := congrArg Prod.snd outcome
              refine sent.trans (.modify sent.serves.regular ref _ fun again againFound => ?_)
              cases found.symm.trans againFound
              refine ⟨⟨rfl, rfl, rfl, rfl, ?_, by rintro ⟨⟩⟩, rfl, ?_⟩
              · simp [ready]
              · simp [ready, Session.isSustained, SessionState.isEstablished]
          · next cause submitted outcome => exact congrArg Prod.snd outcome ▸ sent

theorem Upholds.requestStatus (regular : client.courier.Regular) (ref : SessionRef) :
    Upholds client (client.requestStatus ref).2 := by
  simp only [Client.requestStatus]
  split
  · exact .refl regular
  · next session found =>
      split
      · exact .refl regular
      · exact Upholds.ask regular found (.of_eq rfl rfl rfl rfl rfl rfl rfl)
          (.of_eq rfl rfl rfl rfl rfl rfl rfl) trivial (by rintro ⟨⟩)

theorem Upholds.reset (regular : client.courier.Regular) (ref : SessionRef) :
    Upholds client (client.reset ref).2 := by
  simp only [Client.reset]
  split
  · exact .refl regular
  · next session found =>
      split
      · exact .refl regular
      · exact Upholds.ask regular found (.of_eq rfl rfl rfl rfl rfl rfl rfl)
          (.of_eq rfl rfl rfl rfl rfl rfl rfl) trivial (by rintro ⟨⟩)

theorem Upholds.takeEvents (regular : client.courier.Regular) (ref : SessionRef) :
    Upholds client (client.takeEvents ref).2 := by
  simp only [Client.takeEvents]
  split
  · exact .refl regular
  · exact .modify regular ref _ fun _ _ =>
      .of_eq rfl rfl rfl rfl rfl rfl rfl

theorem Upholds.awaitReady (regular : client.courier.Regular) (ref : SessionRef) :
    Upholds client (client.awaitReady ref).2 := by
  simp only [Client.awaitReady]
  split
  · exact .refl regular
  · next session found =>
      refine .modify regular ref _ fun again againFound => ?_
      cases found.symm.trans againFound
      unfold Session.awaitReady
      simp only
      split <;> exact .of_eq rfl rfl rfl rfl rfl rfl rfl

/-- A keep-alive that the owner asks for is sent besides those that fall due. -/
theorem Deed.sendKeepAlive (regular : client.courier.Regular) (ref : SessionRef) :
    Deed (some (.operate .sendKeepAlive ref)) client (client.sendKeepAlive ref).2 := by
  simp only [Client.sendKeepAlive]
  split
  · exact (Upholds.refl regular).deed
  · next session _ =>
      split
      · exact (Upholds.refl regular).deed
      · obtain ⟨attempt, _, _, _, tends⟩ := Courier.Tends.inProgress regular
          client.drawTransaction.1 session.id session.number ref
        exact .nudges rfl rfl rfl rfl tends

/-- A session whose keep-alive alarm was taken back asks for its release, or ends when it
cannot. -/
theorem quiets_or_ends_askRelease {quiet : Client} {retries : Nat}
    (found : client.session? ref = some session) (unreleased : session.state ≠ .released)
    (settings : quiet.settings = client.settings) (ca : quiet.ca = client.ca)
    (calls : quiet.caCalls = client.caCalls)
    (present : quiet.session? ref = some { session with keepAlive := none })
    (tends : client.courier.Tends session.keepAlive none [] quiet.courier)
    (canonical : message.IsCanonical) (other : message.kind ≠ .sessionInProgress) :
    let next :=
      (match quiet.asking ref (Session.releasing quiet.drawTransaction.1) session message
          retries with
        | (.ok (), next) => ((.ok (), next) : Except SessionError Unit × Client)
        | (.error cause, next) =>
            (.error (.notSubmitted cause), next.finish ref .clientRelease false)).2
    (∃ after, Quiets ref session after client next) ∨
      ∃ after, Ends ref session after client next := by
  have marked : (quiet.asking ref (Session.releasing quiet.drawTransaction.1) session message
      retries).2.session? ref =
        some (Session.releasing quiet.drawTransaction.1 { session with keepAlive := none }) :=
    session?_asking present
  have asked : client.courier.Tends session.keepAlive none []
      (quiet.asking ref (Session.releasing quiet.drawTransaction.1) session message
        retries).2.courier :=
    tends.serves (.submit tends.regular canonical other _ _ _)
  have stays : session.Stays
      (Session.releasing quiet.drawTransaction.1 { session with keepAlive := none }) :=
    ⟨rfl, rfl, rfl, rfl, iff_of_false (by rintro ⟨⟩) unreleased, by rintro ⟨⟩⟩
  intro next
  simp only [next]
  split
  · next final outcome =>
      obtain rfl : _ = final := congrArg Prod.snd outcome
      exact .inl ⟨_, settings, calls, found, marked, stays, rfl,
        Session.isSustained_eq_false rfl, asked⟩
  · next cause final outcome =>
      obtain rfl : _ = final := congrArg Prod.snd outcome
      refine .inr (Ends.finish found unreleased marked stays settings ca calls ?_ _ _)
      rw [disarmKeepAlive_of_none marked rfl]
      exact asked

theorem Deed.teardown (steady : client.Steady) (found : client.session? ref = some session) :
    Deed cause client (client.teardown ref).2 := by
  have others : ∀ {other}, other ≠ ref →
      (client.teardown ref).2.session? other = client.session? other :=
    (Turned.teardown steady.orderly found).others
  suffices Upholds client (client.teardown ref).2 ∨
      (∃ after, Quiets ref session after client (client.teardown ref).2) ∨
      ∃ after, Ends ref session after client (client.teardown ref).2 by
    rcases this with upholds | ⟨after, quiets⟩ | ⟨after, ends⟩
    · exact upholds.deed
    · exact .quiets others quiets
    · exact .ends others ends
  have nothing := Upholds.refl steady.courier
  have cancelled : Upholds client
      { client with courier := (client.courier.cancelSession session.number).2 } :=
    .aside rfl rfl rfl rfl (.cancelSession steady.courier session.number)
  have disarmed := (cancelled.maintains.paced steady.paced).disarm cancelled.serves.regular found
  simp only [Client.teardown]
  simp only [found]
  cases state : session.state
  case releasing => exact .inl nothing
  case released => exact .inl nothing
  case idle => exact .inr (.inr (nothing.finish steady.paced found (by rw [state]; decide) _ _))
  all_goals
    exact .inr (quiets_or_ends_askRelease found (by rw [state]; decide)
      settings_disarmKeepAlive ca_disarmKeepAlive caCalls_disarmKeepAlive
      (session?_disarmKeepAlive found) (cancelled.serves.tends disarmed) trivial (by rintro ⟨⟩))

/-- A session that its owner drops is not kept alive any more. -/
theorem Deed.drop (steady : client.Steady) (ref : SessionRef) :
    Deed cause client (client.drop ref) := by
  have others : ∀ {other}, other ≠ ref →
      (client.drop ref).session? other = client.session? other :=
    (Rested.drop steady.orderly ref).others
  cases found : client.session? ref with
  | none =>
      simp only [Client.drop, found]
      exact (Upholds.refl steady.courier).deed
  | some session =>
      have disarmed := steady.paced.disarm steady.courier found
      have quiets : Quiets ref session { session with keepAlive := none, isHeld := false } client
          (client.drop ref) := by
        simp only [Client.drop]
        simp only [found]
        exact ⟨settings_disarmKeepAlive, caCalls_disarmKeepAlive, found,
          session?_modify_self (session?_disarmKeepAlive found),
          .of_eq rfl rfl rfl rfl rfl, rfl, rfl,
          disarmed.serves (.cancelSession disarmed.regular session.number)⟩
      exact .quiets others quiets

theorem Deed.operate (steady : client.Steady) (found : client.session? ref = some session)
    (action : OwnerAction) :
    Deed (some (.operate action ref)) client (client.operate action ref) := by
  have regular := steady.courier
  cases action with
  | setup => exact (Upholds.setup regular ref).deed
  | connect => exact (Upholds.connect regular ref).deed
  | sendKeepAlive => exact .sendKeepAlive regular ref
  | requestStatus => exact (Upholds.requestStatus regular ref).deed
  | reset => exact (Upholds.reset regular ref).deed
  | teardown => exact .teardown steady found
  | awaitReady => exact (Upholds.awaitReady regular ref).deed
  | takeEvents => exact (Upholds.takeEvents regular ref).deed
  | drop => exact .drop steady ref

/-! ## Messages -/

/-- What comes of a message for a session. -/
inductive Handling (ref : SessionRef) (message : Signal) (before : Session)
    (client next : Client) : Prop where
  | upholds (upholds : Upholds client next)
  | ends {after : Session} (ends : Ends ref before after client next)
  | grants {after : Session} (grants : Grants ref message before after client next)

theorem Handling.of_ends (ends : ∃ after, Ends ref before after client next) :
    Handling ref message before client next := by
  obtain ⟨after, ends⟩ := ends
  exact .ends ends

/-- What came before touched neither sessions nor their upkeep. -/
theorem Handling.of_upholds (upholds : Upholds client middle)
    (same : middle.session? ref = client.session? ref)
    (handling : Handling ref message before middle next) :
    Handling ref message before client next := by
  have answers := caFault?_congr upholds.ca upholds.calls
  cases handling with
  | upholds later => exact .upholds (upholds.trans later)
  | ends later =>
      exact .ends
        { later with
          settings := later.settings.trans upholds.settings
          found := same.symm.trans later.found
          calls := upholds.calls ▸ later.calls
          faults := answers ▸ later.faults
          tends := upholds.serves.tends later.tends }
  | grants later =>
      obtain ⟨beat, nextBeat, keepAlive, tends⟩ := later.beats
      rw [NextBeat, upholds.settings, upholds.serves.now] at nextBeat
      exact .grants
        { later with
          settings := later.settings.trans upholds.settings
          found := same.symm.trans later.found
          calls := upholds.calls ▸ later.calls
          faults := answers ▸ later.faults
          caActive := answers ▸ later.caActive
          beats := ⟨beat, nextBeat, keepAlive, upholds.serves.tends tends⟩ }

theorem Upholds.failSetup (regular : client.courier.Regular)
    (found : client.session? ref = some session) (sent : session.state = .setupSent) :
    Upholds client
      (client.modify ref fun session => { session with setup := none, state := .error }) := by
  refine .modify regular ref _ fun again againFound => ?_
  cases found.symm.trans againFound
  refine ⟨⟨rfl, rfl, rfl, rfl, ?_, by rintro ⟨⟩⟩, rfl, ?_⟩
  · simp [sent]
  · simp [sent, Session.isSustained, SessionState.isEstablished]

theorem Upholds.clearStatus (regular : client.courier.Regular) (ref : SessionRef) :
    Upholds client (client.modify ref fun session => { session with status := none }) :=
  .modify regular ref _ fun _ _ => .of_eq rfl rfl rfl rfl rfl rfl rfl

theorem Upholds.clearReset (regular : client.courier.Regular) (ref : SessionRef) :
    Upholds client (client.modify ref fun session => { session with reset := none }) :=
  .modify regular ref _ fun _ _ => .of_eq rfl rfl rfl rfl rfl rfl rfl

section Handling

variable {during : Client → Client}

theorem Handling.onSetupConfirm {confirm : SetupConfirm} (steady : client.Steady)
    (idle : IsIdle during) (found : client.session? ref = some session)
    (body : message.body = .setupConfirm confirm) :
    Handling ref message session client
      (client.onSetupConfirm during ref message.transaction confirm) := by
  by_cases expected : session.state = .setupSent ∧ session.setup = some message.transaction
  · obtain ⟨sent, awaited⟩ := expected
    by_cases positive : confirm.response.isOk = true
    · obtain ⟨after, grants⟩ := Grants.onSetupConfirm steady.courier steady.orderly.quiet idle found
        sent awaited body positive
      exact .grants grants
    · simp only [Client.onSetupConfirm]
      simp only [found, sent, awaited, positive, ne_eq, not_true_eq_false, or_self, if_false]
      have failed := Upholds.failSetup steady.courier found sent
      exact .upholds (failed.trans (.tell failed.serves.regular ref rfl))
  · simp only [Client.onSetupConfirm]
    simp only [found]
    rw [if_pos]
    · exact .upholds (.refl steady.courier)
    · exact not_and_or.mp expected

theorem Handling.onReleaseConfirm (steady : client.Steady)
    (found : client.session? ref = some session) (transaction : UInt32) (release : Release) :
    Handling ref message session client
      (client.onReleaseConfirm ref transaction release) := by
  have nothing := Upholds.refl steady.courier
  simp only [Client.onReleaseConfirm]
  simp only [found]
  split
  · next expected =>
      exact .of_ends (nothing.finish steady.paced found (by rw [expected.1]; decide) _ _)
  · exact .upholds nothing

theorem Handling.onReleaseIndication (steady : client.Steady)
    (found : client.session? ref = some session) (transaction : UInt32) (release : Release) :
    Handling ref message session client
      (client.onReleaseIndication ref transaction release) := by
  have sent : Upholds client (client.submit ref session ⟨transaction, [],
      .release .response ⟨session.id, release.reason, {}⟩⟩ 0).2 :=
    .submit steady.courier (by trivial) (by rintro ⟨⟩) ref session 0
  simp only [Client.onReleaseIndication]
  simp only [found]
  split
  · exact .upholds sent
  · next unreleased => exact .of_ends (sent.finish steady.paced found unreleased _ _)

theorem Handling.onStatusConfirm (steady : client.Steady)
    (found : client.session? ref = some session) (transaction : UInt32) (status : ClientStatus) :
    Handling ref message session client
      (client.onStatusConfirm ref transaction status) := by
  simp only [Client.onStatusConfirm]
  simp only [found]
  split
  · have cleared := Upholds.clearStatus steady.courier ref
    exact .upholds (cleared.trans (.tell cleared.serves.regular ref rfl))
  · exact .upholds (.refl steady.courier)

theorem Handling.onResetConfirm (steady : client.Steady)
    (found : client.session? ref = some session) (transaction : UInt32) (reset : ClientReset) :
    Handling ref message session client
      (client.onResetConfirm ref transaction reset) := by
  simp only [Client.onResetConfirm]
  simp only [found]
  split
  · next awaited =>
      have unreleased := unreleased_of_slot steady.orderly found (.reset .request) awaited
      exact .of_ends
        ((Upholds.clearReset steady.courier ref).finish steady.paced found unreleased _ _)
  · exact .upholds (.refl steady.courier)

theorem Handling.handle (steady : client.Steady) (idle : IsIdle during)
    (found : client.session? ref = some session) (message : Signal) :
    Handling ref message session client (client.handle during ref message) := by
  have nothing : Handling ref message session client client := .upholds (.refl steady.courier)
  simp only [Client.handle]
  cases body : message.body with
  | setupConfirm confirm => exact .onSetupConfirm steady idle found body
  | release step release =>
      cases step with
      | confirm => exact .onReleaseConfirm steady found _ release
      | indication => exact .onReleaseIndication steady found _ release
      | request | response => exact nothing
  | statusConfirm status => exact .onStatusConfirm steady found _ status
  | reset step reset =>
      cases step with
      | confirm => exact .onResetConfirm steady found _ reset
      | indication | request | response => exact nothing
  | setupRequest _ | connectRequest _ | statusRequest _ | sessionInProgress _ => exact nothing

theorem Upholds.settled (regular : client.courier.Regular) (message : Signal) :
    Upholds client (client.settled message) := by
  simp only [Client.settled]
  split
  · exact .aside rfl rfl rfl rfl (.acknowledgeReply regular _ _)
  · exact .refl regular

theorem Upholds.tellAll (regular : client.courier.Regular) {event : SessionEvent}
    (other : event.caFault? = none) (refs : List SessionRef) :
    Upholds client (refs.foldl (fun client ref => client.tell ref event) client) := by
  induction refs generalizing client with
  | nil => exact .refl regular
  | cons ref rest ih =>
      have told := Upholds.tell regular ref other
      exact told.trans (ih told.serves.regular)

theorem Upholds.onResetIndication (regular : client.courier.Regular) (transaction : UInt32)
    (reset : ClientReset) : Upholds client (client.onResetIndication transaction reset) := by
  unfold Client.onResetIndication
  simp only
  split
  · exact .tellAll regular rfl _
  · next bytes encoded =>
      have plain : Courier.isKeepAlive bytes = false :=
        Courier.isKeepAlive_of_encode (by trivial) encoded
      have answered :
          Upholds client { client with courier := (client.courier.send none bytes).2 } :=
        .aside rfl rfl rfl rfl (.send regular none plain)
      exact answered.trans (.tellAll answered.serves.regular rfl _)

theorem Steady.settled (steady : client.Steady) (message : Signal) :
    (client.settled message).Steady := by
  have upholds := Upholds.settled steady.courier message
  have same : (client.settled message).sessions = client.sessions ∧
      (client.settled message).routes = client.routes := by
    simp only [Client.settled]
    split <;> exact ⟨rfl, rfl⟩
  refine ⟨?_, upholds.serves.regular, upholds.maintains.paced steady.paced, ?_⟩
  · exact (Calm.of_sessions steady.orderly same.1 same.2
      (congrArg CaComponent.arrival upholds.ca)).orderly
  · intro ref session found
    rw [session?_settled] at found
    exact steady.ungranted found

theorem Deed.dispatch (steady : client.Steady) (datagram : Bytes) :
    Deed (some (.dispatch datagram)) client (client.dispatch datagram) := by
  simp only [Client.dispatch, receiveBytes]
  split
  · exact (Upholds.refl steady.courier).deed
  · next message decoded =>
      have settled := Upholds.settled steady.courier message
      have steadily := steady.settled message
      rw [receive_eq]
      simp only [Client.deliver]
      split
      · exact (settled.trans (.onResetIndication steadily.courier _ _)).deed
      · split
        · split
          · next ref routed =>
              have live := isLive_of_route routed
              obtain ⟨session, found⟩ := session?_of_isLive live
              have held : session.isHeld = true := by
                rwa [isLive, found, Option.any_some] at live
              have others : ∀ {other}, other ≠ ref →
                  ((client.settled message).handle arrival ref message).session? other =
                    client.session? other := fun different =>
                ((Turned.handle steadily.orderly isIdle_arrival found message).others
                  different).trans (session?_settled message client _)
              cases (Handling.handle steadily isIdle_arrival found message).of_upholds settled
                  (session?_settled message client ref) with
              | upholds upholds => exact upholds.deed
              | ends ends => exact .ends others ends
              | grants grants => exact .grants rfl decoded held others grants
          · exact settled.deed
        · exact settled.deed

end Handling

/-! ## Alarms -/

/-- What comes of an alarm that rings: the timer of a request ends no session other than one that
is being released, and a keep-alive alarm keeps its session alive. -/
inductive Ringing (client next : Client) : Prop where
  | maintains (maintains : Maintains client next)
  | ends {ref : SessionRef} {before after : Session} (releasing : before.state = .releasing)
      (others : ∀ {other}, other ≠ ref → next.session? other = client.session? other)
      (ends : Ends ref before after client next)
  | beats {ref : SessionRef} {before after : Session} {attempt : SendAttempt}
      (others : ∀ {other}, other ≠ ref → next.session? other = client.session? other)
      (beats : Beats ref before after attempt client next)

theorem Ringing.deed (ringing : Ringing client next) (cause : Option ClientAction) :
    Deed cause client next := by
  cases ringing with
  | maintains maintains => exact .maintains maintains
  | ends _ others ends => exact .ends others ends
  | beats others beats => exact .beats others beats

/-- The client with its clock moved on. -/
def wait (time : Time) (client : Client) : Client :=
  { client with courier := client.courier.wait time }

theorem wait_now (client : Client) : client.wait client.courier.agenda.now = client := by
  simp only [wait, Courier.wait, Agenda.moveTo, Nat.max_self]

theorem Steady.wait (steady : client.Steady) (time : Time) : (client.wait time).Steady where
  orderly := steady.orderly.of_sessions rfl rfl rfl
  courier := steady.courier.wait time
  paced := ⟨steady.paced.ringing, steady.paced.waits, steady.paced.kept⟩
  ungranted := steady.ungranted

/-- That a request was given up may end a session that is being released, and touches no upkeep
otherwise. -/
theorem upholds_or_ends_deliveryFailed (steady : client.Steady) (notice : FailureNotice)
    (found : client.session? notice.owner = some session) :
    Upholds client (client.deliveryFailed notice) ∨ session.state = .releasing ∧
      ∃ after, Ends notice.owner session after client (client.deliveryFailed notice) := by
  have regular := steady.courier
  have nothing := Upholds.refl regular
  simp only [Client.deliveryFailed]
  simp only [found]
  split
  · split
    · next awaited =>
        have sent := (steady.orderly.coherent found).setup.mp (awaited ▸ rfl)
        have failed := Upholds.failSetup regular found sent
        exact .inl (failed.trans (.tell failed.serves.regular _ rfl))
    · exact .inl nothing
  · split
    · next awaited =>
        have releasing := (steady.orderly.coherent found).release.mp (awaited ▸ rfl)
        exact .inr ⟨releasing, (Upholds.tell regular notice.owner rfl).finish steady.paced found
          (by rw [releasing]; decide) _ _⟩
    · exact .inl nothing
  · split
    · have cleared := Upholds.clearStatus regular notice.owner
      exact .inl (cleared.trans (.tell cleared.serves.regular _ rfl))
    · exact .inl nothing
  · split
    · have cleared := Upholds.clearReset regular notice.owner
      exact .inl (cleared.trans (.tell cleared.serves.regular _ rfl))
    · exact .inl nothing
  · exact .inl nothing

section Ringing

variable {limit : Time} {alarm : Alarm Reminder} {agenda : Agenda Reminder}

/-- A message timer runs out. -/
theorem Ringing.unanswered {transaction : UInt32} (steady : client.Steady)
    (popped : client.courier.agenda.popDue? limit = some (alarm, agenda))
    (task : alarm.task = .unanswered transaction) :
    Ringing (client.wait alarm.deadline)
      (ring (.unanswered transaction)
        { client with courier := { client.courier with agenda } }) := by
  have serves := Courier.Serves.expire steady.courier popped task
  simp only [ring]
  split
  · next courier expired =>
      rw [expired] at serves
      have upholds : Upholds (client.wait alarm.deadline) { client with courier } :=
        .aside rfl rfl rfl rfl serves
      exact .maintains upholds.maintains
  · next courier notice expired =>
      rw [expired] at serves
      have upholds : Upholds (client.wait alarm.deadline) { client with courier } :=
        .aside rfl rfl rfl rfl serves
      split
      · next live =>
          obtain ⟨session, found⟩ := session?_of_isLive live
          have orderly : Orderly { client with courier } :=
            steady.orderly.of_sessions rfl rfl rfl
          have steadily : Steady { client with courier } :=
            ⟨orderly, upholds.serves.regular,
              upholds.maintains.paced (steady.wait alarm.deadline).paced, steady.ungranted⟩
          have others : ∀ {other}, other ≠ notice.owner →
              (deliveryFailed notice { client with courier }).session? other =
                client.session? other :=
            (Turned.deliveryFailed orderly notice found).others
          rcases upholds_or_ends_deliveryFailed steadily notice found with
            later | ⟨releasing, after, ends⟩
          · exact .maintains (upholds.trans later).maintains
          · exact .ends releasing others
              { ends with
                tends := upholds.serves.tends ends.tends }
      · exact .maintains upholds.maintains

/-- A session whose alarm has rung sends its keep-alive and sets the alarm anew. -/
theorem Beats.keepAliveDue (gone : client.courier.Tends session.keepAlive none [] middle.courier)
    (settings : middle.settings = client.settings) (calls : middle.caCalls = client.caCalls)
    (sessions : middle.sessions = client.sessions) (found : client.session? ref = some session)
    (positive : client.settings.keepAliveInterval ≠ 0) (sustained : session.isSustained = true)
    (due : ∃ alarm ∈ client.courier.agenda.alarms,
      alarm.task = .keepAlive ref ∧ alarm.deadline ≤ client.courier.agenda.now) :
    ∃ after attempt, Beats ref session after attempt client (middle.keepAliveDue ref) := by
  have established : session.state.isEstablished = true := (Bool.and_eq_true_iff.mp sustained).2
  have present : middle.session? ref = some session := by rw [session?, sessions]; exact found
  obtain ⟨attempt, time, sender, encoded, sent⟩ := Courier.Tends.inProgress gone.regular
    middle.drawTransaction.1 session.id session.number ref
  have stillPresent : (middle.sendInProgress ref session).2.session? ref = some session := present
  obtain ⟨beat, ⟨handle, next⟩, armed, armedFound⟩ :=
    nextBeat_armKeepAlive sent.regular stillPresent
  have now : (middle.sendInProgress ref session).2.courier.agenda.now =
      client.courier.agenda.now := sent.now.trans gone.now
  have interval : (middle.sendInProgress ref session).2.settings = client.settings := settings
  rw [interval, now] at next
  have set : (beat.map Alarm.handle).or session.keepAlive = beat.map Alarm.handle := by
    rw [next, if_neg positive]
    rfl
  rw [set] at armedFound
  simp only [Client.keepAliveDue]
  simp only [present, established, if_true]
  refine ⟨_, attempt, ?_, ?_, found, armedFound,
    .of_eq rfl rfl rfl rfl rfl, sustained, sustained, due,
    time.trans gone.now, sender, ⟨_, encoded⟩,
    ⟨beat, ⟨handle, next⟩, rfl, (gone.trans sent).trans armed⟩⟩
  · exact settings_armKeepAlive.trans settings
  · exact caCalls_armKeepAlive.trans calls

/-- A keep-alive alarm rings for a session that is to be kept alive. -/
theorem Ringing.keepAlive (steady : client.Steady)
    (popped : client.courier.agenda.popDue? limit = some (alarm, agenda))
    (task : alarm.task = .keepAlive ref) :
    Ringing (client.wait alarm.deadline)
      (ring (.keepAlive ref) { client with courier := { client.courier with agenda } }) := by
  have waits := Agenda.mem_alarms_of_popDue? popped
  obtain ⟨session, found, keepAlive⟩ := steady.paced.ringing waits task
  obtain ⟨positive, sustained⟩ := (steady.paced.kept found).mp (keepAlive ▸ rfl)
  have live : client.isLive ref = true := by
    rw [isLive, found]
    exact (Bool.and_eq_true_iff.mp sustained).1
  have gone := Courier.Tends.popDue? steady.courier popped task
  rw [← keepAlive] at gone
  have due : ∃ waiting ∈ (client.wait alarm.deadline).courier.agenda.alarms,
      waiting.task = .keepAlive ref ∧
        waiting.deadline ≤ (client.wait alarm.deadline).courier.agenda.now :=
    ⟨alarm, waits, task, Nat.le_max_right _ _⟩
  have orderly : Orderly { client with courier := { client.courier with agenda } } :=
    steady.orderly.of_sessions rfl rfl rfl
  obtain ⟨after, attempt, beats⟩ : ∃ after attempt, Beats ref session after attempt
      (client.wait alarm.deadline)
      (keepAliveDue ref { client with courier := { client.courier with agenda } }) :=
    Beats.keepAliveDue gone rfl rfl rfl found positive sustained due
  have rings : ring (.keepAlive ref) { client with courier := { client.courier with agenda } } =
      keepAliveDue ref { client with courier := { client.courier with agenda } } := if_pos live
  rw [rings]
  exact .beats (Rested.keepAliveDue orderly ref).others beats

theorem Ringing.step (steady : client.Steady) (stepped : client.step limit = some next) :
    ∃ alarm agenda, client.courier.agenda.popDue? limit = some (alarm, agenda) ∧
      Ringing (client.wait alarm.deadline) next := by
  simp only [Client.step] at stepped
  split at stepped
  · cases stepped
  · next alarm agenda popped =>
      cases stepped
      refine ⟨alarm, agenda, popped, ?_⟩
      cases task : alarm.task with
      | unanswered transaction => exact .unanswered steady popped task
      | keepAlive ref => exact .keepAlive steady popped task

end Ringing

/-! ## Actions -/

theorem Deed.create (consistent : client.routes.Consistent) (regular : client.courier.Regular)
    (profile : VendorProfile) (asset : AssetRequest) :
    Deed cause client (client.create profile asset).2 := by
  obtain ⟨routes, id, created, _⟩ := create_eq consistent profile asset
  rw [created]
  refine .maintains ⟨rfl, rfl, .refl regular, fun {ref before} found => ?_,
    fun {ref after} absent found => ?_⟩
  · exact ⟨before, (session?_append rfl).mpr (.inl found), .refl before⟩
  · rcases (session?_append rfl).mp found with old | ⟨_, rfl⟩
    · cases absent.symm.trans old
    · exact ⟨rfl, rfl, rfl, rfl, rfl⟩

/-- Whatever is done at once. -/
theorem Deed.perform (steady : client.Steady) {action : ClientAction}
    (instant : ∀ duration, action ≠ .advance duration ∧ action ≠ .ringFirst duration) :
    Deed (some action) client (client.perform action) := by
  have nothing := Upholds.refl steady.courier
  cases action with
  | create profile asset => exact .create steady.orderly.routes steady.courier profile asset
  | operate action ref =>
      simp only [Client.perform]
      split
      · next live =>
          obtain ⟨session, found⟩ := session?_of_isLive live
          exact .operate steady found action
      · exact nothing.deed
  | dispatch datagram => exact .dispatch steady datagram
  | advance duration => exact absurd rfl (instant duration).1
  | ringFirst duration => exact absurd rfl (instant duration).2
  | setRefusals refuses =>
      exact .maintains (.aside rfl rfl rfl (.of_eq steady.courier rfl rfl rfl))
  | setFaults fault =>
      exact .maintains (.aside rfl rfl rfl (.refl steady.courier))
  | seedTransaction next =>
      exact .maintains (.aside rfl rfl rfl (.refl steady.courier))

/-! ## Conditional access -/

/-- No call is made, and what sessions have of conditional access stays. -/
structure Abstains (client next : Client) : Prop where
  calls : next.caCalls = client.caCalls
  stays : ∀ {ref before}, client.session? ref = some before →
    ∃ after, next.session? ref = some after ∧ before.Stays after
  fresh : ∀ {ref after}, client.session? ref = none → next.session? ref = some after → after.IsNew

/-- What is done to one session that stays is nothing to conditional access. -/
theorem Abstains.single (calls : next.caCalls = client.caCalls)
    (others : ∀ {other}, other ≠ ref → next.session? other = client.session? other)
    (found : client.session? ref = some before) (afterFound : next.session? ref = some after)
    (stays : before.Stays after) : Abstains client next where
  calls := calls
  stays {other session} sessionFound := by
    by_cases same : other = ref
    · subst same
      cases found.symm.trans sessionFound
      exact ⟨after, afterFound, stays⟩
    · exact ⟨session, (others same).trans sessionFound, .refl session⟩
  fresh {other session} absent sessionFound := by
    by_cases same : other = ref
    · subst same
      cases found.symm.trans absent
    · cases absent.symm.trans ((others same).symm.trans sessionFound)

/-- What a deed has to do with conditional access: nothing, unless it ends a session or grants
one. -/
inductive Billing (cause : Option ClientAction) (client next : Client) : Prop where
  | abstains (abstains : Abstains client next)
  | ends {ref : SessionRef} {before after : Session}
      (others : ∀ {other}, other ≠ ref → next.session? other = client.session? other)
      (ends : Ends ref before after client next)
  | grants {ref : SessionRef} {before after : Session} {datagram : Bytes} {message : Signal}
      (dispatched : cause = some (.dispatch datagram))
      (decoded : Signal.decode datagram = .ok message)
      (others : ∀ {other}, other ≠ ref → next.session? other = client.session? other)
      (grants : Grants ref message before after client next)

theorem Deed.billing (deed : Deed cause client next) : Billing cause client next := by
  cases deed with
  | maintains maintains =>
      refine .abstains ⟨maintains.calls, fun found => ?_, maintains.fresh⟩
      obtain ⟨after, afterFound, persists⟩ := maintains.persists found
      exact ⟨after, afterFound, persists.toStays⟩
  | nudges _ _ calls sessions _ =>
      refine .abstains ⟨calls, fun {ref before} found => ⟨before, ?_, .refl before⟩,
        fun {ref after} absent found => ?_⟩
      · rw [session?, sessions]
        exact found
      · rw [session?, sessions] at found
        cases absent.symm.trans found
  | quiets others quiets =>
      exact .abstains (.single quiets.calls others quiets.found quiets.afterFound quiets.stays)
  | ends others ends => exact .ends others ends
  | grants dispatched decoded _ others grants => exact .grants dispatched decoded others grants
  | beats others beats =>
      exact .abstains (.single beats.calls others beats.found beats.afterFound beats.stays)

end Client

end OnDemand
