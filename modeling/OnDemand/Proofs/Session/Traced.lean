import OnDemand.Proofs.Request.Tickets
import OnDemand.Proofs.Session.Accounts
import OnDemand.Proofs.Session.Counter

/-!
# Where transactions come from

Setup and release, connection and keep-alives, status and reset: all of them draw their transactions
from one counter.  A session awaits its answers in such transactions only, and the courier submits
its requests in them.  This holds after whatever happens to a client, also when more of it happens
while the conditional-access component is called.
-/

namespace OnDemand.Client

variable {earlier client next : Client} {ref : SessionRef} {session : Session}
  {change : Session → Session} {during : Client → Client}

/-- Transactions are drawn in order, and all that is awaited or submitted is in one of them.  What
was drawn and sent up to an earlier time has not been forgotten. -/
structure Traced (earlier client : Client) : Prop where
  counted : ∃ first, Counted first client.nextTransaction client.drawn
  registered : client.courier.Registered client.drawn
  awaited : ∀ {ref session kind transaction}, client.session? ref = some session →
    session.slot kind = some transaction → transaction ∈ client.drawn
  /-- As long as no transaction is drawn twice, each is awaited in one place. -/
  apart : client.drawn.Nodup → ∀ {ref other session otherSession kind otherKind transaction},
    client.session? ref = some session → session.slot kind = some transaction →
    client.session? other = some otherSession →
    otherSession.slot otherKind = some transaction → ref = other ∧ kind = otherKind
  drawn : earlier.drawn <:+ client.drawn
  attempts : earlier.courier.transport.attempts <:+ client.courier.transport.attempts

theorem Traced.start (settings : ClientSettings) :
    Traced (Client.start settings) (Client.start settings) where
  counted := ⟨_, .start _⟩
  registered := .start settings.messageTimer
  awaited found := nomatch (session?_start settings _).symm.trans found
  apart _ := fun found => nomatch (session?_start settings _).symm.trans found
  drawn := List.suffix_refl _
  attempts := List.suffix_refl _

/-- From now on, this is the earlier time. -/
theorem Traced.restart (traced : Traced earlier client) : Traced client client where
  counted := traced.counted
  registered := traced.registered
  awaited := traced.awaited
  apart := traced.apart
  drawn := List.suffix_refl _
  attempts := List.suffix_refl _

/-! ## What draws nothing -/

/-- Nothing is awaited or kept that was not before. -/
theorem Traced.lessen (traced : Traced earlier client)
    (counter : next.nextTransaction = client.nextTransaction) (drawn : next.drawn = client.drawn)
    (retains : client.courier.Retains next.courier)
    (slots : ∀ {ref after kind transaction}, next.session? ref = some after →
      after.slot kind = some transaction →
      ∃ before, client.session? ref = some before ∧ before.slot kind = some transaction) :
    Traced earlier next where
  counted := by
    rw [counter, drawn]
    exact traced.counted
  registered := by
    rw [drawn]
    exact retains.registered traced.registered
  awaited found slot := by
    obtain ⟨before, beforeFound, awaited⟩ := slots found slot
    rw [drawn]
    exact traced.awaited beforeFound awaited
  apart nodup := by
    intro one two oneAfter twoAfter oneKind twoKind transaction oneFound oneSlot twoFound twoSlot
    obtain ⟨oneBefore, oneBeforeFound, oneAwaited⟩ := slots oneFound oneSlot
    obtain ⟨twoBefore, twoBeforeFound, twoAwaited⟩ := slots twoFound twoSlot
    exact traced.apart (drawn ▸ nodup) oneBeforeFound oneAwaited twoBeforeFound twoAwaited
  drawn := by
    rw [drawn]
    exact traced.drawn
  attempts := traced.attempts.trans retains.attempts

theorem Traced.of_modify (traced : Traced earlier client)
    (sessions : next.sessions = client.sessions.modify ref change)
    (abides : ∀ session, client.session? ref = some session → session.Abides (change session))
    (counter : next.nextTransaction = client.nextTransaction) (drawn : next.drawn = client.drawn)
    (retains : client.courier.Retains next.courier) : Traced earlier next := by
  apply traced.lessen counter drawn retains
  intro other after kind transaction found slot
  obtain ⟨before, beforeFound, rfl⟩ :=
    session?_modify_eq_some.mp ((session?_of_sessions sessions).symm.trans found)
  refine ⟨before, beforeFound, ?_⟩
  split at slot
  · next own => exact (abides before (own ▸ beforeFound)).slots slot
  · exact slot

/-- What leaves sessions as they are. -/
theorem Traced.aside (traced : Traced earlier client) (sessions : next.sessions = client.sessions)
    (counter : next.nextTransaction = client.nextTransaction) (drawn : next.drawn = client.drawn)
    (retains : client.courier.Retains next.courier) : Traced earlier next := by
  apply traced.lessen counter drawn retains
  intro ref after kind transaction found slot
  rw [session?, sessions] at found
  exact ⟨after, found, slot⟩

theorem Traced.ofCourier (traced : Traced earlier client) {courier : Courier}
    (retains : client.courier.Retains courier) : Traced earlier { client with courier } :=
  traced.aside rfl rfl rfl retains

theorem Traced.modify (traced : Traced earlier client) (ref : SessionRef)
    (change : Session → Session)
    (abides : ∀ session, client.session? ref = some session → session.Abides (change session)) :
    Traced earlier (client.modify ref change) :=
  traced.of_modify rfl abides rfl rfl (.refl _)

theorem Traced.tell (traced : Traced earlier client) (ref : SessionRef) (event : SessionEvent) :
    Traced earlier (client.tell ref event) :=
  traced.modify ref _ fun _ _ => ⟨rfl, rfl, id⟩

theorem Traced.send (traced : Traced earlier client) (ref : SessionRef) (session : Session)
    (message : Signal) : Traced earlier (client.submit ref session message 0).2 :=
  traced.ofCourier (.submit_zero ..)

theorem Traced.arm (traced : Traced earlier client) (ref : SessionRef) :
    Traced earlier (client.armKeepAlive ref) := by
  simp only [armKeepAlive]
  split
  · exact traced
  · exact traced.of_modify rfl (fun _ _ => ⟨rfl, rfl, id⟩) rfl rfl
      (.of_subset (List.Subset.refl _) rfl (Nat.le_succ _))

theorem Traced.disarm (traced : Traced earlier client) (ref : SessionRef) :
    Traced earlier (client.disarmKeepAlive ref) := by
  simp only [disarmKeepAlive]
  split
  · exact traced
  · exact traced.of_modify rfl (fun _ _ => ⟨rfl, rfl, id⟩) rfl rfl
      (.of_subset (List.Subset.refl _) rfl (Nat.le_refl _))

theorem Traced.callCa (traced : Traced earlier client) (call : CaCall) :
    Traced earlier (client.callCa call).2 :=
  traced.aside rfl rfl rfl (.refl _)

theorem Traced.stopCa (traced : Traced earlier client) (ref : SessionRef) (session : Session) :
    Traced earlier (client.stopCa ref session) := by
  rw [stopCa_eq]
  split
  · split
    · exact traced.callCa _
    · exact (traced.callCa _).tell ref _
  · exact traced

theorem Traced.finish (traced : Traced earlier client) (ref : SessionRef) (reason : ReasonCode)
    (byServer : Bool) : Traced earlier (client.finish ref reason byServer) := by
  simp only [Client.finish]
  split
  · exact traced
  · next session _ =>
      have quiet := (traced.modify ref closed fun session _ => session.abides_closed).disarm ref
      have gone : Traced earlier (releaseHoldings session.number _) :=
        quiet.aside rfl rfl rfl (.cancelSession _ session.number)
      exact (gone.stopCa ref session).tell ref _

/-! ## What draws a transaction -/

theorem Traced.draw (traced : Traced earlier client) :
    Traced earlier client.drawTransaction.2 where
  counted := by
    obtain ⟨first, counted⟩ := traced.counted
    exact ⟨first, counted.draw⟩
  registered := traced.registered.draw _
  awaited found slot := List.mem_cons_of_mem _ (traced.awaited found slot)
  apart nodup := traced.apart nodup.of_cons
  drawn := traced.drawn.trans (List.suffix_cons _ _)
  attempts := traced.attempts

/-- A transaction that is drawn for a request is awaited by the session that submits it, and by no
other. -/
theorem Traced.asking {kind : SignalKind} {mark : Session → Session} {sender : Session}
    {message : Signal} (traced : Traced earlier client) (found : client.session? ref = some session)
    (own : message.transaction = client.drawTransaction.1) (canonical : message.IsCanonical)
    (marks : session.Retouches (some (kind, client.drawTransaction.1)) (mark session))
    (retries : Nat) : Traced earlier (client.asking ref mark sender message retries).2 where
  counted := traced.draw.counted
  registered := by
    -- the session is marked before its request is submitted, but that is no matter to the courier
    have submitted := traced.registered.submit canonical retries sender.number ref
    rwa [own] at submitted
  awaited afterFound slot := by
    rcases slots_asking found marks afterFound slot with ⟨before, beforeFound, was⟩ | ⟨_, _, rfl⟩
    · exact List.mem_cons_of_mem _ (traced.awaited beforeFound was)
    · exact List.mem_cons_self
  apart nodup :=
    apart_asking found marks traced.awaited (traced.apart (nodup_of_asking nodup).1) nodup
  drawn := traced.draw.drawn
  attempts := traced.attempts.trans Courier.suffix_attempts_submit

/-- A session asks for something, and ceases to await it if its request is not sent. -/
theorem Traced.ask {kind : SignalKind} {mark unmark : Session → Session} {message : Signal}
    {retries : Nat} (traced : Traced earlier client) (found : client.session? ref = some session)
    (own : message.transaction = client.drawTransaction.1) (canonical : message.IsCanonical)
    (marks : session.Retouches (some (kind, client.drawTransaction.1)) (mark session))
    (unmarks : (mark session).Abides (unmark (mark session))) :
    Traced earlier
      (match client.asking ref mark session message retries with
        | (.ok (), next) => ((.ok (), next) : Except SessionError Unit × Client)
        | (.error cause, next) => (.error (.notSubmitted cause), next.modify ref unmark)).2 := by
  have asked : Traced earlier (client.asking ref mark session message retries).2 :=
    traced.asking found own canonical marks retries
  split
  · next next outcome =>
      obtain rfl : _ = next := congrArg Prod.snd outcome
      exact asked
  · next cause next outcome =>
      obtain rfl : _ = next := congrArg Prod.snd outcome
      refine asked.modify ref unmark fun again againFound => ?_
      cases (session?_asking found).symm.trans againFound
      exact unmarks

theorem Traced.setup (traced : Traced earlier client) (found : client.session? ref = some session) :
    Traced earlier (client.setup ref).2 := by
  simp only [Client.setup]
  simp only [found]
  split
  · exact traced
  · next allowed =>
      have idle : session.state = .idle := Decidable.not_not.mp allowed
      split
      · exact traced
      · exact traced.ask found rfl trivial (Session.retouches_setup idle).toRetouches
          (.of_slots rfl rfl (.inl rfl) (.inr rfl) (.inr rfl) (.inr rfl))

theorem Traced.requestStatus (traced : Traced earlier client)
    (found : client.session? ref = some session) : Traced earlier (client.requestStatus ref).2 := by
  simp only [Client.requestStatus]
  simp only [found]
  split
  · exact traced
  · next allowed =>
      obtain ⟨_, unreleased⟩ := SessionState.not_ending fun refused =>
        allowed ⟨refused.1, refused.2.2⟩
      exact traced.ask found rfl trivial (Session.retouches_status unreleased).toRetouches
        (.of_slots rfl rfl (.inr rfl) (.inr rfl) (.inl rfl) (.inr rfl))

theorem Traced.reset (traced : Traced earlier client) (found : client.session? ref = some session) :
    Traced earlier (client.reset ref).2 := by
  simp only [Client.reset]
  simp only [found]
  split
  · exact traced
  · next allowed =>
      obtain ⟨_, unreleased⟩ := SessionState.not_ending allowed
      exact traced.ask found rfl trivial (Session.retouches_reset unreleased).toRetouches
        (.of_slots rfl rfl (.inr rfl) (.inr rfl) (.inr rfl) (.inl rfl))

/-- A session asks for its release, and is released at once if its request is not sent. -/
theorem Traced.askRelease {sender : Session} {message : Signal} {retries : Nat}
    (traced : Traced earlier client) (found : client.session? ref = some session)
    (own : message.transaction = client.drawTransaction.1) (canonical : message.IsCanonical)
    (unreleased : session.state ≠ .released) (unset : session.keepAlive = none) :
    Traced earlier
      (match client.asking ref (Session.releasing client.drawTransaction.1) sender message
          retries with
        | (.ok (), next) => ((.ok (), next) : Except SessionError Unit × Client)
        | (.error cause, next) =>
            (.error (.notSubmitted cause), next.finish ref .clientRelease false)).2 := by
  have asked : Traced earlier
      (client.asking ref (Session.releasing client.drawTransaction.1) sender message retries).2 :=
    traced.asking found own canonical (Session.retouches_release unreleased unset).toRetouches
      retries
  split
  · next next outcome =>
      obtain rfl : _ = next := congrArg Prod.snd outcome
      exact asked
  · next cause next outcome =>
      obtain rfl : _ = next := congrArg Prod.snd outcome
      exact asked.finish ref _ _

theorem Traced.teardown (traced : Traced earlier client)
    (found : client.session? ref = some session) : Traced earlier (client.teardown ref).2 := by
  have cancelled : Traced earlier
      { client with courier := (client.courier.cancelSession session.number).2 } :=
    traced.ofCourier (.cancelSession _ _)
  have quiet := cancelled.disarm ref
  have present : (disarmKeepAlive ref { client with
      courier := (client.courier.cancelSession session.number).2 }).session? ref = _ :=
    session?_disarmKeepAlive found
  simp only [Client.teardown]
  simp only [found]
  cases state : session.state
  case releasing => exact traced
  case released => exact traced
  case idle => exact traced.finish ref _ _
  all_goals exact quiet.askRelease present rfl trivial (by rw [state]; decide) rfl

theorem Traced.sendInProgress (traced : Traced earlier client) (ref : SessionRef)
    (session : Session) : Traced earlier (client.sendInProgress ref session).2 :=
  traced.draw.send ref session _

theorem Traced.connect (traced : Traced earlier client)
    (found : client.session? ref = some session) : Traced earlier (client.connect ref).2 := by
  have sent := traced.draw.send ref session
    ⟨client.drawTransaction.1, [], .connectRequest ⟨session.id, {}⟩⟩
  simp only [Client.connect]
  simp only [found]
  split
  · exact traced
  · split
    · next submitted outcome =>
        obtain rfl : _ = submitted := congrArg Prod.snd outcome
        exact sent.modify ref _ fun _ _ => ⟨rfl, rfl, id⟩
    · next cause submitted outcome =>
        obtain rfl : _ = submitted := congrArg Prod.snd outcome
        exact sent

theorem Traced.sendKeepAlive (traced : Traced earlier client)
    (found : client.session? ref = some session) : Traced earlier (client.sendKeepAlive ref).2 := by
  simp only [Client.sendKeepAlive]
  simp only [found]
  split
  · exact traced
  · exact traced.sendInProgress ref session

theorem Traced.drop (traced : Traced earlier client)
    (found : client.session? ref = some session) : Traced earlier (client.drop ref) := by
  simp only [Client.drop]
  simp only [found]
  have dropped := (traced.disarm ref).modify ref (fun session => { session with isHeld := false })
    fun _ _ => ⟨rfl, rfl, id⟩
  exact dropped.aside rfl rfl rfl (.cancelSession _ session.number)

theorem Traced.takeEvents (traced : Traced earlier client)
    (found : client.session? ref = some session) : Traced earlier (client.takeEvents ref).2 := by
  simp only [Client.takeEvents]
  simp only [found]
  exact traced.modify ref _ fun _ _ => ⟨rfl, rfl, id⟩

theorem Traced.awaitReady (traced : Traced earlier client)
    (found : client.session? ref = some session) : Traced earlier (client.awaitReady ref).2 := by
  simp only [Client.awaitReady]
  simp only [found]
  refine traced.modify ref _ fun again againFound => ?_
  cases found.symm.trans againFound
  simp only [Session.awaitReady]
  split <;> exact ⟨rfl, rfl, id⟩

theorem Traced.operate (traced : Traced earlier client)
    (found : client.session? ref = some session) (action : OwnerAction) :
    Traced earlier (client.operate action ref) := by
  cases action with
  | setup => exact traced.setup found
  | connect => exact traced.connect found
  | sendKeepAlive => exact traced.sendKeepAlive found
  | requestStatus => exact traced.requestStatus found
  | reset => exact traced.reset found
  | teardown => exact traced.teardown found
  | awaitReady => exact traced.awaitReady found
  | takeEvents => exact traced.takeEvents found
  | drop => exact traced.drop found

/-! ## Messages -/

theorem Traced.adoptId (traced : Traced earlier client) (ref : SessionRef) (session : Session)
    (confirm : SetupConfirm) : Traced earlier (client.adoptId ref session confirm) := by
  refine traced.lessen ?counter ?drawn ?retains (Lessens.adoptId ref session confirm client).slots
  case counter =>
    simp only [Client.adoptId]
    split <;> rfl
  case drawn =>
    simp only [Client.adoptId]
    split <;> rfl
  case retains =>
    rw [alarms_adoptId]
    exact .refl _

theorem Traced.onStatusConfirm (traced : Traced earlier client) (ref : SessionRef)
    (transaction : UInt32) (status : ClientStatus) :
    Traced earlier (client.onStatusConfirm ref transaction status) := by
  simp only [Client.onStatusConfirm]
  split
  · exact traced
  · split
    · have answered := traced.modify ref (fun session => { session with status := none })
        fun _ _ => .of_slots rfl rfl (.inr rfl) (.inr rfl) (.inl rfl) (.inr rfl)
      exact answered.tell ref _
    · exact traced

theorem Traced.onReleaseConfirm (traced : Traced earlier client) (ref : SessionRef)
    (transaction : UInt32) (release : Release) :
    Traced earlier (client.onReleaseConfirm ref transaction release) := by
  simp only [Client.onReleaseConfirm]
  split
  · exact traced
  · split
    · exact traced.finish ref _ _
    · exact traced

theorem Traced.onReleaseIndication (traced : Traced earlier client) (ref : SessionRef)
    (transaction : UInt32) (release : Release) :
    Traced earlier (client.onReleaseIndication ref transaction release) := by
  simp only [Client.onReleaseIndication]
  split
  · exact traced
  · next session _ =>
      have answered := traced.send ref session
        ⟨transaction, [], .release .response ⟨session.id, release.reason, {}⟩⟩
      split
      · exact answered
      · exact answered.finish ref _ _

theorem Traced.onResetConfirm (traced : Traced earlier client) (ref : SessionRef)
    (transaction : UInt32) (reset : ClientReset) :
    Traced earlier (client.onResetConfirm ref transaction reset) := by
  simp only [Client.onResetConfirm]
  split
  · exact traced
  · split
    · have answered := traced.modify ref (fun session => { session with reset := none })
        fun _ _ => .of_slots rfl rfl (.inr rfl) (.inr rfl) (.inr rfl) (.inl rfl)
      exact answered.finish ref _ _
    · exact traced

theorem Traced.onResetIndication (traced : Traced earlier client) (transaction : UInt32)
    (reset : ClientReset) : Traced earlier (client.onResetIndication transaction reset) := by
  have told : ∀ {refs : List SessionRef} {answered : Client}, Traced earlier answered →
      Traced earlier (refs.foldl
        (fun client ref => client.tell ref (.resetIndicated reset.reason)) answered) := by
    intro refs
    induction refs with
    | nil => exact id
    | cons first rest ih => exact fun answered => ih (answered.tell first _)
  simp only [Client.onResetIndication]
  split
  · exact told traced
  · exact told (traced.ofCourier (.send _ _ _))

section Confirming

-- What happens while conditional access is begun draws transactions from the same counter.
variable (keeps : ∀ {client : Client}, Traced earlier client → Traced earlier (during client))
include keeps

theorem Traced.startCa (traced : Traced earlier client) (ref : SessionRef) (id : SessionId)
    (info : ClientCaInfo) (entitlement : Option UInt32) :
    Traced earlier (client.startCa during ref id info entitlement) := by
  have called := keeps (traced.callCa (.start id info entitlement))
  simp only [Client.startCa]
  split
  · exact called.tell ref _
  · split
    · exact called
    · split
      · exact called.callCa _
      · exact called.modify ref _ fun _ _ =>
          .of_slots rfl rfl (.inr rfl) (.inr rfl) (.inr rfl) (.inr rfl)

theorem Traced.onSetupConfirm (traced : Traced earlier client) (ref : SessionRef)
    (transaction : UInt32) (confirm : SetupConfirm) :
    Traced earlier (client.onSetupConfirm during ref transaction confirm) := by
  simp only [Client.onSetupConfirm]
  split
  · exact traced
  · next session _ =>
      split
      · exact traced
      · split
        · have refused := traced.modify ref
            (fun session => { session with setup := none, state := .error })
            fun _ _ => .of_slots rfl rfl (.inl rfl) (.inr rfl) (.inr rfl) (.inr rfl)
          exact refused.tell ref _
        · -- that the session awaits its setup no longer is part of what it is granted
          rw [adoptId_granted]
          have granted := (traced.adoptId ref session confirm).modify ref
            (Session.granted confirm) fun session _ => session.abides_granted confirm
          have armed := granted.arm ref
          split
          · exact armed
          · split
            · exact armed.tell ref _
            · exact (armed.startCa keeps ref _ _ _).tell ref _

theorem Traced.handle (traced : Traced earlier client) (ref : SessionRef) (message : Signal) :
    Traced earlier (client.handle during ref message) := by
  simp only [Client.handle]
  split
  · exact traced.onSetupConfirm keeps ref _ _
  · exact traced.onReleaseConfirm ref _ _
  · exact traced.onReleaseIndication ref _ _
  · exact traced.onStatusConfirm ref _ _
  · exact traced.onResetConfirm ref _ _
  · exact traced

theorem Traced.receive (traced : Traced earlier client) (message : Signal) :
    Traced earlier (client.receive during message) := by
  have settled : Traced earlier (client.settled message) := by
    simp only [Client.settled]
    split
    · exact traced.ofCourier (.acknowledgeReply _ _ _)
    · exact traced
  rw [receive_eq]
  simp only [deliver]
  split
  · exact settled.onResetIndication _ _
  · split
    · split
      · exact settled.handle keeps _ message
      · exact settled
    · exact settled

theorem Traced.receiveBytes (traced : Traced earlier client) (datagram : Bytes) :
    Traced earlier (client.receiveBytes during datagram) := by
  simp only [Client.receiveBytes]
  split
  · exact traced
  · exact traced.receive keeps _

end Confirming

theorem Traced.setArrival (traced : Traced earlier client) (arrival : Option Bytes) :
    Traced earlier { client with ca := { client.ca with arrival } } :=
  traced.aside rfl rfl rfl (.refl _)

theorem Traced.arrival (traced : Traced earlier client) : Traced earlier client.arrival := by
  simp only [Client.arrival]
  split
  · exact traced
  · exact (traced.setArrival none).receiveBytes id _

/-! ## Alarms -/

theorem Traced.deliveryFailed (traced : Traced earlier client) (notice : FailureNotice) :
    Traced earlier (client.deliveryFailed notice) := by
  simp only [Client.deliveryFailed]
  split
  · exact traced
  · split
    · split
      · have failed := traced.modify notice.owner
          (fun session => { session with setup := none, state := .error })
          fun _ _ => .of_slots rfl rfl (.inl rfl) (.inr rfl) (.inr rfl) (.inr rfl)
        exact failed.tell _ _
      · exact traced
    · split
      · exact Traced.finish (traced.tell notice.owner _) _ _ _
      · exact traced
    · split
      · have given := traced.modify notice.owner (fun session => { session with status := none })
          fun _ _ => .of_slots rfl rfl (.inr rfl) (.inr rfl) (.inl rfl) (.inr rfl)
        exact given.tell _ _
      · exact traced
    · split
      · have given := traced.modify notice.owner (fun session => { session with reset := none })
          fun _ _ => .of_slots rfl rfl (.inr rfl) (.inr rfl) (.inr rfl) (.inl rfl)
        exact given.tell _ _
      · exact traced
    · exact traced

theorem Traced.keepAliveDue (traced : Traced earlier client) (ref : SessionRef) :
    Traced earlier (client.keepAliveDue ref) := by
  simp only [Client.keepAliveDue]
  split
  · exact traced
  · next session _ =>
      split
      · exact (traced.sendInProgress ref session).arm ref
      · exact traced

theorem Traced.ring (traced : Traced earlier client) (reminder : Reminder) :
    Traced earlier (client.ring reminder) := by
  cases reminder with
  | keepAlive ref =>
      simp only [Client.ring]
      split
      · exact traced.keepAliveDue ref
      · exact traced
  | unanswered transaction =>
      have expired := traced.ofCourier (.expire client.courier transaction)
      simp only [Client.ring]
      split
      · next courier outcome =>
          obtain rfl : _ = courier := congrArg Prod.fst outcome
          exact expired
      · next courier notice outcome =>
          obtain rfl : _ = courier := congrArg Prod.fst outcome
          split
          · exact expired.deliveryFailed notice
          · exact expired

theorem Traced.step (traced : Traced earlier client) {limit : Time}
    (stepped : client.step limit = some next) : Traced earlier next := by
  simp only [Client.step] at stepped
  split at stepped
  · cases stepped
  · next alarm agenda popped =>
      cases stepped
      have taken : Traced earlier { client with courier := { client.courier with agenda } } :=
        traced.ofCourier (.of_subset (List.Subset.refl _) rfl
          (Nat.le_of_eq (Agenda.nextHandle_popDue? popped).symm))
      exact taken.ring alarm.task

theorem Traced.advance (traced : Traced earlier client) (duration : Time) :
    Traced earlier (client.advance duration) := by
  have stepped : ∀ before next, Client.step (client.courier.agenda.now + duration) before =
      some next → Traced earlier before → Traced earlier next :=
    fun _ _ taken before => before.step taken
  have rang := exhaust_preserves stepped
    (client.weight (client.courier.agenda.now + duration)) traced
  exact rang.ofCourier (.of_subset (List.Subset.refl _) rfl (Nat.le_refl _))

/-! ## Actions -/

theorem Traced.create (traced : Traced earlier client) (profile : VendorProfile)
    (asset : AssetRequest) : Traced earlier (client.create profile asset).2 := by
  refine traced.lessen rfl rfl (.refl _) ?_
  intro ref session kind transaction found slot
  rcases (session?_append rfl).mp found with old | ⟨_, rfl⟩
  · exact ⟨session, old, slot⟩
  · simp only [Session.slot] at slot
    split at slot <;> cases slot

/-- Nothing else may have been drawn when the counter is set to a number. -/
theorem Traced.seedTransaction (traced : Traced earlier client) (unused : client.drawn = [])
    (number : UInt32) : Traced earlier (client.seedTransaction number) where
  counted := by
    refine ⟨(Client.draw number).1, ?_⟩
    rw [show (client.seedTransaction number).drawn = [] from unused]
    exact .start number
  registered := traced.registered
  awaited := traced.awaited
  apart := traced.apart
  drawn := traced.drawn
  attempts := traced.attempts

theorem Traced.perform (traced : Traced earlier client) {action : ClientAction}
    (seeds : ∀ number, action = .seedTransaction number → client.drawn = []) :
    Traced earlier (client.perform action) := by
  cases action with
  | create profile asset => exact traced.create profile asset
  | operate action ref =>
      simp only [Client.perform]
      split
      · next live =>
          obtain ⟨session, found⟩ := session?_of_isLive live
          exact traced.operate found action
      · exact traced
  | dispatch datagram => exact traced.receiveBytes Traced.arrival datagram
  | advance duration => exact traced.advance duration
  | ringFirst duration =>
      simp only [Client.perform]
      cases stepped : client.step (client.courier.agenda.now + duration) with
      | none => exact traced
      | some next => exact traced.step stepped
  | setRefusals refuses =>
      exact traced.ofCourier (.of_subset (List.Subset.refl _) rfl (Nat.le_refl _))
  | setFaults fault => exact traced.aside rfl rfl rfl (.refl _)
  | seedTransaction number => exact traced.seedTransaction (seeds number rfl) number

end OnDemand.Client
