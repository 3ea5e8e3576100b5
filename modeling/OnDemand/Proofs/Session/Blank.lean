import OnDemand.Proofs.Session.Learned
import OnDemand.Proofs.Session.Upkeep

/-!
# Sessions start blank

A session is granted at most once, and nothing else teaches it anything.  So a session that may
still be granted has learned nothing, whatever happened before.  Each change of a session keeps
this, and with it each operation, message and alarm, and each run.
-/

namespace OnDemand

/-- A session that may still be granted has learned nothing. -/
def Session.StartsBlank (session : Session) : Prop :=
  session.state.isUngranted = true → session.learned = {}

/-- A session that was granted, or that never will be, may have learned anything. -/
theorem Session.StartsBlank.of_settled {session : Session}
    (settled : session.state.isUngranted = false) : session.StartsBlank := by
  intro ungranted
  cases settled.symm.trans ungranted

namespace Client

/-- All sessions of a client that may still be granted have learned nothing. -/
def StartsBlank (client : Client) : Prop :=
  ∀ ⦃ref session⦄, client.session? ref = some session → session.StartsBlank

variable {client next : Client} {ref : SessionRef} {session : Session}
  {change : Session → Session} {during : Client → Client}

/-! ## Changes of one session -/

theorem StartsBlank.of_sessions (blank : client.StartsBlank)
    (sessions : next.sessions = client.sessions) : next.StartsBlank := by
  intro ref session found
  rw [session?, sessions] at found
  exact blank found

theorem StartsBlank.of_modify (blank : client.StartsBlank)
    (sessions : next.sessions = client.sessions.modify ref change)
    (keeps : ∀ session, client.session? ref = some session → session.StartsBlank →
      (change session).StartsBlank) : next.StartsBlank := by
  intro other after found
  obtain ⟨before, beforeFound, rfl⟩ :=
    session?_modify_eq_some.mp ((session?_of_sessions sessions).symm.trans found)
  split
  · next own =>
      subst own
      exact keeps before beforeFound (blank beforeFound)
  · exact blank beforeFound

/-- A change that keeps blank whatever session it is made to. -/
theorem StartsBlank.modify (blank : client.StartsBlank) (ref : SessionRef)
    (change : Session → Session)
    (keeps : ∀ session : Session, session.StartsBlank → (change session).StartsBlank) :
    (client.modify ref change).StartsBlank :=
  blank.of_modify rfl fun session _ => keeps session

/-- A change after which no session may still be granted. -/
theorem StartsBlank.settle (blank : client.StartsBlank) (ref : SessionRef)
    (change : Session → Session)
    (settled : ∀ session : Session, (change session).state.isUngranted = false) :
    (client.modify ref change).StartsBlank :=
  blank.modify ref change fun session _ => .of_settled (settled session)

theorem StartsBlank.tell (blank : client.StartsBlank) (ref : SessionRef) (event : SessionEvent) :
    (client.tell ref event).StartsBlank :=
  blank.modify ref _ fun _ same => same

theorem StartsBlank.arm (blank : client.StartsBlank) (ref : SessionRef) :
    (client.armKeepAlive ref).StartsBlank := by
  simp only [armKeepAlive]
  split
  · exact blank
  · exact blank.of_modify rfl fun _ _ same => same

theorem StartsBlank.disarm (blank : client.StartsBlank) (ref : SessionRef) :
    (client.disarmKeepAlive ref).StartsBlank := by
  simp only [disarmKeepAlive]
  split
  · exact blank
  · exact blank.of_modify rfl fun _ _ same => same

theorem StartsBlank.stopCa (blank : client.StartsBlank) (ref : SessionRef) (session : Session) :
    (client.stopCa ref session).StartsBlank := by
  rw [stopCa_eq]
  split
  · split
    · exact blank
    · have called : (client.callCa (.stop session.id)).2.StartsBlank := blank
      exact called.tell ref _
  · exact blank

theorem StartsBlank.finish (blank : client.StartsBlank) (ref : SessionRef) (reason : ReasonCode)
    (byServer : Bool) : (client.finish ref reason byServer).StartsBlank := by
  simp only [Client.finish]
  split
  · exact blank
  · next session _ =>
      have quiet := (blank.settle ref closed fun _ => rfl).disarm ref
      have gone : (releaseHoldings session.number _).StartsBlank := quiet.of_sessions rfl
      exact (gone.stopCa ref session).tell ref _

/-! ## Operations -/

/-- A session asks for something, and is unmarked again if its request is not sent. -/
theorem StartsBlank.ask {mark unmark : Session → Session} {message : Signal} {retries : Nat}
    (blank : client.StartsBlank) (found : client.session? ref = some session)
    (marked : session.StartsBlank → (mark session).StartsBlank)
    (unmarked : session.StartsBlank → (unmark (mark session)).StartsBlank) :
    (match client.asking ref mark session message retries with
      | (.ok (), next) => ((.ok (), next) : Except SessionError Unit × Client)
      | (.error cause, next) =>
          (.error (.notSubmitted cause), next.modify ref unmark)).2.StartsBlank := by
  have changed : ∀ {next : Client} {change : Session → Session},
      next.sessions = client.sessions.modify ref change →
      (session.StartsBlank → (change session).StartsBlank) → next.StartsBlank := by
    intro next change sessions keeps
    apply blank.of_modify sessions
    intro again present
    cases found.symm.trans present
    exact keeps
  split
  · next next outcome =>
      obtain rfl : _ = next := congrArg Prod.snd outcome
      exact changed rfl marked
  · next cause next outcome =>
      obtain rfl : _ = next := congrArg Prod.snd outcome
      exact changed (List.modify_modify_eq ..) unmarked

theorem StartsBlank.setup (blank : client.StartsBlank)
    (found : client.session? ref = some session) : (client.setup ref).2.StartsBlank := by
  simp only [Client.setup]
  simp only [found]
  split
  · exact blank
  · next allowed =>
      have idle : session.state = .idle := Decidable.not_not.mp allowed
      have ungranted : session.state.isUngranted = true := by
        rw [idle]
        rfl
      split
      · exact blank
      · -- It may be granted before and after, whether its request is sent or not.
        exact blank.ask found (fun own _ => own ungranted) fun own _ => own ungranted

theorem StartsBlank.connect (blank : client.StartsBlank)
    (found : client.session? ref = some session) : (client.connect ref).2.StartsBlank := by
  simp only [Client.connect]
  simp only [found]
  split
  · exact blank
  · split
    · next submitted outcome =>
        obtain rfl : _ = submitted := congrArg Prod.snd outcome
        exact blank.of_modify rfl fun _ _ _ => .of_settled rfl
    · next cause submitted outcome =>
        obtain rfl : _ = submitted := congrArg Prod.snd outcome
        exact blank

theorem StartsBlank.sendKeepAlive (blank : client.StartsBlank)
    (found : client.session? ref = some session) : (client.sendKeepAlive ref).2.StartsBlank := by
  simp only [Client.sendKeepAlive]
  simp only [found]
  split <;> exact blank

theorem StartsBlank.requestStatus (blank : client.StartsBlank)
    (found : client.session? ref = some session) : (client.requestStatus ref).2.StartsBlank := by
  simp only [Client.requestStatus]
  simp only [found]
  split
  · exact blank
  · exact blank.ask found id id

theorem StartsBlank.reset (blank : client.StartsBlank)
    (found : client.session? ref = some session) : (client.reset ref).2.StartsBlank := by
  simp only [Client.reset]
  simp only [found]
  split
  · exact blank
  · exact blank.ask found id id

theorem StartsBlank.teardown (blank : client.StartsBlank)
    (found : client.session? ref = some session) : (client.teardown ref).2.StartsBlank := by
  simp only [Client.teardown]
  simp only [found]
  have asked : ∀ {next : Client} {transaction : UInt32},
      next.sessions = (disarmKeepAlive ref
        { client with
          courier := (client.courier.cancelSession session.number).2 }).sessions.modify ref
            (Session.releasing transaction) → next.StartsBlank := by
    intro next transaction sessions
    have cancelled : StartsBlank
        { client with courier := (client.courier.cancelSession session.number).2 } := blank
    exact (cancelled.disarm ref).of_modify sessions fun _ _ _ => .of_settled rfl
  split
  · exact blank
  · exact blank
  · exact blank.finish ref _ _
  all_goals
    split
    · next submitted outcome =>
        obtain rfl : _ = submitted := congrArg Prod.snd outcome
        exact asked rfl
    · next cause submitted outcome =>
        obtain rfl : _ = submitted := congrArg Prod.snd outcome
        exact StartsBlank.finish (asked rfl) ref _ _

theorem StartsBlank.drop (blank : client.StartsBlank)
    (found : client.session? ref = some session) : (client.drop ref).StartsBlank := by
  simp only [Client.drop]
  simp only [found]
  exact (blank.disarm ref).of_modify rfl fun _ _ same => same

theorem StartsBlank.takeEvents (blank : client.StartsBlank)
    (found : client.session? ref = some session) : (client.takeEvents ref).2.StartsBlank := by
  simp only [Client.takeEvents]
  simp only [found]
  exact blank.modify ref _ fun _ same => same

theorem StartsBlank.awaitReady (blank : client.StartsBlank)
    (found : client.session? ref = some session) : (client.awaitReady ref).2.StartsBlank := by
  simp only [Client.awaitReady]
  simp only [found]
  refine blank.modify ref _ fun _ _ => ?_
  have own := blank found
  simp only [Session.awaitReady]
  split <;> exact own

theorem StartsBlank.operate (blank : client.StartsBlank)
    (found : client.session? ref = some session) (action : OwnerAction) :
    (client.operate action ref).StartsBlank := by
  cases action with
  | setup => exact blank.setup found
  | connect => exact blank.connect found
  | sendKeepAlive => exact blank.sendKeepAlive found
  | requestStatus => exact blank.requestStatus found
  | reset => exact blank.reset found
  | teardown => exact blank.teardown found
  | awaitReady => exact blank.awaitReady found
  | takeEvents => exact blank.takeEvents found
  | drop => exact blank.drop found

/-! ## Messages -/

theorem StartsBlank.adoptId (blank : client.StartsBlank) (ref : SessionRef) (session : Session)
    (confirm : SetupConfirm) : (client.adoptId ref session confirm).StartsBlank := by
  simp only [Client.adoptId]
  split
  · exact blank.of_modify rfl fun _ _ same => same
  · exact blank

theorem StartsBlank.onStatusConfirm (blank : client.StartsBlank) (ref : SessionRef)
    (transaction : UInt32) (status : ClientStatus) :
    (client.onStatusConfirm ref transaction status).StartsBlank := by
  simp only [Client.onStatusConfirm]
  split
  · exact blank
  · split
    · have answered := blank.modify ref (fun session => { session with status := none })
        fun _ same => same
      exact answered.tell ref _
    · exact blank

theorem StartsBlank.onReleaseConfirm (blank : client.StartsBlank) (ref : SessionRef)
    (transaction : UInt32) (release : Release) :
    (client.onReleaseConfirm ref transaction release).StartsBlank := by
  simp only [Client.onReleaseConfirm]
  split
  · exact blank
  · split
    · exact blank.finish ref _ _
    · exact blank

theorem StartsBlank.onReleaseIndication (blank : client.StartsBlank) (ref : SessionRef)
    (transaction : UInt32) (release : Release) :
    (client.onReleaseIndication ref transaction release).StartsBlank := by
  simp only [Client.onReleaseIndication]
  split
  · exact blank
  · next session _ =>
      have answered : (client.submit ref session
          ⟨transaction, [], .release .response ⟨session.id, release.reason, {}⟩⟩ 0).2.StartsBlank :=
        blank.of_sessions rfl
      split
      · exact answered
      · exact answered.finish ref _ _

theorem StartsBlank.onResetConfirm (blank : client.StartsBlank) (ref : SessionRef)
    (transaction : UInt32) (reset : ClientReset) :
    (client.onResetConfirm ref transaction reset).StartsBlank := by
  simp only [Client.onResetConfirm]
  split
  · exact blank
  · split
    · have answered := blank.modify ref (fun session => { session with reset := none })
        fun _ same => same
      exact answered.finish ref _ _
    · exact blank

theorem StartsBlank.onResetIndication (blank : client.StartsBlank) (transaction : UInt32)
    (reset : ClientReset) : (client.onResetIndication transaction reset).StartsBlank := by
  have told : ∀ {refs : List SessionRef} {answered : Client}, answered.StartsBlank →
      (refs.foldl (fun client ref => client.tell ref (.resetIndicated reset.reason))
        answered).StartsBlank := by
    intro refs
    induction refs with
    | nil => exact id
    | cons first rest ih => exact fun answered => ih (answered.tell first _)
  simp only [Client.onResetIndication]
  split <;> exact told blank

section Confirming

-- Whatever happens while the conditional-access component runs keeps sessions blank, too.
variable (keeps : ∀ {client : Client}, client.StartsBlank → (during client).StartsBlank)
include keeps

theorem StartsBlank.startCa (blank : client.StartsBlank) (ref : SessionRef) (id : SessionId)
    (info : ClientCaInfo) (entitlement : Option UInt32) :
    (client.startCa during ref id info entitlement).StartsBlank := by
  have called : (during (client.callCa (.start id info entitlement)).2).StartsBlank :=
    keeps (show (client.callCa (.start id info entitlement)).2.StartsBlank from blank)
  simp only [Client.startCa]
  split
  · exact called.tell ref _
  · split
    · exact called
    · split
      · exact called
      · exact called.modify ref _ fun _ same => same

theorem StartsBlank.onSetupConfirm (blank : client.StartsBlank) (ref : SessionRef)
    (transaction : UInt32) (confirm : SetupConfirm) :
    (client.onSetupConfirm during ref transaction confirm).StartsBlank := by
  simp only [Client.onSetupConfirm]
  split
  · exact blank
  · next session _ =>
      split
      · exact blank
      · split
        · have refused := blank.settle ref
            (fun session => { session with setup := none, state := .error }) fun _ => rfl
          exact refused.tell ref _
        · have answered := blank.modify ref (fun session => { session with setup := none })
            fun _ same => same
          have granted := (answered.adoptId ref session confirm).settle ref
            (·.applyConfirm confirm) fun _ => rfl
          have armed := granted.arm ref
          split
          · exact armed
          · split
            · exact armed.tell ref _
            · exact (armed.startCa keeps ref _ _ _).tell ref _

theorem StartsBlank.handle (blank : client.StartsBlank) (ref : SessionRef) (message : Signal) :
    (client.handle during ref message).StartsBlank := by
  simp only [Client.handle]
  split
  · exact blank.onSetupConfirm keeps ref _ _
  · exact blank.onReleaseConfirm ref _ _
  · exact blank.onReleaseIndication ref _ _
  · exact blank.onStatusConfirm ref _ _
  · exact blank.onResetConfirm ref _ _
  · exact blank

theorem StartsBlank.receive (blank : client.StartsBlank) (message : Signal) :
    (client.receive during message).StartsBlank := by
  have settled : (client.settled message).StartsBlank := by
    intro ref session found
    rw [session?_settled] at found
    exact blank found
  rw [receive_eq]
  simp only [deliver]
  split
  · exact settled.onResetIndication _ _
  · split
    · split
      · exact settled.handle keeps _ message
      · exact settled
    · exact settled

theorem StartsBlank.receiveBytes (blank : client.StartsBlank) (datagram : Bytes) :
    (client.receiveBytes during datagram).StartsBlank := by
  simp only [Client.receiveBytes]
  split
  · exact blank
  · exact blank.receive keeps _

end Confirming

theorem StartsBlank.arrival (blank : client.StartsBlank) : client.arrival.StartsBlank := by
  simp only [Client.arrival]
  split
  · exact blank
  · have quiet : StartsBlank { client with ca := { client.ca with arrival := none } } := blank
    exact quiet.receiveBytes id _

/-! ## Alarms -/

theorem StartsBlank.deliveryFailed (blank : client.StartsBlank) (notice : FailureNotice) :
    (client.deliveryFailed notice).StartsBlank := by
  simp only [Client.deliveryFailed]
  split
  · exact blank
  · split
    · split
      · have failed := blank.settle notice.owner
          (fun session => { session with setup := none, state := .error }) fun _ => rfl
        exact failed.tell _ _
      · exact blank
    · split
      · exact StartsBlank.finish (blank.tell notice.owner _) _ _ _
      · exact blank
    · split
      · have given := blank.modify notice.owner (fun session => { session with status := none })
          fun _ same => same
        exact given.tell _ _
      · exact blank
    · split
      · have given := blank.modify notice.owner (fun session => { session with reset := none })
          fun _ same => same
        exact given.tell _ _
      · exact blank
    · exact blank

theorem StartsBlank.keepAliveDue (blank : client.StartsBlank) (ref : SessionRef) :
    (client.keepAliveDue ref).StartsBlank := by
  simp only [Client.keepAliveDue]
  split
  · exact blank
  · next session _ =>
      split
      · have sent : (client.sendInProgress ref session).2.StartsBlank := blank
        exact sent.arm ref
      · exact blank

theorem StartsBlank.ring (blank : client.StartsBlank) (reminder : Reminder) :
    (client.ring reminder).StartsBlank := by
  simp only [Client.ring]
  split
  · split
    · exact blank
    · next courier notice _ =>
        split
        · have expired : StartsBlank { client with courier } := blank
          exact expired.deliveryFailed notice
        · exact blank
  · split
    · exact blank.keepAliveDue _
    · exact blank

theorem StartsBlank.step (blank : client.StartsBlank) {limit : Time}
    (stepped : client.step limit = some next) : next.StartsBlank := by
  simp only [Client.step] at stepped
  split at stepped
  · cases stepped
  · next alarm agenda _ =>
      cases stepped
      have popped : StartsBlank { client with courier := { client.courier with agenda } } := blank
      exact popped.ring _

theorem StartsBlank.advance (blank : client.StartsBlank) (duration : Time) :
    (client.advance duration).StartsBlank :=
  have stepped : ∀ before next, Client.step (client.courier.agenda.now + duration) before =
      some next → before.StartsBlank → next.StartsBlank :=
    fun _ _ taken before => before.step taken
  exhaust_preserves stepped _ blank

/-! ## Runs -/

theorem StartsBlank.create (blank : client.StartsBlank) (profile : VendorProfile)
    (asset : AssetRequest) : (client.create profile asset).2.StartsBlank := by
  intro ref session found
  cases (session?_append rfl).mp found with
  | inl old => exact blank old
  | inr new =>
      rw [new.2]
      exact fun _ => rfl

theorem StartsBlank.perform (blank : client.StartsBlank) (action : ClientAction) :
    (client.perform action).StartsBlank := by
  cases action with
  | create profile asset => exact blank.create profile asset
  | operate action ref =>
      simp only [Client.perform]
      split
      · next live =>
          obtain ⟨session, found⟩ := session?_of_isLive live
          exact blank.operate found action
      · exact blank
  | dispatch datagram => exact blank.receiveBytes StartsBlank.arrival datagram
  | advance duration => exact blank.advance duration
  | ringFirst duration =>
      simp only [Client.perform]
      cases stepped : client.step (client.courier.agenda.now + duration) with
      | none => exact blank
      | some next => exact blank.step stepped
  | setRefusals _ | setFaults _ | seedTransaction _ => exact blank

theorem StartsBlank.start (settings : ClientSettings) : (Client.start settings).StartsBlank :=
  fun _ _ found => nomatch (session?_start settings _).symm.trans found

/-- In every run, sessions that may still be granted have learned nothing. -/
theorem StartsBlank.run (blank : client.StartsBlank) (actions : List ClientAction) :
    (client.run actions).StartsBlank := by
  induction actions generalizing client with
  | nil => exact blank
  | cons action rest ih => exact ih (blank.perform action)

end Client
end OnDemand
