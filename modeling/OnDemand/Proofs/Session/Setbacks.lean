import OnDemand.Proofs.Request.Refusals
import OnDemand.Proofs.Session.Access
import OnDemand.Proofs.Session.Indication

/-!
# Operations that fail

An operation that fails before it has drawn a transaction does nothing.  One whose message is not
sent has marked the session for its confirm, and unmarks it again.  What the session awaited of the
same kind is unmarked as well, and the courier takes back whatever waits in the transaction that
was drawn.  Apart from these two the session is left as it was, with its requests, its timers and
its route.
-/

namespace OnDemand

namespace Courier

variable {courier next : Courier} {message : Signal} {retries : Nat} {session : UInt32}
  {owner : Nat} {cause : SubmitError}

/-- The requests of a session and their message timers stay as they are. -/
structure SparesOf (session : UInt32) (courier next : Courier) : Prop where
  requests : ∀ {transaction request}, request.session = session →
    (next.pending.get? transaction = some request ↔
      courier.pending.get? transaction = some request)
  timers : ∀ {alarm transaction request}, courier.pending.get? transaction = some request →
    request.session = session → alarm.task = .unanswered transaction →
    (alarm ∈ next.agenda.alarms ↔ alarm ∈ courier.agenda.alarms)

/-- Whether a request of a session waits in a transaction. -/
def Holds (session transaction : UInt32) (courier : Courier) : Prop :=
  ∃ request, courier.pending.get? transaction = some request ∧ request.session = session

theorem SparesOf.refl (session : UInt32) (courier : Courier) : SparesOf session courier courier :=
  ⟨fun _ => Iff.rfl, fun _ _ _ => Iff.rfl⟩

theorem Unmoved.sparesOf (unmoved : courier.Unmoved next) (session : UInt32) :
    SparesOf session courier next where
  requests _ := by rw [unmoved.pending]
  timers _ _ _ := by rw [unmoved.alarms]

/-- A request that is gone takes nothing of other sessions with it. -/
theorem Forgets.sparesOf {transaction : UInt32} (forgets : Forgets transaction courier next)
    (sound : courier.Sound) (foreign : ¬ courier.Holds session transaction) :
    SparesOf session courier next where
  requests {other request} own := by
    rw [forgets.pending]
    refine and_iff_left_of_imp ?_
    rintro found rfl
    exact foreign ⟨request, found, own⟩
  timers {alarm other request} found own task := by
    refine (forgets.spares sound ?_).timers task
    rintro _ _ rfl
    exact foreign ⟨request, found, own⟩

/-- A submission that fails leaves the requests of a session alone, unless it displaces one of
them. -/
theorem Failure.sparesOf_iff (failure : Failure message retries session owner courier cause next)
    (sound : courier.Sound) (other : UInt32) :
    SparesOf other courier next ↔
      ¬ (cause = .refused ∧ retries ≠ 0 ∧ courier.Holds other message.transaction) := by
  constructor
  · rintro spares ⟨rfl, repeated, request, found, own⟩
    have displaces : courier.Displaces message retries .refused :=
      ⟨rfl, repeated, by rw [isPending, found, Option.isSome_some]⟩
    have left := (spares.requests own).mpr found
    exact ((failure.forgets sound displaces).pending.mp left).2 rfl
  · intro intact
    by_cases displaces : courier.Displaces message retries cause
    · exact (failure.forgets sound displaces).sparesOf sound
        fun holds => intact ⟨displaces.1, displaces.2.1, holds⟩
    · exact (failure.unmoved sound displaces).sparesOf other

/-- A submission that fails leaves keep-alive alarms alone. -/
theorem Failure.mem_alarms (failure : Failure message retries session owner courier cause next)
    (sound : courier.Sound) {alarm : Alarm Reminder} {ref : Nat}
    (task : alarm.task = .keepAlive ref) :
    alarm ∈ next.agenda.alarms ↔ alarm ∈ courier.agenda.alarms := by
  by_cases displaces : courier.Displaces message retries cause
  · rw [(failure.forgets sound displaces).alarms]
    refine and_iff_left_of_imp fun waits _ request found _ => ?_
    exact sound.handle_ne_alarm waits task found
  · rw [(failure.unmoved sound displaces).alarms]

end Courier

/-- What the owner of a session can have sent for it, its release apart. -/
inductive SessionRequest where
  | setup
  | connect
  | sendKeepAlive
  | requestStatus
  | reset
  deriving Repr, DecidableEq

namespace SessionRequest

/-- What a session awaits a confirm of the same kind in. -/
def awaited (session : Session) : SessionRequest → Option UInt32
  | setup => session.setup
  | requestStatus => session.status
  | reset => session.reset
  | connect | sendKeepAlive => none

/-- How often the request is repeated. -/
def retries (settings : ClientSettings) (session : Session) : SessionRequest → Nat
  | setup => session.profile.setupRetries settings.retryCount
  | requestStatus | reset => settings.retryCount.toNat
  | connect | sendKeepAlive => 0

/-- A session for which the request could not be sent. -/
def undo (session : Session) : SessionRequest → Session
  | setup => { session with state := .idle, setup := none }
  | requestStatus => { session with status := none }
  | reset => { session with reset := none }
  | connect | sendKeepAlive => session

/-- A session that awaits no confirm of the kind is left as it was, and only such a session. -/
theorem undo_eq_self_iff {request : SessionRequest} {session : Session}
    (idle : request = .setup → session.state = .idle) :
    request.undo session = session ↔ request.awaited session = none := by
  cases request with
  | setup =>
      refine ⟨fun same => (congrArg Session.setup same).symm, fun nothing => ?_⟩
      simp only [undo, ← idle rfl]
      rw [← show session.setup = none from nothing]
  | connect => exact iff_of_true rfl rfl
  | sendKeepAlive => exact iff_of_true rfl rfl
  | requestStatus =>
      refine ⟨fun same => (congrArg Session.status same).symm, fun nothing => ?_⟩
      rw [undo, ← show session.status = none from nothing]
  | reset =>
      refine ⟨fun same => (congrArg Session.reset same).symm, fun nothing => ?_⟩
      rw [undo, ← show session.reset = none from nothing]

end SessionRequest

namespace Client

/-- Have a request of a session sent. -/
def make (request : SessionRequest) (ref : SessionRef) (client : Client) :
    Except SessionError Unit × Client :=
  match request with
  | .setup => client.setup ref
  | .connect => client.connect ref
  | .sendKeepAlive => client.sendKeepAlive ref
  | .requestStatus => client.requestStatus ref
  | .reset => client.reset ref

/-- A session is left as it was, with all that is kept for it. -/
structure Intact (ref : SessionRef) (session : Session) (client next : Client) : Prop where
  found : next.session? ref = some session
  routes : next.routes = client.routes
  requests : Courier.SparesOf session.number client.courier next.courier
  keepAlive : ∀ {alarm}, alarm.task = .keepAlive ref →
    (alarm ∈ next.courier.agenda.alarms ↔ alarm ∈ client.courier.agenda.alarms)

/-- Replies find a session and its requests as they did before. -/
structure Recognizes (ref : SessionRef) (number : UInt32) (client next : Client) : Prop where
  awaits : ∀ transaction, next.awaits ref transaction = client.awaits ref transaction
  settles : ∀ transaction reply, client.courier.Holds number transaction →
    (next.courier.acknowledgeReply transaction reply).1 =
      (client.courier.acknowledgeReply transaction reply).1

/-- What it means for a session that one of its requests fails: the request is turned down and
nothing is done, or its message is not sent and what was marked is unmarked. -/
inductive Setback (ref : SessionRef) (session : Session) (client : Client)
    (request : SessionRequest) : SessionError → Client → Prop where
  | declined {fault : SessionError}
      (unsent : ∀ cause, fault ≠ .notSubmitted cause) :
      Setback ref session client request fault client
  | undone {message : Signal} {cause : SubmitError} {next : Client}
      (transaction : message.transaction = client.drawTransaction.1)
      (idle : request = .setup → session.state = .idle)
      (found : next.session? ref = some (request.undo session))
      (routes : next.routes = client.routes)
      (failure : Courier.Failure message (request.retries client.settings session) session.number
        ref client.courier cause next.courier) :
      Setback ref session client request (.notSubmitted cause) next

/-- Whether a request that fails takes back more than was done for it: its session awaited a
confirm of the same kind, or had a request of the same transaction. -/
inductive Overreaches (session : Session) (client : Client) (request : SessionRequest) :
    SessionError → Prop where
  | unmarks {cause : SubmitError}
      (awaited : (request.awaited session).isSome) :
      Overreaches session client request (.notSubmitted cause)
  | displaces
      (repeated : request.retries client.settings session ≠ 0)
      (holds : client.courier.Holds session.number client.drawTransaction.1) :
      Overreaches session client request (.notSubmitted .refused)

variable {client next : Client} {ref : SessionRef} {session : Session} {request : SessionRequest}
  {fault : SessionError}

theorem Intact.recognizes (intact : Intact ref session client next)
    (present : client.session? ref = some session) :
    Recognizes ref session.number client next where
  awaits transaction := by rw [awaits, awaits, intact.found, present]
  settles transaction reply := by
    rintro ⟨request, found, own⟩
    simp only [Courier.acknowledgeReply, found, (intact.requests.requests own).mpr found]
    split <;> rfl

/-- A request that fails leaves its session as it was exactly when it does not overreach. -/
theorem Setback.intact_iff (setback : Setback ref session client request fault next)
    (sound : client.courier.Sound) (present : client.session? ref = some session) :
    Intact ref session client next ↔ ¬ Overreaches session client request fault := by
  cases setback with
  | declined unsent =>
      refine iff_of_true ⟨present, rfl, .refl _ _, fun _ => Iff.rfl⟩ ?_
      rintro (_ | _)
      · exact unsent _ rfl
      · exact unsent _ rfl
  | undone transaction idle found routes failure =>
      constructor
      · rintro ⟨same, _, spares, _⟩ (awaited | ⟨repeated, holds⟩)
        · have undone := Option.some.inj (found.symm.trans same)
          rw [(SessionRequest.undo_eq_self_iff idle).mp undone] at awaited
          cases awaited
        · refine (failure.sparesOf_iff sound _).mp spares ⟨rfl, repeated, ?_⟩
          rwa [transaction]
      · intro modest
        have nothing : request.awaited session = none := by
          rw [← Option.not_isSome_iff_eq_none]
          exact fun awaited => modest (.unmarks awaited)
        refine ⟨?_, routes, ?_, failure.mem_alarms sound⟩
        · rw [found, (SessionRequest.undo_eq_self_iff idle).mpr nothing]
        · rw [failure.sparesOf_iff sound, transaction]
          rintro ⟨rfl, repeated, holds⟩
          exact modest (.displaces repeated holds)

/-! ## Each request -/

/-- A request for which a session was marked is not sent. -/
theorem Setback.ask {mark unmark : Session → Session} {message : Signal} {retries : Nat}
    (present : client.session? ref = some session)
    (transaction : message.transaction = client.drawTransaction.1)
    (idle : request = .setup → session.state = .idle)
    (undoes : unmark (mark session) = request.undo session)
    (repeats : retries = request.retries client.settings session)
    (failed : (match client.asking ref mark session message retries with
      | (.ok (), next) => ((.ok (), next) : Except SessionError Unit × Client)
      | (.error cause, next) => (.error (.notSubmitted cause), next.modify ref unmark)).1 =
        .error fault) :
    Setback ref session client request fault
      (match client.asking ref mark session message retries with
        | (.ok (), next) => ((.ok (), next) : Except SessionError Unit × Client)
        | (.error cause, next) => (.error (.notSubmitted cause), next.modify ref unmark)).2 := by
  split at failed
  · cases failed
  · next cause next outcome =>
      cases failed
      have unsent : (client.courier.submit message retries session.number ref).1 = .error cause :=
        congrArg Prod.fst outcome
      obtain rfl : _ = next := congrArg Prod.snd outcome
      have marked : (client.asking ref mark session message retries).2.session? ref =
          some (mark session) := session?_asking present
      refine .undone transaction idle ?_ rfl (repeats ▸ Courier.failure_of_submit unsent)
      rw [session?_modify_self marked, undoes]

/-- A request that the state of the session may bar. -/
theorem Setback.guarded {barred : Prop} [Decidable barred] {early : SessionError}
    {attempt : Except SessionError Unit × Client} (unsent : ∀ cause, early ≠ .notSubmitted cause)
    (allowed : ¬ barred → attempt.1 = .error fault →
      Setback ref session client request fault attempt.2)
    (failed : (if barred then (.error early, client) else attempt).1 = .error fault) :
    Setback ref session client request fault
      (if barred then (.error early, client) else attempt).2 := by
  split at failed
  · next barred =>
      cases failed
      rw [if_pos barred]
      exact .declined unsent
  · next free =>
      rw [if_neg free]
      exact allowed free failed

/-- A request that is not repeated is not sent, and the session was not marked for it. -/
theorem Setback.once {message : Signal} {cause : SubmitError}
    (present : client.session? ref = some session)
    (transaction : message.transaction = client.drawTransaction.1)
    (idle : request = .setup → session.state = .idle)
    (unmarked : request.undo session = session)
    (single : request.retries client.settings session = 0)
    (unsent : (client.drawTransaction.2.submit ref session message 0).1 = .error cause) :
    Setback ref session client request (.notSubmitted cause)
      (client.drawTransaction.2.submit ref session message 0).2 := by
  refine .undone transaction idle (unmarked.symm ▸ present) rfl ?_
  rw [single]
  exact Courier.failure_of_submit unsent

theorem Setback.setup (present : client.session? ref = some session)
    (failed : (client.setup ref).1 = .error fault) :
    Setback ref session client .setup fault (client.setup ref).2 := by
  simp only [Client.setup] at failed ⊢
  simp only [present] at failed ⊢
  refine .guarded (by rintro cause ⟨⟩) (fun idle failed => ?_) failed
  simp only [ne_eq, Decidable.not_not] at idle
  split at failed
  · next unencodable encoded =>
      cases failed
      exact .declined (by rintro cause ⟨⟩)
  · exact .ask present rfl (fun _ => idle) rfl rfl failed

theorem Setback.requestStatus (present : client.session? ref = some session)
    (failed : (client.requestStatus ref).1 = .error fault) :
    Setback ref session client .requestStatus fault (client.requestStatus ref).2 := by
  simp only [Client.requestStatus] at failed ⊢
  simp only [present] at failed ⊢
  refine .guarded (by rintro cause ⟨⟩) (fun _ failed => ?_) failed
  exact .ask present rfl (by rintro ⟨⟩) rfl rfl failed

theorem Setback.reset (present : client.session? ref = some session)
    (failed : (client.reset ref).1 = .error fault) :
    Setback ref session client .reset fault (client.reset ref).2 := by
  simp only [Client.reset] at failed ⊢
  simp only [present] at failed ⊢
  refine .guarded (by rintro cause ⟨⟩) (fun _ failed => ?_) failed
  exact .ask present rfl (by rintro ⟨⟩) rfl rfl failed

theorem Setback.connect (present : client.session? ref = some session)
    (failed : (client.connect ref).1 = .error fault) :
    Setback ref session client .connect fault (client.connect ref).2 := by
  simp only [Client.connect] at failed ⊢
  simp only [present] at failed ⊢
  refine .guarded (by rintro cause ⟨⟩) (fun _ failed => ?_) failed
  split at failed
  · cases failed
  · next cause next outcome =>
      cases failed
      have unsent := congrArg Prod.fst outcome
      obtain rfl : _ = next := congrArg Prod.snd outcome
      exact .once present rfl (by rintro ⟨⟩) rfl rfl unsent

theorem Setback.sendKeepAlive (present : client.session? ref = some session)
    (failed : (client.sendKeepAlive ref).1 = .error fault) :
    Setback ref session client .sendKeepAlive fault (client.sendKeepAlive ref).2 := by
  simp only [Client.sendKeepAlive] at failed ⊢
  simp only [present] at failed ⊢
  refine .guarded (by rintro cause ⟨⟩) (fun _ failed => ?_) failed
  cases outcome : (client.sendInProgress ref session).1 with
  | ok sent =>
      simp only [outcome, resultOf] at failed
      cases failed
  | error cause =>
      simp only [outcome, resultOf] at failed
      cases failed
      exact .once present rfl (by rintro ⟨⟩) rfl rfl outcome

theorem Setback.make (present : client.session? ref = some session)
    (failed : (client.make request ref).1 = .error fault) :
    Setback ref session client request fault (client.make request ref).2 := by
  cases request with
  | setup => exact .setup present failed
  | connect => exact .connect present failed
  | sendKeepAlive => exact .sendKeepAlive present failed
  | requestStatus => exact .requestStatus present failed
  | reset => exact .reset present failed

/-- Whatever happened before, a request that fails leaves its session as it was, unless the session
already awaited a confirm of the same kind, or had a request in the transaction that is drawn.  A
session that is left as it was gets its replies as before. -/
theorem intact_make_iff (settings : ClientSettings) (actions : List ClientAction)
    {ref : SessionRef} {session : Session} {request : SessionRequest} {fault : SessionError}
    (present : ((start settings).run actions).session? ref = some session)
    (failed : (((start settings).run actions).make request ref).1 = .error fault) :
    let client := (start settings).run actions
    let next := (client.make request ref).2
    (Intact ref session client next ↔ ¬ Overreaches session client request fault) ∧
      (Intact ref session client next → Recognizes ref session.number client next) := by
  intro client next
  have steady : client.Steady :=
    (Steady.isBilled.leads (fun _ _ => trivial) (Steady.start settings)).2
  have setback : Setback ref session client request fault next := .make present failed
  exact ⟨setback.intact_iff steady.courier.toSound present, fun intact => intact.recognizes present⟩

/-- A session was asked for, and the transport refuses all that follows. -/
def refusedSetup : List ClientAction := awaitedSetup ++ [.setRefusals fun _ => true]

/-- The first status request of a session is refused, and the session goes on. -/
theorem intact_make_firstStatus :
    ∃ session, ((start sampleSettings).run refusedSetup).session? 0 = some session ∧
      (((start sampleSettings).run refusedSetup).make .requestStatus 0).1 =
        .error (.notSubmitted .refused) ∧
      Intact 0 session ((start sampleSettings).run refusedSetup)
        (((start sampleSettings).run refusedSetup).make .requestStatus 0).2 := by
  have failed : (((start sampleSettings).run refusedSetup).make .requestStatus 0).1 =
      .error (.notSubmitted .refused) := by decide +kernel
  refine ⟨_, rfl, failed, (intact_make_iff sampleSettings refusedSetup rfl failed).1.mpr ?_⟩
  rintro (awaited | ⟨_, request, found, _⟩)
  · cases awaited
  · cases found

/-- A second status request is refused, and the first is no longer awaited. -/
theorem not_intact_make_secondStatus :
    ¬ ∀ (settings : ClientSettings) (actions : List ClientAction) (ref : SessionRef)
        (session : Session) (request : SessionRequest) (fault : SessionError),
      ((start settings).run actions).session? ref = some session → session.isHeld = true →
      (((start settings).run actions).make request ref).1 = .error fault →
      Intact ref session ((start settings).run actions)
        (((start settings).run actions).make request ref).2 := by
  intro intact
  have failed : (((start sampleSettings).run (awaitedSetup ++ [.operate .requestStatus 0,
      .setRefusals fun _ => true])).make .requestStatus 0).1 =
        .error (.notSubmitted .refused) := by decide +kernel
  have found := (intact sampleSettings _ 0 _ .requestStatus _ rfl rfl failed).found
  cases congrArg Session.status (Option.some.inj found)

end Client

end OnDemand
