import OnDemand.Proofs.Request.Timers

/-!
# Submissions that fail

A submission fails because its message cannot be encoded or because the transport refuses it.
The request and its message timer are there before the first copy is sent, and are taken back
when that is refused.  What is taken back is whatever waits in the transaction of the message, so
a request that the new one has replaced does not come back: it is gone without its owner being
told.  In every other case a submission that fails changes nothing.
-/

namespace OnDemand

namespace Transport

/-- The datagrams that the transport took, latest first. -/
def delivered (transport : Transport) : List SendAttempt :=
  transport.attempts.filter (·.delivered)

/-- A datagram that is refused is none of those that were taken. -/
theorem delivered_send_of_refused {transport : Transport}
    (refused : transport.refuses transport.attempts = true) (time : Time) (sender : Option Nat)
    (ticket : Option AlarmHandle) (bytes : Bytes) :
    (transport.send time sender ticket bytes).2.delivered = transport.delivered := by
  simp only [delivered, send, refused, Bool.not_true, List.filter_cons, Bool.false_eq_true,
    if_false]

end Transport

namespace Courier

/-- The same requests wait, with the same alarms, and no further datagram was taken. -/
structure Unmoved (courier next : Courier) : Prop where
  pending : next.pending = courier.pending
  alarms : next.agenda.alarms = courier.agenda.alarms
  delivered : next.transport.delivered = courier.transport.delivered

variable {courier next : Courier} {transaction : UInt32} {request : PendingRequest}
  {message : Signal} {retries : Nat} {session : UInt32} {owner : Nat} {cause : SubmitError}

theorem isPending_eq_false_iff :
    courier.isPending transaction = false ↔ courier.pending.get? transaction = none := by
  rw [isPending, Option.isSome_eq_false_iff, Option.isNone_iff_eq_none]

/-! ## What is taken back -/

/-- What it means for a courier that a submission fails. -/
inductive Failure (message : Signal) (retries : Nat) (session : UInt32) (owner : Nat)
    (courier : Courier) : SubmitError → Courier → Prop where
  | unencodable {fault : WireError}
      (encoded : message.encode = .error fault) :
      Failure message retries session owner courier (.unencodable fault) courier
  | once {bytes : Bytes}
      (refused : courier.transport.refuses courier.transport.attempts = true)
      (once : retries = 0) :
      Failure message retries session owner courier .refused (courier.send (some owner) bytes).2
  | repeated {bytes : Bytes}
      (refused : courier.transport.refuses courier.transport.attempts = true)
      (repeated : retries ≠ 0) :
      Failure message retries session owner courier .refused
        ((courier.withFirst message.transaction
          (courier.firstRequest message bytes retries session owner)).drop message.transaction)

theorem failure_of_submit (failed : (courier.submit message retries session owner).1 =
      .error cause) :
    Failure message retries session owner courier cause
      (courier.submit message retries session owner).2 := by
  rw [submit_eq] at failed ⊢
  split at failed
  · next fault encoded =>
      cases failed
      exact .unencodable encoded
  · next bytes encoded =>
      cases refused : courier.transport.refuses courier.transport.attempts with
      | false =>
          simp only [refused, Bool.false_eq_true, if_false] at failed
          split at failed <;> cases failed
      | true =>
          simp only [refused, if_true] at failed ⊢
          split at failed
          · next once =>
              cases failed
              simp only [once, if_true]
              exact .once refused rfl
          · next repeated =>
              cases failed
              simp only [repeated, if_false]
              exact .repeated refused repeated

/-- In a transaction in which no request waits, what is kept and taken back leaves no trace. -/
theorem Sound.unmoved_drop_withFirst (sound : courier.Sound)
    (refused : courier.transport.refuses courier.transport.attempts = true)
    (absent : courier.pending.get? transaction = none)
    (fresh : request.alarm = courier.agenda.nextHandle) :
    courier.Unmoved ((courier.withFirst transaction request).drop transaction) := by
  have pending : (courier.withFirst transaction request).pending =
      courier.pending.insert transaction request := by
    simp only [withFirst, sendCopy, keep, drop, arm, absent]
  have agenda : (courier.withFirst transaction request).agenda =
      (courier.agenda.after courier.timer (.unanswered transaction)).2 := by
    simp only [withFirst, sendCopy, keep, drop, arm, absent]
  have found : (courier.withFirst transaction request).pending.get? transaction =
      some request := by
    rw [pending, KeyedList.get?_insert, if_pos rfl]
  constructor
  case pending =>
    simp only [drop, found]
    rw [pending, KeyedList.erase_insert, KeyedList.erase_of_get?_eq_none absent]
  case alarms =>
    -- what is dropped is the request itself, and its alarm is the one that was just set
    rw [drop, found]
    change ((courier.withFirst transaction request).agenda.cancel request.alarm).alarms = _
    rw [agenda, fresh, sound.agenda.alarms_cancel_after]
  case delivered =>
    rw [transport_drop, transport_withFirst, Transport.delivered_send_of_refused refused]

/-- Whether a submission that failed has taken back more than it put in: a request that was to
be repeated was refused, and another waited in its transaction. -/
def Displaces (courier : Courier) (message : Signal) (retries : Nat) (cause : SubmitError) :
    Prop :=
  cause = .refused ∧ retries ≠ 0 ∧ courier.isPending message.transaction = true

/-- A submission that fails hands no datagram over. -/
theorem Failure.delivered (failure : Failure message retries session owner courier cause next) :
    next.transport.delivered = courier.transport.delivered := by
  cases failure with
  | unencodable encoded => rfl
  | once refused once => exact Transport.delivered_send_of_refused refused _ _ _ _
  | repeated refused repeated =>
      rw [transport_drop, transport_withFirst, Transport.delivered_send_of_refused refused]

/-- A submission that fails without displacing a request changes nothing. -/
theorem Failure.unmoved (failure : Failure message retries session owner courier cause next)
    (sound : courier.Sound) (intact : ¬ courier.Displaces message retries cause) :
    courier.Unmoved next := by
  have delivered := failure.delivered
  cases failure with
  | unencodable encoded => exact ⟨rfl, rfl, delivered⟩
  | once refused once => exact ⟨rfl, rfl, delivered⟩
  | repeated refused repeated =>
      refine sound.unmoved_drop_withFirst refused (isPending_eq_false_iff.mp ?_) rfl
      exact Bool.eq_false_iff.mpr fun waits => intact ⟨rfl, repeated, waits⟩

/-- A request that is displaced is gone, and its message timer with it. -/
theorem Failure.forgets (failure : Failure message retries session owner courier cause next)
    (sound : courier.Sound) (displaces : courier.Displaces message retries cause) :
    Forgets message.transaction courier next := by
  obtain ⟨refusal, often, _⟩ := displaces
  cases failure with
  | unencodable encoded => cases refusal
  | once refused once => exact absurd once often
  | repeated refused repeated => exact sound.forgets_refused rfl

theorem Forgets.isPending (forgets : Forgets transaction courier next) :
    next.isPending transaction = false := by
  rw [isPending_eq_false_iff, Option.eq_none_iff_forall_ne_some]
  intro request found
  exact (forgets.pending.mp found).2 rfl

/-- A submission that fails changes nothing exactly when it displaces no request. -/
theorem Failure.unmoved_iff (failure : Failure message retries session owner courier cause next)
    (sound : courier.Sound) :
    courier.Unmoved next ↔ ¬ courier.Displaces message retries cause := by
  refine ⟨?_, failure.unmoved sound⟩
  intro unmoved displaces
  have gone := (failure.forgets sound displaces).isPending
  rw [isPending, unmoved.pending, ← isPending, displaces.2.2] at gone
  cases gone

end Courier

namespace RequestDesk

/-- The same requests wait, with the same alarms; no further datagram was taken and no owner was
told anything. -/
structure Unmoved (desk next : RequestDesk) : Prop where
  courier : desk.courier.Unmoved next.courier
  told : next.told = desk.told

/-- A submission that fails hands no datagram over, tells no owner, and spares all transactions
but its own.  It changes nothing at all exactly when it displaces no request; one that it
displaces is gone with its message timer. -/
theorem unmoved_submit_iff {cause : SubmitError} (timer : Time) (isAlive : Nat → Bool)
    (events : List DeskEvent) (message : Signal) (retries : Nat) (session : UInt32) (owner : Nat)
    (failed : (((start timer isAlive).undergoAll events).courier.submit message retries session
      owner).1 = .error cause) :
    let desk := (start timer isAlive).undergoAll events
    let next := desk.undergo (.act (.submit message retries session owner))
    (next.told = desk.told ∧
      next.courier.transport.delivered = desk.courier.transport.delivered ∧
      ∀ other, other ≠ message.transaction → desk.courier.Spares other next.courier) ∧
    (desk.Unmoved next ↔ ¬ desk.courier.Displaces message retries cause) ∧
    (desk.courier.Displaces message retries cause →
      Courier.Forgets message.transaction desk.courier next.courier) := by
  intro desk next
  have sound : desk.courier.Sound :=
    ((Timed.start timer isAlive).undergoAll events).sound.courier
  have failure : Courier.Failure message retries session owner desk.courier cause next.courier :=
    Courier.failure_of_submit failed
  refine ⟨⟨rfl, failure.delivered, ?_⟩, ?_, failure.forgets sound⟩
  · intro other different
    exact sound.spares_submit different retries session owner
  · rw [← failure.unmoved_iff sound]
    exact ⟨Unmoved.courier, fun unmoved => ⟨unmoved, rfl⟩⟩

/-- A request of a transaction. -/
def sampleRequest (transaction : UInt32) : Signal :=
  ⟨transaction, [], .release .request ⟨.zero, .clientRelease, {}⟩⟩

/-- A request waits, and the transport refuses all that follows. -/
def sampleRefusal : List DeskEvent :=
  [.act (.submit (sampleRequest 7) 3 1 0), .act (.setRefusals fun _ => true)]

/-- A request of a transaction of its own is refused, and the one that waits stays. -/
theorem unmoved_submit_sampleRequest :
    let desk := (start 2 fun _ => true).undergoAll sampleRefusal
    desk.Unmoved (desk.undergo (.act (.submit (sampleRequest 8) 3 1 0))) := by
  have failed : (((start 2 fun _ => true).undergoAll sampleRefusal).courier.submit
      (sampleRequest 8) 3 1 0).1 = .error .refused := by decide
  obtain ⟨-, unmoved, -⟩ := unmoved_submit_iff 2 _ sampleRefusal (sampleRequest 8) 3 1 0 failed
  exact unmoved.mpr fun displaces => absurd displaces.2.2 (by decide)

/-- A request of the transaction that waits is refused, and none waits any longer. -/
theorem not_unmoved_submit_pending :
    ¬ ∀ (timer : Time) (isAlive : Nat → Bool) (events : List DeskEvent) (message : Signal)
        (retries : Nat) (session : UInt32) (owner : Nat) (cause : SubmitError),
      (((start timer isAlive).undergoAll events).courier.submit message retries session
        owner).1 = .error cause →
      ((start timer isAlive).undergoAll events).Unmoved
        (((start timer isAlive).undergoAll events).undergo
          (.act (.submit message retries session owner))) := by
  intro unmoved
  have same := (unmoved 2 (fun _ => true) sampleRefusal (sampleRequest 7) 3 1 0 .refused
    (by decide)).courier.pending
  exact absurd same (by decide)

end RequestDesk

end OnDemand
