import Mathlib.Algebra.GroupWithZero.Nat
import OnDemand.Proofs.Request.Desk

/-!
# The life of a request

A request with retries is sent at once and again each time the message timer has run
out, as often as it has retries, unless something settles it before: a confirm, the
cancellation of its session, or another request of its transaction.  When nothing
does, its owner is told one timer after the last copy.  This does not depend on the
other requests of the courier, on what the transport refuses, or on how the passing
time is cut into advances.

A request is followed by its ticket.  While it waits, the number of copies sent says
when its alarm rings; that is the invariant that the ringing of any alarm keeps.
-/

namespace OnDemand

/-- Whether an action removes an owner. -/
def DeskAction.dismisses (owner : Nat) : DeskAction → Bool
  | .dropOwner other => other == owner
  | _ => false

/-- Whether an owner is not dismissed before the clock reaches a time. -/
def DeskAction.ownerStays (owner : Nat) (time : Time) : Time → List DeskAction → Bool
  | _, [] => true
  | now, action :: rest =>
      time ≤ now ||
        !action.dismisses owner && ownerStays owner time (now + action.duration) rest

/-- A request with retries as it was submitted. -/
structure Errand where
  transaction : UInt32
  kind : SignalKind
  bytes : Bytes
  retries : Nat
  session : UInt32
  owner : Nat
  ticket : AlarmHandle
  start : Time

namespace Errand

/-- The first copy of a request and a number of further ones. -/
def schedule (errand : Errand) (timer : Time) (further : Nat) : List (Time × Bytes) :=
  (List.range (further + 1)).map fun count => (errand.start + count * timer, errand.bytes)

/-- When the last copy has waited for as long as the others. -/
def deadline (errand : Errand) (timer : Time) : Time :=
  errand.start + (errand.retries + 1) * timer

/-- What the owner is told when nothing settles the request. -/
def notice (errand : Errand) (timer : Time) : ToldNotice :=
  ⟨errand.deadline timer, errand.owner, errand.transaction, errand.kind, errand.ticket⟩

/-- Whether an action settles the request. -/
def isSettledBy (errand : Errand) (action : DeskAction) : Bool :=
  action.settles errand.transaction errand.kind errand.session

/-- When the first action settles the request, or when the last action is done. -/
def closing (errand : Errand) (now : Time) (actions : List DeskAction) : Time :=
  now + ((actions.takeWhile (!errand.isSettledBy ·)).map DeskAction.duration).sum

/-- Whether a desk still holds the request. -/
def IsHeld (errand : Errand) (desk : RequestDesk) : Prop :=
  ∃ transaction request, desk.courier.pending.get? transaction = some request ∧
    request.ticket = errand.ticket

/-- What has become of a request that waited at some time, after further actions. -/
structure Fate (errand : Errand) (timer : Time) (isAlive : Bool) (now : Time)
    (later : List DeskAction) (desk : RequestDesk) : Prop where
  /-- A copy was sent each time the timer ran out before the request was settled, as long
  as retries were left. -/
  copies : desk.courier.transport.copies errand.ticket =
    errand.schedule timer
      (min errand.retries ((errand.closing now later - errand.start) / timer))
  /-- It is kept until it is settled or its deadline comes. -/
  held : errand.IsHeld desk ↔
    (∀ action ∈ later, errand.isSettledBy action = false) ∧
      errand.closing now later < errand.deadline timer
  /-- Its owner, if still there, was told at the deadline, unless it was settled before. -/
  notices : desk.notices errand.ticket =
    if errand.deadline timer ≤ errand.closing now later ∧ isAlive ∧
        DeskAction.ownerStays errand.owner (errand.deadline timer) now later
    then [errand.notice timer] else []

/-! ## Requests that are over -/

/-- The request is over, after some copies and notices. -/
structure Over (errand : Errand) (copies : List (Time × Bytes)) (notices : List ToldNotice)
    (desk : RequestDesk) : Prop where
  issued : errand.ticket < desk.courier.agenda.nextHandle
  gone : ¬ errand.IsHeld desk
  copies : desk.courier.transport.copies errand.ticket = copies
  notices : desk.notices errand.ticket = notices

variable {errand : Errand} {desk next : RequestDesk} {timer limit : Time}
  {copies : List (Time × Bytes)} {notices : List ToldNotice}

theorem notices_tell_of_ne {notice : FailureNotice} (other : notice.ticket ≠ errand.ticket) :
    (desk.tell notice).notices errand.ticket = desk.notices errand.ticket := by
  simp only [RequestDesk.tell]
  split
  · simp only [RequestDesk.notices, List.filter_cons, other, decide_false, Bool.false_eq_true,
      if_false]
  · rfl

namespace Over

theorem deed (ended : errand.Over copies notices desk)
    {settled : UInt32 → PendingRequest → Prop} (deed : desk.Deed settled next) :
    errand.Over copies notices next := by
  cases deed with
  | drops drops now sent same =>
      refine ⟨Nat.lt_of_lt_of_le ended.issued drops.nextHandle, ?_, ?_, ended.notices⟩
      · rintro ⟨transaction, request, found, ticket⟩
        exact ended.gone ⟨transaction, request, (drops.pending.mp found).1, ticket⟩
      · exact (same _ ended.issued).trans ended.copies
  | keeps keeps issued replaces now sent same =>
      refine ⟨?_, ?_, ?_, ended.notices⟩
      · exact keeps.nextHandle ▸ Nat.lt_succ_of_lt ended.issued
      · rintro ⟨transaction, request, found, ticket⟩
        rw [keeps.pending] at found
        split at found
        · cases found
          exact Nat.ne_of_lt ended.issued (ticket ▸ issued)
        · exact ended.gone ⟨transaction, request, found, ticket⟩
      · exact (same _ ended.issued).trans ended.copies

theorem turn (ended : errand.Over copies notices desk) {alarm : Alarm Reminder}
    {agenda : Agenda Reminder}
    (popped : desk.courier.agenda.popDue? limit = some (alarm, agenda))
    (turn : desk.Turn alarm agenda next) : errand.Over copies notices next := by
  cases turn with
  | keepAlive task =>
      have nextHandle := Agenda.nextHandle_popDue? popped
      exact ⟨nextHandle ▸ ended.issued, ended.gone, ended.copies, ended.notices⟩
  | @givenUp transaction request courier found timed spent forgets now transport =>
      have other : request.ticket ≠ errand.ticket :=
        fun same => ended.gone ⟨transaction, request, found, same⟩
      refine ⟨?_, ?_, ?_, ?_⟩
      · rw [RequestDesk.courier_tell]
        exact Nat.lt_of_lt_of_le ended.issued forgets.nextHandle
      · rintro ⟨transaction, request, found, ticket⟩
        rw [RequestDesk.courier_tell] at found
        exact ended.gone ⟨transaction, request, (forgets.pending.mp found).1, ticket⟩
      · rw [RequestDesk.courier_tell]
        exact (congrArg _ transport).trans ended.copies
      · rw [notices_tell_of_ne other]
        exact ended.notices
  | @sentAgain transaction request courier found timed left keeps now transport =>
      have other : request.ticket ≠ errand.ticket :=
        fun same => ended.gone ⟨transaction, request, found, same⟩
      refine ⟨keeps.nextHandle ▸ Nat.lt_succ_of_lt ended.issued, ?_, ?_, ended.notices⟩
      · rintro ⟨transaction, request, found, ticket⟩
        rw [keeps.pending] at found
        split at found
        · cases found
          exact other ticket
        · exact ended.gone ⟨transaction, request, found, ticket⟩
      · rw [transport, Transport.copies_send, if_neg, List.append_nil]
        · exact ended.copies
        · exact fun same => other (Option.some.inj same)

theorem perform (ended : errand.Over copies notices desk) (resting : desk.Resting timer)
    (action : DeskAction) : errand.Over copies notices (desk.perform action) := by
  by_cases instant : ∀ duration, action ≠ .advance duration
  · exact ended.deed (resting.sound.deed_perform instant)
  · push Not at instant
    obtain ⟨duration, rfl⟩ := instant
    obtain ⟨rung, _, rungOver, _, advanced⟩ := RequestDesk.advance_induction resting.sound
      resting.timer resting.resting.punctual (errand.Over copies notices)
      (fun _ ended popped turn => ended.turn popped turn) ended
    change errand.Over copies notices (desk.advance duration)
    rw [advanced]
    exact ⟨rungOver.issued, rungOver.gone, rungOver.copies, rungOver.notices⟩

/-- Nothing that happens later adds a copy or a notice. -/
theorem run (ended : errand.Over copies notices desk) (resting : desk.Resting timer)
    (positive : 0 < timer) (actions : List DeskAction) :
    errand.Over copies notices (desk.run actions) := by
  induction actions generalizing desk with
  | nil => exact ended
  | cons action rest ih => exact ih (ended.perform resting action) (resting.perform positive action)

end Over

/-! ## Requests that wait -/

/-- The request waits after its first copy and a number of further ones. -/
structure Waiting (errand : Errand) (timer : Time) (further : Nat) (desk : RequestDesk) :
    Prop where
  le : further ≤ errand.retries
  issued : errand.ticket < desk.courier.agenda.nextHandle
  /-- The request is kept, and its alarm is the one that follows its last copy. -/
  kept : ∃ alarm, desk.courier.pending.get? errand.transaction =
      some ⟨errand.kind, errand.bytes, errand.retries - further, errand.session, errand.owner,
        alarm, errand.ticket⟩ ∧
    ⟨errand.start + (further + 1) * timer, alarm, .unanswered errand.transaction⟩ ∈
      desk.courier.agenda.alarms
  only : ∀ {transaction request}, desk.courier.pending.get? transaction = some request →
    request.ticket = errand.ticket → transaction = errand.transaction
  copies : desk.courier.transport.copies errand.ticket = errand.schedule timer further
  notices : desk.notices errand.ticket = []
  since : errand.start + further * timer ≤ desk.courier.agenda.now

variable {further : Nat}

theorem schedule_succ (errand : Errand) (timer : Time) (further : Nat) :
    errand.schedule timer (further + 1) =
      errand.schedule timer further ++ [(errand.start + (further + 1) * timer, errand.bytes)] := by
  rw [schedule, List.range_succ, List.map_append, schedule]
  rfl

namespace Waiting

theorem isHeld (waiting : errand.Waiting timer further desk) : errand.IsHeld desk := by
  obtain ⟨alarm, found, _⟩ := waiting.kept
  exact ⟨_, _, found, rfl⟩

/-- An action that settles the request ends it where it stands. -/
theorem over_of_deed (waiting : errand.Waiting timer further desk)
    {settled : UInt32 → PendingRequest → Prop} (deed : desk.Deed settled next)
    (settles : ∀ request, desk.courier.pending.get? errand.transaction = some request →
      settled errand.transaction request) :
    errand.Over (errand.schedule timer further) [] next := by
  cases deed with
  | drops drops now sent same =>
      refine ⟨Nat.lt_of_lt_of_le waiting.issued drops.nextHandle, ?_, ?_, waiting.notices⟩
      · rintro ⟨transaction, request, found, ticket⟩
        obtain ⟨found, stays⟩ := drops.pending.mp found
        cases waiting.only found ticket
        exact stays (settles request found)
      · exact (same _ waiting.issued).trans waiting.copies
  | keeps keeps issued replaces now sent same =>
      obtain ⟨alarm, kept, _⟩ := waiting.kept
      have replaced := (replaces _ _).mp (settles _ kept)
      refine ⟨keeps.nextHandle ▸ Nat.lt_succ_of_lt waiting.issued, ?_, ?_, waiting.notices⟩
      · rintro ⟨transaction, request, found, ticket⟩
        rw [keeps.pending] at found
        split at found
        · cases found
          exact Nat.ne_of_lt waiting.issued (ticket ▸ issued)
        · next different =>
            cases waiting.only found ticket
            exact different replaced
      · exact (same _ waiting.issued).trans waiting.copies

/-- Any other action leaves the request waiting. -/
theorem deed (waiting : errand.Waiting timer further desk)
    {settled : UInt32 → PendingRequest → Prop} (deed : desk.Deed settled next)
    (sound : desk.Sound)
    (spares : ∀ request, desk.courier.pending.get? errand.transaction = some request →
      ¬ settled errand.transaction request) :
    errand.Waiting timer further next := by
  obtain ⟨alarm, kept, set⟩ := waiting.kept
  cases deed with
  | drops drops now sent same =>
      refine ⟨waiting.le, Nat.lt_of_lt_of_le waiting.issued drops.nextHandle, ⟨alarm, ?_, ?_⟩, ?_,
        (same _ waiting.issued).trans waiting.copies, waiting.notices, now ▸ waiting.since⟩
      · exact drops.pending.mpr ⟨kept, spares _ kept⟩
      · refine drops.alarms.mpr ⟨set, ?_⟩
        intro transaction request found gone own
        cases sound.courier.eq_of_alarm_eq kept found own
        exact spares request found gone
      · exact fun found => waiting.only (drops.pending.mp found).1
  | @keeps transaction request courier keeps issued replaces now sent same =>
      have different : errand.transaction ≠ transaction := by
        intro same
        exact spares _ kept ((replaces _ _).mpr same)
      refine ⟨waiting.le, keeps.nextHandle ▸ Nat.lt_succ_of_lt waiting.issued, ⟨alarm, ?_, ?_⟩,
        ?_, (same _ waiting.issued).trans waiting.copies, waiting.notices, now ▸ waiting.since⟩
      · rw [keeps.pending, if_neg different]
        exact kept
      · refine keeps.alarms.mpr (.inr ⟨set, ?_⟩)
        intro replaced found own
        exact different (sound.courier.eq_of_alarm_eq kept found own)
      · intro other found present ticket
        rw [keeps.pending] at present
        split at present
        · cases present
          exact absurd (ticket.symm.trans issued) (Nat.ne_of_lt waiting.issued)
        · exact waiting.only present ticket

/-- The alarm of the request is the one that follows its last copy. -/
theorem eq_of_timed (waiting : errand.Waiting timer further desk) (sound : desk.Sound)
    {alarm : Alarm Reminder} {request : PendingRequest}
    (found : desk.courier.pending.get? errand.transaction = some request)
    (set : alarm ∈ desk.courier.agenda.alarms) (timed : request.alarm = alarm.handle) :
    request = ⟨errand.kind, errand.bytes, errand.retries - further, errand.session, errand.owner,
      alarm.handle, errand.ticket⟩ ∧
    alarm.deadline = errand.start + (further + 1) * timer := by
  obtain ⟨handle, kept, own⟩ := waiting.kept
  rw [kept] at found
  cases found
  subst timed
  refine ⟨rfl, ?_⟩
  rw [sound.courier.agenda.eq_of_handle_eq set own rfl]

end Waiting

/-- The request was given up at its deadline, and its owner told if it was there. -/
structure GivenUp (errand : Errand) (timer : Time) (isAlive : Bool) (desk : RequestDesk) :
    Prop where
  ended : errand.Over (errand.schedule timer errand.retries)
    (if isAlive then [errand.notice timer] else []) desk
  since : errand.deadline timer ≤ desk.courier.agenda.now

/-- While alarms ring, the request waits or was given up. -/
inductive InProgress (errand : Errand) (timer : Time) (isAlive : Bool) (desk : RequestDesk) :
    Prop where
  | waiting {further : Nat} (waiting : errand.Waiting timer further desk)
  | givenUp (givenUp : errand.GivenUp timer isAlive desk)

namespace Waiting

/-- The request is given up once no retries are left, and the clock stands at its
deadline. -/
theorem turn_givenUp (waiting : errand.Waiting timer further desk) {alarm : Alarm Reminder}
    {request : PendingRequest} {courier : Courier}
    (eq : request = ⟨errand.kind, errand.bytes, errand.retries - further, errand.session,
      errand.owner, alarm.handle, errand.ticket⟩)
    (spent : request.retriesLeft = 0)
    (forgets : Courier.Forgets errand.transaction desk.courier courier)
    (now : courier.agenda.now = errand.start + (further + 1) * timer)
    (transport : courier.transport = desk.courier.transport) :
    errand.GivenUp timer (desk.isAlive errand.owner) ({ desk with courier }.tell
      ⟨request.owner, errand.transaction, request.kind, request.ticket⟩) := by
  subst eq
  have last : further = errand.retries := by
    have le := waiting.le
    simp only at spent
    omega
  have deadline : courier.agenda.now = errand.deadline timer := by
    rw [now, last, Errand.deadline]
  refine ⟨⟨?_, ?_, ?_, ?_⟩, ?_⟩
  · rw [RequestDesk.courier_tell]
    exact Nat.lt_of_lt_of_le waiting.issued forgets.nextHandle
  · rintro ⟨transaction, request, found, ticket⟩
    rw [RequestDesk.courier_tell] at found
    obtain ⟨found, different⟩ := forgets.pending.mp found
    exact different (waiting.only found ticket)
  · rw [RequestDesk.courier_tell, ← last]
    exact (congrArg _ transport).trans waiting.copies
  · have none : desk.told.filter (·.notice.ticket = errand.ticket) = [] :=
      List.reverse_eq_nil_iff.mp waiting.notices
    simp only [RequestDesk.tell]
    by_cases alive : desk.isAlive errand.owner
    · simp only [RequestDesk.notices, alive, if_true, List.filter_cons, decide_true, none,
        List.reverse_singleton, deadline, Errand.notice]
    · simp only [RequestDesk.notices, alive, none, Bool.false_eq_true, if_false, List.reverse_nil]
  · rw [RequestDesk.courier_tell]
    exact Nat.le_of_eq deadline.symm

/-- While retries are left, another copy is sent and waits for as long as the others. -/
theorem turn_sentAgain (waiting : errand.Waiting timer further desk) {alarm : Alarm Reminder}
    {request : PendingRequest} {courier : Courier} {time : Time}
    (eq : request = ⟨errand.kind, errand.bytes, errand.retries - further, errand.session,
      errand.owner, alarm.handle, errand.ticket⟩)
    (left : request.retriesLeft ≠ 0)
    (keeps : Courier.Keeps errand.transaction
      { request with
        retriesLeft := request.retriesLeft - 1
        alarm := desk.courier.agenda.nextHandle }
      (time + timer) desk.courier courier)
    (rung : time = errand.start + (further + 1) * timer)
    (now : courier.agenda.now = time)
    (transport : courier.transport = (desk.courier.transport.send time
      (some request.owner) (some request.ticket) request.bytes).2) :
    errand.Waiting timer (further + 1) { desk with courier } := by
  subst eq rung
  have more : further + 1 ≤ errand.retries := by
    simp only at left
    omega
  refine ⟨more, keeps.nextHandle ▸ Nat.lt_succ_of_lt waiting.issued,
    ⟨desk.courier.agenda.nextHandle, ?_, ?_⟩, ?_, ?_, waiting.notices, Nat.le_of_eq now.symm⟩
  · rw [keeps.pending, if_pos rfl, Nat.sub_sub]
  · refine keeps.alarms.mpr (.inl ?_)
    rw [Nat.add_mul (further + 1) 1, Nat.one_mul, Nat.add_assoc]
  · intro other found present ticket
    rw [keeps.pending] at present
    split at present
    · assumption
    · exact waiting.only present ticket
  · rw [transport, Transport.copies_send, if_pos rfl, waiting.copies, schedule_succ]

/-- The alarm of another request leaves the request waiting. -/
theorem turn_of_ne (waiting : errand.Waiting timer further desk) (sound : desk.Sound)
    {alarm : Alarm Reminder} {agenda : Agenda Reminder}
    (popped : desk.courier.agenda.popDue? limit = some (alarm, agenda))
    (turn : desk.Turn alarm agenda next)
    (other : ∀ request, desk.courier.pending.get? errand.transaction = some request →
      request.alarm ≠ alarm.handle) :
    errand.Waiting timer further next := by
  obtain ⟨handle, kept, set⟩ := waiting.kept
  have later : errand.start + further * timer ≤ agenda.now := by
    obtain ⟨_, _, _, rfl⟩ := Agenda.popDue?_eq_some_iff.mp popped
    exact Nat.le_trans waiting.since (Nat.le_max_left _ _)
  have nextHandle := Agenda.nextHandle_popDue? popped
  cases turn with
  | keepAlive task =>
      refine ⟨waiting.le, nextHandle ▸ waiting.issued, ⟨handle, kept, ?_⟩, waiting.only,
        waiting.copies, waiting.notices, later⟩
      exact (sound.courier.agenda.mem_alarms_popDue? popped).mpr ⟨set, other _ kept⟩
  | @givenUp transaction request courier found timed spent forgets now transport =>
      have different : transaction ≠ errand.transaction := by
        rintro rfl
        exact other request found timed
      have ticket : request.ticket ≠ errand.ticket :=
        fun same => different (waiting.only found same)
      refine ⟨waiting.le, ?_, ⟨handle, ?_, ?_⟩, ?_, ?_, ?_, ?_⟩
      · rw [RequestDesk.courier_tell]
        exact Nat.lt_of_lt_of_le waiting.issued forgets.nextHandle
      · rw [RequestDesk.courier_tell]
        exact forgets.pending.mpr ⟨kept, different.symm⟩
      · rw [RequestDesk.courier_tell]
        refine forgets.alarms.mpr ⟨set, ?_⟩
        rintro _ replaced present rfl own
        exact different (sound.courier.eq_of_alarm_eq kept present own).symm
      · intro other found present
        rw [RequestDesk.courier_tell] at present
        exact waiting.only (forgets.pending.mp present).1
      · rw [RequestDesk.courier_tell]
        exact (congrArg _ transport).trans waiting.copies
      · rw [notices_tell_of_ne ticket]
        exact waiting.notices
      · rw [RequestDesk.courier_tell]
        exact now ▸ later
  | @sentAgain transaction request courier found timed left keeps now transport =>
      have different : transaction ≠ errand.transaction := by
        rintro rfl
        exact other request found timed
      have ticket : request.ticket ≠ errand.ticket :=
        fun same => different (waiting.only found same)
      refine ⟨waiting.le, keeps.nextHandle ▸ Nat.lt_succ_of_lt waiting.issued,
        ⟨handle, ?_, ?_⟩, ?_, ?_, waiting.notices, now ▸ later⟩
      · rw [keeps.pending, if_neg different.symm]
        exact kept
      · refine keeps.alarms.mpr (.inr ⟨set, ?_⟩)
        intro replaced present own
        exact different (sound.courier.eq_of_alarm_eq kept present own).symm
      · intro other found present same
        rw [keeps.pending] at present
        split at present
        · cases present
          exact absurd same ticket
        · exact waiting.only present same
      · rw [transport, Transport.copies_send, if_neg, List.append_nil]
        · exact waiting.copies
        · exact fun same => ticket (Option.some.inj same)

/-- The turn of any alarm leaves the request in progress. -/
theorem turn (waiting : errand.Waiting timer further desk) (ringing : desk.Ringing timer limit)
    {alarm : Alarm Reminder} {agenda : Agenda Reminder}
    (popped : desk.courier.agenda.popDue? limit = some (alarm, agenda))
    (turn : desk.Turn alarm agenda next) :
    errand.InProgress timer (desk.isAlive errand.owner) next := by
  by_cases own : ∃ request, desk.courier.pending.get? errand.transaction = some request ∧
      request.alarm = alarm.handle
  · obtain ⟨request, found, timed⟩ := own
    have sound := ringing.sound
    have set := Agenda.mem_alarms_of_popDue? popped
    obtain ⟨eq, deadline⟩ := waiting.eq_of_timed sound found set timed
    have clock := (ringing.punctual.popDue? sound.courier.agenda popped).1.trans deadline
    cases turn with
    | keepAlive task =>
        obtain ⟨other, otherSet, handle, otherTask⟩ := sound.courier.timed found
        rw [sound.courier.agenda.eq_of_handle_eq set otherSet (timed.symm.trans handle.symm),
          otherTask] at task
        cases task
    | givenUp rungFound rungTimed spent forgets now transport =>
        cases sound.courier.eq_of_alarm_eq found rungFound (timed.trans rungTimed.symm)
        cases found.symm.trans rungFound
        exact .givenUp (waiting.turn_givenUp eq spent forgets (now.trans clock) transport)
    | sentAgain rungFound rungTimed left keeps now transport =>
        cases sound.courier.eq_of_alarm_eq found rungFound (timed.trans rungTimed.symm)
        cases found.symm.trans rungFound
        rw [ringing.timer] at keeps
        exact .waiting (waiting.turn_sentAgain eq left keeps clock now transport)
  · exact .waiting (waiting.turn_of_ne ringing.sound popped turn
      fun request found timed => own ⟨request, found, timed⟩)

end Waiting

/-- Owners come and go by actions, not by alarms. -/
theorem isAlive_turn {alarm : Alarm Reminder} {agenda : Agenda Reminder}
    (turn : desk.Turn alarm agenda next) : next.isAlive = desk.isAlive := by
  cases turn with
  | keepAlive task => rfl
  | givenUp found timed spent forgets now transport =>
      simp only [RequestDesk.tell]
      split <;> rfl
  | sentAgain found timed left keeps now transport => rfl

namespace InProgress

variable {isAlive : Bool}

theorem turn (progress : errand.InProgress timer isAlive desk)
    (alive : desk.isAlive errand.owner = isAlive) (ringing : desk.Ringing timer limit)
    {alarm : Alarm Reminder} {agenda : Agenda Reminder}
    (popped : desk.courier.agenda.popDue? limit = some (alarm, agenda))
    (turn : desk.Turn alarm agenda next) :
    errand.InProgress timer isAlive next ∧ next.isAlive errand.owner = isAlive := by
  refine ⟨?_, (congrFun (isAlive_turn turn) _).trans alive⟩
  cases progress with
  | waiting waiting => exact alive ▸ waiting.turn ringing popped turn
  | givenUp givenUp =>
      refine .givenUp ⟨givenUp.ended.turn popped turn, ?_⟩
      obtain ⟨_, _, _, rest⟩ := Agenda.popDue?_eq_some_iff.mp popped
      rw [turn.now_eq, rest]
      exact Nat.le_trans givenUp.since (Nat.le_max_left _ _)

/-- An advance leaves the request in progress and moves the clock. -/
theorem advance (progress : errand.InProgress timer isAlive desk)
    (alive : desk.isAlive errand.owner = isAlive) (resting : desk.Resting timer)
    (duration : Time) :
    errand.InProgress timer isAlive (desk.advance duration) ∧
      (desk.advance duration).isAlive errand.owner = isAlive ∧
      (desk.advance duration).courier.agenda.now = desk.courier.agenda.now + duration := by
  obtain ⟨rung, ringing, ⟨progress, alive⟩, _, advanced⟩ :=
    RequestDesk.advance_induction resting.sound resting.timer resting.resting.punctual
      (fun next => errand.InProgress timer isAlive next ∧ next.isAlive errand.owner = isAlive)
      (fun ringing both popped turn => both.1.turn both.2 ringing popped turn)
      ⟨progress, alive⟩
  rw [advanced]
  refine ⟨?_, alive, rfl⟩
  cases progress with
  | waiting waiting =>
      refine .waiting ⟨waiting.le, waiting.issued, waiting.kept, waiting.only, waiting.copies,
        waiting.notices, ?_⟩
      exact Nat.le_trans waiting.since ringing.before
  | givenUp givenUp =>
      have ended := givenUp.ended
      exact .givenUp ⟨⟨ended.issued, ended.gone, ended.copies, ended.notices⟩,
        Nat.le_trans givenUp.since ringing.before⟩

end InProgress

/-! ## The whole life of a request -/

theorem ownerStays_of_le {owner : Nat} {time now : Time} (reached : time ≤ now)
    (actions : List DeskAction) : DeskAction.ownerStays owner time now actions = true := by
  cases actions with
  | nil => rfl
  | cons action rest => simp only [DeskAction.ownerStays, reached, decide_true, Bool.true_or]

theorem isAlive_perform {action : DeskAction} (owner : Nat)
    (instant : ∀ duration, action ≠ .advance duration) :
    (desk.perform action).isAlive owner = (desk.isAlive owner && !action.dismisses owner) := by
  cases action with
  | advance duration => exact absurd rfl (instant duration)
  | dropOwner other =>
      simp only [RequestDesk.perform, RequestDesk.dropOwner, DeskAction.dismisses]
      rw [Bool.and_comm]
      congr 1
      by_cases same : owner = other
      · simp [same]
      · simp [same, Ne.symm same]
  | _ =>
      simp only [RequestDesk.perform, DeskAction.dismisses, Bool.not_false, Bool.and_true]

theorem duration_eq_zero {action : DeskAction}
    (instant : ∀ duration, action ≠ .advance duration) : action.duration = 0 := by
  cases action with
  | advance duration => exact absurd rfl (instant duration)
  | _ => rfl

theorem instant_of_isSettledBy {action : DeskAction} (settled : errand.isSettledBy action = true) :
    ∀ duration, action ≠ .advance duration := by
  rintro duration rfl
  cases settled

variable {now : Time} {action : DeskAction} {rest : List DeskAction}

theorem closing_of_settled (settled : errand.isSettledBy action = true) :
    errand.closing now (action :: rest) = now := by
  simp only [closing, List.takeWhile_cons, settled, Bool.not_true, Bool.false_eq_true, if_false,
    List.map_nil, List.sum_nil, Nat.add_zero]

theorem closing_of_not_settled (open_ : errand.isSettledBy action = false) :
    errand.closing now (action :: rest) = errand.closing (now + action.duration) rest := by
  simp only [closing, List.takeWhile_cons, open_, Bool.not_false, if_true, List.map_cons,
    List.sum_cons, Nat.add_assoc]

theorem le_closing (errand : Errand) (now : Time) (actions : List DeskAction) :
    now ≤ errand.closing now actions := Nat.le_add_right _ _

/-- The number of copies that a waiting request has sent is known from the clock. -/
theorem Waiting.further_eq (waiting : errand.Waiting timer further desk)
    (resting : desk.Resting timer) :
    min errand.retries ((desk.courier.agenda.now - errand.start) / timer) = further ∧
      desk.courier.agenda.now < errand.deadline timer := by
  obtain ⟨alarm, _, set⟩ := waiting.kept
  have before : desk.courier.agenda.now < errand.start + (further + 1) * timer :=
    resting.resting _ set
  have since := waiting.since
  have le := waiting.le
  constructor
  · have quotient : (desk.courier.agenda.now - errand.start) / timer = further := by
      refine Nat.div_eq_of_lt_le ?_ ?_
      · exact Nat.le_sub_of_add_le' since
      · exact Nat.sub_lt_left_of_lt_add (Nat.le_trans (Nat.le_add_right ..) since) before
    rw [quotient, Nat.min_eq_right le]
  · apply Nat.lt_of_lt_of_le before
    exact Nat.add_le_add_left (Nat.mul_le_mul_right _ (Nat.succ_le_succ le)) _

/-- A request that is over when it is settled stays as it was. -/
theorem Over.fate_of_settled (ended : errand.Over (errand.schedule timer further) [] desk)
    {isAlive : Bool} (settled : errand.isSettledBy action = true)
    (count : min errand.retries ((now - errand.start) / timer) = further)
    (before : now < errand.deadline timer) :
    errand.Fate timer isAlive now (action :: rest) desk where
  copies := by rw [closing_of_settled settled, count, ended.copies]
  held := by
    apply iff_of_false ended.gone
    rintro ⟨unsettled, _⟩
    rw [unsettled action List.mem_cons_self] at settled
    cases settled
  notices := by
    rw [closing_of_settled settled, if_neg, ended.notices]
    exact fun reached => Nat.not_le_of_lt before reached.1

/-- A request that was given up stays as it was. -/
theorem Over.fate_of_givenUp {isAlive : Bool}
    (ended : errand.Over (errand.schedule timer errand.retries)
      (if isAlive then [errand.notice timer] else []) desk) (positive : 0 < timer)
    (since : errand.deadline timer ≤ now) (actions : List DeskAction) :
    errand.Fate timer isAlive now actions desk where
  copies := by
    have closing := Nat.le_trans since (errand.le_closing now actions)
    have count : errand.retries ≤ (errand.closing now actions - errand.start) / timer := by
      rw [Nat.le_div_iff_mul_le positive]
      rw [deadline, Nat.add_mul] at closing
      omega
    rw [ended.copies, Nat.min_eq_left count]
  held := by
    apply iff_of_false ended.gone
    rintro ⟨_, before⟩
    exact Nat.not_lt_of_le (Nat.le_trans since (errand.le_closing now actions)) before
  notices := by
    have closing := Nat.le_trans since (errand.le_closing now actions)
    simp only [ended.notices, closing, true_and, ownerStays_of_le since, and_true]

/-- What becomes of a request is what becomes of it after an action that does not settle
it. -/
theorem Fate.cons {isAlive remains : Bool}
    (fate : errand.Fate timer remains (now + action.duration) rest desk)
    (unsettled : errand.isSettledBy action = false)
    (owner : remains = (isAlive && !action.dismisses errand.owner))
    (before : now < errand.deadline timer) :
    errand.Fate timer isAlive now (action :: rest) desk where
  copies := by rw [closing_of_not_settled unsettled, fate.copies]
  held := by rw [closing_of_not_settled unsettled, fate.held, List.forall_mem_cons,
    eq_true unsettled, true_and]
  notices := by
    rw [closing_of_not_settled unsettled, fate.notices, owner]
    simp only [DeskAction.ownerStays, Nat.not_le_of_lt before, decide_false, Bool.false_or,
      Bool.and_eq_true, and_assoc]

/-- The clock and the owner decide what becomes of a waiting request. -/
theorem Waiting.fate (waiting : errand.Waiting timer further desk)
    (resting : desk.Resting timer) (positive : 0 < timer) (later : List DeskAction) :
    errand.Fate timer (desk.isAlive errand.owner) desk.courier.agenda.now later
      (desk.run later) := by
  induction later generalizing desk further with
  | nil =>
      obtain ⟨count, before⟩ := waiting.further_eq resting
      constructor
      case copies => exact waiting.copies.trans (congrArg _ count.symm)
      case held => exact iff_of_true waiting.isHeld ⟨List.forall_mem_nil _, before⟩
      case notices =>
        refine waiting.notices.trans (if_neg ?_).symm
        exact fun reached => Nat.not_le_of_lt before reached.1
  | cons action rest ih =>
      obtain ⟨count, before⟩ := waiting.further_eq resting
      have next := resting.perform positive action
      change errand.Fate _ _ _ _ ((desk.perform action).run rest)
      cases settled : errand.isSettledBy action with
      | true =>
          have deed := resting.sound.deed_perform (instant_of_isSettledBy settled)
          have ended := waiting.over_of_deed deed fun request found => by
            obtain ⟨alarm, kept, _⟩ := waiting.kept
            rw [kept] at found
            cases found
            exact settled
          exact (ended.run next positive rest).fate_of_settled settled count before
      | false =>
          by_cases instant : ∀ duration, action ≠ .advance duration
          · have deed := resting.sound.deed_perform instant
            have still := waiting.deed deed resting.sound fun request found => by
              obtain ⟨alarm, kept, _⟩ := waiting.kept
              rw [kept] at found
              cases found
              exact Bool.eq_false_iff.mp settled
            have fate := ih still next
            rw [deed.now_eq] at fate
            refine Fate.cons ?_ settled (isAlive_perform _ instant) before
            rw [duration_eq_zero instant]
            exact fate
          · push Not at instant
            obtain ⟨duration, rfl⟩ := instant
            obtain ⟨progress, alive, now⟩ :=
              (InProgress.waiting waiting).advance rfl resting duration
            have owner : desk.isAlive errand.owner = (desk.isAlive errand.owner &&
                !(DeskAction.advance duration).dismisses errand.owner) := (Bool.and_true _).symm
            refine Fate.cons ?_ settled owner before
            cases progress with
            | waiting still =>
                have fate := ih still next
                rw [← alive]
                exact now ▸ fate
            | givenUp givenUp =>
                have since : errand.deadline timer ≤ desk.courier.agenda.now + duration :=
                  now ▸ givenUp.since
                exact (givenUp.ended.run next positive rest).fate_of_givenUp positive since rest

/-- A request that the transport takes waits from then on. -/
theorem waiting_of_keeps {message : Signal} {bytes : Bytes} {retries : Nat} {session : UInt32}
    {owner : Nat} {courier : Courier} (resting : desk.Resting timer)
    (keeps : Courier.Keeps message.transaction
      (desk.courier.firstRequest message bytes retries session owner)
      (desk.courier.agenda.now + desk.courier.timer) desk.courier courier)
    (now : courier.agenda.now = desk.courier.agenda.now)
    (transport : courier.transport = (desk.courier.transport.send desk.courier.agenda.now
      (some owner) (some desk.courier.agenda.nextHandle) bytes).2) :
    Waiting ⟨message.transaction, message.kind, bytes, retries, session, owner,
      desk.courier.agenda.nextHandle, desk.courier.agenda.now⟩ timer 0 { desk with courier } := by
  have sound := resting.sound
  constructor
  case le => exact Nat.zero_le _
  case issued => exact keeps.nextHandle ▸ Nat.lt_succ_self _
  case kept =>
    refine ⟨desk.courier.agenda.nextHandle, ?_, ?_⟩
    · rw [keeps.pending, if_pos rfl]
      rfl
    · refine keeps.alarms.mpr (.inl ?_)
      rw [resting.timer, Nat.zero_add, Nat.one_mul]
      rfl
  case only =>
    intro transaction request found ticket
    rw [keeps.pending] at found
    split at found
    · assumption
    · exact absurd ticket (Nat.ne_of_lt (sound.kept found))
  case copies =>
    have none : desk.courier.transport.copies desk.courier.agenda.nextHandle = [] := by
      rw [Transport.copies, List.reverse_eq_nil_iff, List.map_eq_nil_iff, List.filter_eq_nil_iff]
      intro attempt member named
      exact Nat.lt_irrefl _ (sound.sent attempt member _ (of_decide_eq_true named))
    rw [transport, Transport.copies_send, none, if_pos rfl, schedule]
    simp only [List.nil_append, Nat.zero_add, List.range_one, List.map_singleton, Nat.zero_mul,
      Nat.add_zero]
  case notices =>
    rw [RequestDesk.notices, List.reverse_eq_nil_iff, List.filter_eq_nil_iff]
    intro told member named
    exact Nat.ne_of_lt (sound.told told member) (of_decide_eq_true named)
  case since =>
    rw [now, Nat.zero_mul]
    exact Nat.le_refl _

end Errand

/-- Whatever happens before and after, a request that the transport takes at first is
repeated on schedule until it is settled, and given up at its deadline if it never is. -/
theorem RequestDesk.fate_of_accepted {timer : Time} (positive : 0 < timer)
    (isAlive : Nat → Bool) (earlier later : List DeskAction) (message : Signal)
    {retries : Nat} (repeated : retries ≠ 0) (session : UInt32) (owner : Nat)
    (accepted : (((start timer isAlive).run earlier).courier.submit message retries session
      owner).1 = .ok ()) :
    let before := (start timer isAlive).run earlier
    ∃ bytes, message.encode = .ok bytes ∧
      Errand.Fate
        ⟨message.transaction, message.kind, bytes, retries, session, owner,
          before.courier.agenda.nextHandle, before.courier.agenda.now⟩
        timer (before.isAlive owner) before.courier.agenda.now later
        (before.run (.submit message retries session owner :: later)) := by
  intro before
  have resting : before.Resting timer := (Resting.start timer isAlive).run positive earlier
  have next := resting.perform positive (.submit message retries session owner)
  have submission := resting.sound.courier.submission message retries session owner
  change ∃ bytes, _ ∧ Errand.Fate _ _ _ _ _ ((before.perform _).run later)
  change (before.courier.submit message retries session owner).1 = .ok () at accepted
  simp only [perform] at next ⊢
  generalize before.courier.submit message retries session owner = outcome
    at submission accepted next
  cases submission with
  | unencodable encoded => cases accepted
  | unkept encoded once => exact absurd once repeated
  | kept encoded _ keeps now transport =>
      refine ⟨_, encoded, ?_⟩
      have fate := (Errand.waiting_of_keeps resting keeps now transport).fate next positive later
      exact now ▸ fate
  | refused encoded _ forgets issued now transport => cases accepted

/-- A release request with one retry that nobody answers. -/
theorem RequestDesk.fate_of_accepted_release :
    let message : Signal := ⟨7, [], .release .request ⟨.zero, .clientRelease, {}⟩⟩
    ∃ bytes, message.encode = .ok bytes ∧
      Errand.Fate ⟨7, .release .request, bytes, 1, 1, 0, 0, 0⟩ 2 true 0
        [.advance 3, .advance 9]
        ((start 2 fun _ => true).run [.submit message 1 1 0, .advance 3, .advance 9]) :=
  fate_of_accepted Nat.two_pos (fun _ => true) [] [.advance 3, .advance 9]
    ⟨7, [], .release .request ⟨.zero, .clientRelease, {}⟩⟩ Nat.one_ne_zero 1 0 (by decide)

end OnDemand
