import OnDemand.Proofs.Data.KeyedList
import OnDemand.Proofs.Schedule.Agenda
import OnDemand.Request.Courier

/-!
# Requests and their alarms

A courier is sound when requests and message timers belong together one to one: the
alarm of a kept request is set, for its transaction, and each message timer that is set
is the alarm of a request.  What an operation does to requests and alarms is one of two
things.  It drops some of the requests with their alarms, or it keeps a request under a
new alarm.  Both keep a courier sound.
-/

namespace OnDemand

namespace Courier

/-- Requests and the message timers that are set belong together one to one. -/
structure Sound (courier : Courier) : Prop where
  agenda : courier.agenda.Sound
  keys : courier.pending.DistinctKeys
  /-- The alarm of each request is set. -/
  timed : ∀ {transaction request}, courier.pending.get? transaction = some request →
    ∃ alarm ∈ courier.agenda.alarms,
      alarm.handle = request.alarm ∧ alarm.task = .unanswered transaction
  /-- Each message timer is the alarm of a request. -/
  needed : ∀ {alarm transaction}, alarm ∈ courier.agenda.alarms →
    alarm.task = .unanswered transaction →
    ∃ request, courier.pending.get? transaction = some request ∧ request.alarm = alarm.handle

variable {courier next : Courier} {transaction other : UInt32} {request : PendingRequest}
  {alarm : Alarm Reminder}

/-- Requests with one alarm are one request. -/
theorem Sound.eq_of_alarm_eq (sound : courier.Sound) {otherRequest : PendingRequest}
    (found : courier.pending.get? transaction = some request)
    (otherFound : courier.pending.get? other = some otherRequest)
    (same : request.alarm = otherRequest.alarm) : transaction = other := by
  obtain ⟨alarm, set, handle, task⟩ := sound.timed found
  obtain ⟨otherAlarm, otherSet, otherHandle, otherTask⟩ := sound.timed otherFound
  have equal : alarm = otherAlarm :=
    sound.agenda.eq_of_handle_eq set otherSet (by rw [handle, same, otherHandle])
  rw [equal, otherTask] at task
  exact (Reminder.unanswered.inj task).symm

/-- The alarm of a request was given out. -/
theorem Sound.alarm_lt (sound : courier.Sound)
    (found : courier.pending.get? transaction = some request) :
    request.alarm < courier.agenda.nextHandle := by
  obtain ⟨alarm, set, handle, _⟩ := sound.timed found
  exact handle ▸ sound.agenda.issued alarm set

/-- Requests and alarms are all that soundness is about. -/
theorem Sound.of_eq (sound : courier.Sound) (agenda : next.agenda = courier.agenda)
    (pending : next.pending = courier.pending) : next.Sound := by
  obtain ⟨agendaSound, keys, timed, needed⟩ := sound
  constructor <;> simpa only [agenda, pending]

theorem Sound.moveTo (sound : courier.Sound) (time : Time) :
    Sound { courier with agenda := courier.agenda.moveTo time } :=
  ⟨sound.agenda.moveTo time, sound.keys, sound.timed, sound.needed⟩

/-- A courier that has sent nothing is sound. -/
theorem Sound.start (timer : Time) : Sound { timer } :=
  ⟨.empty, .nil, (nomatch ·), (nomatch ·)⟩

/-! ## Requests that are dropped -/

/-- Some of the requests are gone, each with its alarm. -/
structure Drops (gone : UInt32 → PendingRequest → Prop) (courier next : Courier) : Prop where
  agenda : next.agenda.Sound
  keys : next.pending.DistinctKeys
  pending : ∀ {transaction request}, next.pending.get? transaction = some request ↔
    courier.pending.get? transaction = some request ∧ ¬ gone transaction request
  alarms : ∀ {alarm}, alarm ∈ next.agenda.alarms ↔ alarm ∈ courier.agenda.alarms ∧
    ∀ transaction request, courier.pending.get? transaction = some request →
      gone transaction request → alarm.handle ≠ request.alarm
  nextHandle : courier.agenda.nextHandle ≤ next.agenda.nextHandle
  timer : next.timer = courier.timer

theorem Drops.sound {gone : UInt32 → PendingRequest → Prop} (drops : Drops gone courier next)
    (sound : courier.Sound) : next.Sound where
  agenda := drops.agenda
  keys := drops.keys
  timed := by
    intro transaction request found
    obtain ⟨found, stays⟩ := drops.pending.mp found
    obtain ⟨alarm, set, handle, task⟩ := sound.timed found
    refine ⟨alarm, drops.alarms.mpr ⟨set, ?_⟩, handle, task⟩
    intro other otherRequest otherFound leaves same
    cases sound.eq_of_alarm_eq found otherFound (handle ▸ same)
    rw [found] at otherFound
    cases otherFound
    exact stays leaves
  needed := by
    intro alarm transaction set task
    obtain ⟨set, apart⟩ := drops.alarms.mp set
    obtain ⟨request, found, handle⟩ := sound.needed set task
    refine ⟨request, drops.pending.mpr ⟨found, ?_⟩, handle⟩
    intro leaves
    exact apart transaction request found leaves handle.symm

/-- Only which of the present requests are gone matters. -/
theorem Drops.congr {gone leaves : UInt32 → PendingRequest → Prop}
    (drops : Drops gone courier next)
    (same : ∀ {transaction request}, courier.pending.get? transaction = some request →
      (gone transaction request ↔ leaves transaction request)) :
    Drops leaves courier next where
  agenda := drops.agenda
  keys := drops.keys
  pending := by
    intro transaction request
    rw [drops.pending]
    exact and_congr_right fun found => not_congr (same found)
  alarms := by
    intro alarm
    rw [drops.alarms]
    refine and_congr_right fun _ => forall_congr' fun transaction => forall_congr' fun request =>
      forall_congr' fun found => ?_
    rw [same found]
  nextHandle := drops.nextHandle
  timer := drops.timer

/-- Nothing is gone when requests and alarms are the same. -/
theorem Sound.drops_nothing (sound : courier.Sound) (agenda : next.agenda = courier.agenda)
    (pending : next.pending = courier.pending) (timer : next.timer = courier.timer) :
    Drops (fun _ _ => False) courier next where
  agenda := agenda ▸ sound.agenda
  keys := pending ▸ sound.keys
  pending := by simp only [pending, not_false_eq_true, and_true, implies_true]
  alarms := by simp only [agenda, false_implies, implies_true, and_true]
  nextHandle := Nat.le_of_eq (congrArg Agenda.nextHandle agenda.symm)
  timer := timer

/-- Without the request of one transaction. -/
abbrev Forgets (transaction : UInt32) : Courier → Courier → Prop :=
  Drops fun other _ => other = transaction

theorem pending_drop : (courier.drop transaction).pending.get? other =
    if other = transaction then none else courier.pending.get? other := by
  simp only [drop]
  split
  · next absent =>
      split
      · next same => rw [same, absent]
      · rfl
  · exact KeyedList.get?_erase ..

theorem mem_alarms_drop : alarm ∈ (courier.drop transaction).agenda.alarms ↔
    alarm ∈ courier.agenda.alarms ∧
      ∀ request, courier.pending.get? transaction = some request →
        alarm.handle ≠ request.alarm := by
  simp only [drop]
  split
  · next absent => simp only [absent, reduceCtorEq, false_implies, implies_true, and_true]
  · next request present =>
      simp only [disarm, Agenda.mem_alarms_cancel, present, Option.some.injEq, forall_eq']

theorem agenda_drop (agenda : courier.agenda.Sound) : (courier.drop transaction).agenda.Sound := by
  simp only [drop]
  split
  · exact agenda
  · exact agenda.cancel _

theorem keys_drop (keys : courier.pending.DistinctKeys) :
    (courier.drop transaction).pending.DistinctKeys := by
  simp only [drop]
  split
  · exact keys
  · exact keys.erase _

@[simp] theorem now_drop : (courier.drop transaction).agenda.now = courier.agenda.now := by
  simp only [drop]
  split <;> rfl

@[simp] theorem nextHandle_drop :
    (courier.drop transaction).agenda.nextHandle = courier.agenda.nextHandle := by
  simp only [drop]
  split <;> rfl

@[simp] theorem transport_drop : (courier.drop transaction).transport = courier.transport := by
  simp only [drop]
  split <;> rfl

@[simp] theorem timer_drop : (courier.drop transaction).timer = courier.timer := by
  simp only [drop]
  split <;> rfl

theorem Sound.forgets_drop (sound : courier.Sound) (transaction : UInt32) :
    Forgets transaction courier (courier.drop transaction) where
  agenda := agenda_drop sound.agenda
  keys := keys_drop sound.keys
  pending := by
    intro other request
    rw [pending_drop]
    split
    · next same => simp only [reduceCtorEq, same, not_true_eq_false, and_false]
    · next different => simp only [different, not_false_eq_true, and_true]
  alarms := by
    intro alarm
    rw [mem_alarms_drop]
    refine and_congr_right fun _ => ⟨?_, ?_⟩
    · rintro apart other request found rfl
      exact apart request found
    · intro apart request found
      exact apart transaction request found rfl
  nextHandle := Nat.le_of_eq nextHandle_drop.symm
  timer := timer_drop

/-- A reply settles the request that it answers, and no other. -/
theorem acknowledgeReply_eq (reply : SignalKind) :
    (courier.acknowledgeReply transaction reply).2 =
      if ∃ request, courier.pending.get? transaction = some request ∧
          reply.request? = some request.kind
      then courier.drop transaction else courier := by
  simp only [acknowledgeReply]
  split
  · next absent => simp only [absent, reduceCtorEq, false_and, exists_false, if_false]
  · next request present =>
      simp only [present, Option.some.injEq, exists_eq_left']
      split <;> rfl

/-! ## Requests of a session -/

/-- Taking alarms back one after another takes them all back. -/
theorem foldl_disarm (requests : List (UInt32 × PendingRequest)) (courier : Courier) :
    ∃ agenda, requests.foldl (fun courier entry => courier.disarm entry.2.alarm) courier =
        { courier with agenda } ∧
      (courier.agenda.Sound → agenda.Sound) ∧
      agenda.now = courier.agenda.now ∧ agenda.nextHandle = courier.agenda.nextHandle ∧
      ∀ alarm, alarm ∈ agenda.alarms ↔
        alarm ∈ courier.agenda.alarms ∧ ∀ entry ∈ requests, alarm.handle ≠ entry.2.alarm := by
  induction requests generalizing courier with
  | nil => exact ⟨courier.agenda, rfl, id, rfl, rfl, fun alarm => by simp⟩
  | cons entry rest ih =>
      obtain ⟨agenda, folded, sound, now, nextHandle, alarms⟩ := ih (courier.disarm entry.2.alarm)
      refine ⟨agenda, folded, ?_, now, nextHandle, ?_⟩
      · intro before
        exact sound (before.cancel _)
      · intro alarm
        rw [alarms, List.forall_mem_cons, ← and_assoc]
        simp only [disarm, Agenda.mem_alarms_cancel]

/-- Exactly the requests of the session are dropped. -/
theorem Sound.drops_cancelSession (sound : courier.Sound) (session : UInt32) :
    Drops (fun _ request => request.session = session) courier
      (courier.cancelSession session).2 := by
  obtain ⟨agenda, folded, agendaSound, _, nextHandle, alarms⟩ := foldl_disarm
    (courier.pending.filter fun entry => entry.2.session == session) courier
  have pending : ∀ {transaction : UInt32} {request : PendingRequest},
      KeyedList.get? (courier.pending.filter fun entry => entry.2.session == session)
          transaction = some request ↔
        courier.pending.get? transaction = some request ∧ request.session = session := by
    intro transaction request
    rw [sound.keys.get?_filter, beq_iff_eq]
  simp only [cancelSession, folded]
  constructor
  case agenda => exact agendaSound sound.agenda
  case keys => exact sound.keys.filter _
  case pending =>
    intro transaction request
    rw [sound.keys.get?_filter, bne_iff_ne]
  case alarms =>
    intro alarm
    rw [alarms]
    refine and_congr_right fun _ => ⟨?_, ?_⟩
    · intro apart transaction request found own
      exact apart (transaction, request) (KeyedList.mem_of_get? (pending.mpr ⟨found, own⟩))
    · rintro apart ⟨transaction, request⟩ member
      obtain ⟨found, own⟩ := pending.mp
        ((sound.keys.filter _).get?_eq_some_iff.mpr member)
      exact apart transaction request found own
  case nextHandle => exact Nat.le_of_eq nextHandle.symm
  case timer => rfl

@[simp] theorem now_cancelSession (session : UInt32) :
    (courier.cancelSession session).2.agenda.now = courier.agenda.now := by
  obtain ⟨agenda, folded, _, now, _⟩ := foldl_disarm
    (courier.pending.filter fun entry => entry.2.session == session) courier
  simp only [cancelSession, folded, now]

@[simp] theorem transport_cancelSession (session : UInt32) :
    (courier.cancelSession session).2.transport = courier.transport := by
  obtain ⟨agenda, folded, _⟩ := foldl_disarm
    (courier.pending.filter fun entry => entry.2.session == session) courier
  simp only [cancelSession, folded]

@[simp] theorem pending_cancelSession (session : UInt32) :
    (courier.cancelSession session).2.pending =
      courier.pending.filter fun entry => entry.2.session != session := by
  obtain ⟨agenda, folded, _⟩ := foldl_disarm
    (courier.pending.filter fun entry => entry.2.session == session) courier
  simp only [cancelSession, folded]

/-! ## Requests that are kept -/

/-- A request is kept under a new message timer, in place of any other of its
transaction. -/
structure Keeps (transaction : UInt32) (request : PendingRequest) (deadline : Time)
    (courier next : Courier) : Prop where
  agenda : next.agenda.Sound
  keys : next.pending.DistinctKeys
  fresh : request.alarm = courier.agenda.nextHandle
  pending : ∀ other, next.pending.get? other =
    if other = transaction then some request else courier.pending.get? other
  alarms : ∀ {alarm}, alarm ∈ next.agenda.alarms ↔
    alarm = ⟨deadline, request.alarm, .unanswered transaction⟩ ∨
      alarm ∈ courier.agenda.alarms ∧
        ∀ replaced, courier.pending.get? transaction = some replaced →
          alarm.handle ≠ replaced.alarm
  nextHandle : next.agenda.nextHandle = courier.agenda.nextHandle + 1
  timer : next.timer = courier.timer

theorem Keeps.sound {deadline : Time} (keeps : Keeps transaction request deadline courier next)
    (sound : courier.Sound) : next.Sound where
  agenda := keeps.agenda
  keys := keeps.keys
  timed := by
    intro other found present
    rw [keeps.pending] at present
    split at present
    · next same =>
        cases present
        exact ⟨_, keeps.alarms.mpr (.inl rfl), rfl, by rw [same]⟩
    · next different =>
        obtain ⟨alarm, set, handle, task⟩ := sound.timed present
        refine ⟨alarm, keeps.alarms.mpr (.inr ⟨set, ?_⟩), handle, task⟩
        intro replaced replacedFound same
        exact different (sound.eq_of_alarm_eq present replacedFound (handle ▸ same))
  needed := by
    intro alarm other set task
    rcases keeps.alarms.mp set with rfl | ⟨set, apart⟩
    · cases task
      refine ⟨request, ?_, rfl⟩
      rw [keeps.pending, if_pos rfl]
    · obtain ⟨found, present, handle⟩ := sound.needed set task
      refine ⟨found, ?_, handle⟩
      rw [keeps.pending, if_neg, present]
      rintro rfl
      exact apart found present handle.symm

/-- A request as it is first kept. -/
def firstRequest (message : Signal) (bytes : Bytes) (retries : Nat) (session : UInt32)
    (owner : Nat) (courier : Courier) : PendingRequest where
  kind := message.kind
  bytes := bytes
  retriesLeft := retries
  session := session
  owner := owner
  alarm := courier.agenda.nextHandle
  ticket := courier.agenda.nextHandle

/-- A courier right after a request was kept and its first copy sent. -/
def withFirst (transaction : UInt32) (request : PendingRequest) (courier : Courier) : Courier :=
  (((courier.arm courier.timer (.unanswered transaction)).2.keep transaction
    request).sendCopy request).2

theorem submit_eq (message : Signal) (retries : Nat) (session : UInt32) (owner : Nat) :
    courier.submit message retries session owner =
      match message.encode with
      | .error fault => (.error (.unencodable fault), courier)
      | .ok bytes =>
          let refused := courier.transport.refuses courier.transport.attempts
          if retries = 0 then
            (if refused then .error .refused else .ok (), (courier.send (some owner) bytes).2)
          else
            let sent := courier.withFirst message.transaction
              (courier.firstRequest message bytes retries session owner)
            if refused then (.error .refused, sent.drop message.transaction)
            else (.ok (), sent) := by
  cases encoded : message.encode with
  | error fault => simp only [submit, encoded]
  | ok bytes =>
      have transport : ∀ request, ((courier.arm courier.timer
          (.unanswered message.transaction)).2.keep message.transaction request).transport =
            courier.transport := by
        intro request
        simp only [keep, transport_drop]
        rfl
      have delivered : ∀ request, (((courier.arm courier.timer
          (.unanswered message.transaction)).2.keep message.transaction request).sendCopy
            request).1 = !courier.transport.refuses courier.transport.attempts := by
        intro request
        simp only [sendCopy, Transport.send, transport]
      have unkept : (courier.send (some owner) bytes).1 =
          !courier.transport.refuses courier.transport.attempts := rfl
      simp only [submit, encoded, delivered, unkept]
      by_cases refused : courier.transport.refuses courier.transport.attempts = true
      · simp only [refused, Bool.not_true, Bool.false_eq_true, if_true, if_false]
        rfl
      · simp only [Bool.not_eq_true] at refused
        simp only [refused, Bool.not_false, Bool.false_eq_true, if_true, if_false]
        rfl

@[simp] theorem now_withFirst :
    (courier.withFirst transaction request).agenda.now = courier.agenda.now := by
  simp only [withFirst, sendCopy, keep, now_drop]
  rfl

theorem transport_withFirst : (courier.withFirst transaction request).transport =
    (courier.transport.send courier.agenda.now (some request.owner) (some request.ticket)
      request.bytes).2 := by
  simp only [withFirst, sendCopy, keep, transport_drop, now_drop]
  rfl

theorem nextHandle_withFirst : (courier.withFirst transaction request).agenda.nextHandle =
    courier.agenda.nextHandle + 1 := by
  simp only [withFirst, sendCopy, keep, nextHandle_drop]
  rfl

theorem attempts_withFirst : (courier.withFirst transaction request).transport.attempts =
    ⟨courier.agenda.now, some request.owner, some request.ticket, request.bytes,
      !courier.transport.refuses courier.transport.attempts⟩ :: courier.transport.attempts := by
  rw [transport_withFirst]
  rfl

theorem Sound.keeps_withFirst (sound : courier.Sound)
    (fresh : request.alarm = courier.agenda.nextHandle) :
    Keeps transaction request (courier.agenda.now + courier.timer) courier
      (courier.withFirst transaction request) where
  agenda := agenda_drop (sound.agenda.after _ _)
  keys := by
    refine KeyedList.DistinctKeys.insert ?_ _ _
    exact keys_drop sound.keys
  fresh := fresh
  pending := by
    intro other
    simp only [withFirst, sendCopy, keep, KeyedList.get?_insert, pending_drop, arm]
    split <;> rfl
  alarms := by
    intro alarm
    simp only [withFirst, sendCopy, keep, mem_alarms_drop, arm, Agenda.mem_alarms_after,
      or_and_right, fresh]
    refine or_congr_left ⟨And.left, ?_⟩
    rintro rfl
    refine ⟨rfl, ?_⟩
    intro replaced found
    exact Nat.ne_of_gt (sound.alarm_lt found)
  nextHandle := nextHandle_withFirst
  timer := by
    simp only [withFirst, sendCopy, keep, timer_drop]
    rfl

/-- A request that is refused at once leaves the requests without its transaction. -/
theorem Sound.forgets_refused (sound : courier.Sound)
    (fresh : request.alarm = courier.agenda.nextHandle) :
    Forgets transaction courier ((courier.withFirst transaction request).drop transaction) := by
  have keeps : Keeps transaction request _ courier _ := sound.keeps_withFirst fresh
  constructor
  case agenda => exact agenda_drop keeps.agenda
  case keys => exact keys_drop keeps.keys
  case pending =>
    intro other found
    rw [pending_drop, keeps.pending]
    split
    · next same => simp only [reduceCtorEq, same, not_true_eq_false, and_false]
    · next different => simp only [different, not_false_eq_true, and_true]
  case alarms =>
    intro alarm
    rw [mem_alarms_drop, keeps.alarms, keeps.pending, if_pos rfl]
    simp only [Option.some.injEq, forall_eq']
    constructor
    · rintro ⟨rfl | ⟨set, apart⟩, other⟩
      · exact absurd rfl other
      · exact ⟨set, fun _ replaced found same => apart replaced (same ▸ found)⟩
    · rintro ⟨set, apart⟩
      refine ⟨.inr ⟨set, fun replaced found => apart transaction replaced found rfl⟩, ?_⟩
      rw [fresh]
      exact Nat.ne_of_lt (sound.agenda.issued alarm set)
  case nextHandle =>
    rw [nextHandle_drop, keeps.nextHandle]
    exact Nat.le_succ _
  case timer => rw [timer_drop, keeps.timer]

/-- What it means for a courier that a message is submitted. -/
inductive Submission (message : Signal) (retries : Nat) (session : UInt32) (owner : Nat)
    (courier : Courier) : Except SubmitError Unit × Courier → Prop where
  | unencodable {fault : WireError}
      (encoded : message.encode = .error fault) :
      Submission message retries session owner courier (.error (.unencodable fault), courier)
  | unkept {bytes : Bytes} {result : Except SubmitError Unit}
      (encoded : message.encode = .ok bytes)
      (once : retries = 0) :
      Submission message retries session owner courier
        (result, (courier.send (some owner) bytes).2)
  | kept {bytes : Bytes} {next : Courier}
      (encoded : message.encode = .ok bytes)
      (repeated : retries ≠ 0)
      (keeps : Keeps message.transaction
        (courier.firstRequest message bytes retries session owner)
        (courier.agenda.now + courier.timer) courier next)
      (now : next.agenda.now = courier.agenda.now)
      (transport : next.transport = (courier.transport.send courier.agenda.now (some owner)
        (some courier.agenda.nextHandle) bytes).2) :
      Submission message retries session owner courier (.ok (), next)
  | refused {bytes : Bytes} {next : Courier}
      (encoded : message.encode = .ok bytes)
      (repeated : retries ≠ 0)
      (forgets : Forgets message.transaction courier next)
      (nextHandle : courier.agenda.nextHandle < next.agenda.nextHandle)
      (now : next.agenda.now = courier.agenda.now)
      (transport : next.transport = (courier.transport.send courier.agenda.now (some owner)
        (some courier.agenda.nextHandle) bytes).2) :
      Submission message retries session owner courier (.error .refused, next)

theorem Sound.submission (sound : courier.Sound) (message : Signal) (retries : Nat)
    (session : UInt32) (owner : Nat) :
    Submission message retries session owner courier
      (courier.submit message retries session owner) := by
  rw [submit_eq]
  split
  · next fault encoded => exact .unencodable encoded
  · next bytes encoded =>
      split
      · next once => exact .unkept encoded once
      · next repeated =>
          have keeps : Keeps message.transaction
              (courier.firstRequest message bytes retries session owner) _ courier _ :=
            sound.keeps_withFirst rfl
          simp only
          split
          · refine .refused encoded repeated (sound.forgets_refused rfl) ?_ ?_ ?_
            · rw [nextHandle_drop, keeps.nextHandle]
              exact Nat.lt_succ_self _
            · rw [now_drop, now_withFirst]
            · rw [transport_drop, transport_withFirst]
              rfl
          · exact .kept encoded repeated keeps now_withFirst transport_withFirst

/-! ## When a message timer runs out -/

/-- The request whose timer has run out is given up or kept under a new timer. -/
theorem Sound.expire_eq (sound : courier.Sound) {limit : Time} {agenda : Agenda Reminder}
    (popped : courier.agenda.popDue? limit = some (alarm, agenda))
    (task : alarm.task = .unanswered transaction) :
    ∃ request, courier.pending.get? transaction = some request ∧
      request.alarm = alarm.handle ∧
      if request.retriesLeft = 0 then
        ∃ next, expire transaction { courier with agenda } =
            (next, some ⟨request.owner, transaction, request.kind, request.ticket⟩) ∧
          Forgets transaction courier next ∧
          next.agenda.now = agenda.now ∧ next.transport = courier.transport
      else
        ∃ next, expire transaction { courier with agenda } = (next, none) ∧
          Keeps transaction
            { request with
              retriesLeft := request.retriesLeft - 1
              alarm := courier.agenda.nextHandle }
            (agenda.now + courier.timer) courier next ∧
          next.agenda.now = agenda.now ∧
          next.transport = (courier.transport.send agenda.now (some request.owner)
            (some request.ticket) request.bytes).2 := by
  have nextHandle := Agenda.nextHandle_popDue? popped
  have others {other : Alarm Reminder} :
      other ∈ agenda.alarms ↔ other ∈ courier.agenda.alarms ∧ other.handle ≠ alarm.handle :=
    sound.agenda.mem_alarms_popDue? popped
  obtain ⟨request, found, handle⟩ :=
    sound.needed (Agenda.mem_alarms_of_popDue? popped) task
  refine ⟨request, found, handle, ?_⟩
  simp only [expire, found]
  split
  · refine ⟨_, rfl, ?_, rfl, rfl⟩
    constructor
    case agenda => exact sound.agenda.popDue? popped
    case keys => exact sound.keys.erase _
    case pending =>
      intro other found
      rw [KeyedList.get?_erase]
      split
      · next same => simp only [reduceCtorEq, same, not_true_eq_false, and_false]
      · next different => simp only [different, not_false_eq_true, and_true]
    case alarms =>
      intro alarm
      rw [others, ← handle]
      refine and_congr_right fun _ => ⟨?_, ?_⟩
      · rintro apart other replaced present rfl
        rw [found] at present
        cases present
        exact apart
      · intro apart
        exact apart transaction request found rfl
    case nextHandle => exact Nat.le_of_eq nextHandle.symm
    case timer => rfl
  · refine ⟨_, rfl, ?_, rfl, rfl⟩
    constructor
    case agenda => exact (sound.agenda.popDue? popped).after _ _
    case keys =>
      simp only [sendCopy, arm]
      exact sound.keys.adjust _ _
    case fresh => rfl
    case pending =>
      intro other
      simp only [arm, sendCopy, Agenda.after, nextHandle, KeyedList.get?_adjust]
      split
      · next same => rw [same, found, Option.map_some]
      · rfl
    case alarms =>
      intro alarm
      simp only [arm, sendCopy, Agenda.mem_alarms_after, others, found, nextHandle,
        Option.some.injEq, forall_eq', handle]
    case nextHandle =>
      simp only [arm, sendCopy, Agenda.after, nextHandle]
    case timer => rfl

/-- An alarm can ring no more often when no request has more retries left. -/
theorem load_le_load (fewer : ∀ {transaction request},
      next.pending.get? transaction = some request →
        ∃ before, courier.pending.get? transaction = some before ∧
          request.retriesLeft ≤ before.retriesLeft) : next.load alarm ≤ courier.load alarm := by
  simp only [load]
  split
  · next transaction _ =>
      cases found : next.pending.get? transaction with
      | none =>
          cases courier.pending.get? transaction with
          | none => exact Nat.le_refl 1
          | some before => exact Nat.le_add_left 1 _
      | some request =>
          obtain ⟨before, beforeFound, le⟩ := fewer found
          simp only [beforeFound]
          exact Nat.succ_le_succ le
  · exact Nat.le_refl 1

/-- When a message timer has run out, alarms can ring less often than before. -/
theorem weight_expire_lt (task : alarm.task = .unanswered transaction) :
    (courier.expire transaction).1.weight < courier.load alarm + courier.weight := by
  cases found : courier.pending.get? transaction with
  | none =>
      simp only [expire, load, task, found]
      exact Nat.lt_add_of_pos_left Nat.one_pos
  | some request =>
      simp only [expire, load, task, found]
      split
      · next spent =>
          have le : weight { courier with pending := courier.pending.erase transaction } ≤
              courier.weight := by
            refine Agenda.totalLoad_le_totalLoad fun alarm _ => load_le_load ?_
            intro other kept keptFound
            simp only [KeyedList.get?_erase] at keptFound
            split at keptFound
            · cases keptFound
            · exact ⟨kept, keptFound, Nat.le_refl _⟩
          exact Nat.lt_of_le_of_lt le (Nat.lt_add_of_pos_left (Nat.succ_pos _))
      · next left =>
          simp only [weight, sendCopy, arm, Agenda.after, Agenda.totalLoad_insert]
          refine Nat.add_lt_add_of_lt_of_le ?_ ?_
          · simp only [load, KeyedList.get?_adjust, if_true, found, Option.map_some]
            omega
          · refine Agenda.totalLoad_le_totalLoad fun alarm _ => load_le_load ?_
            intro other kept keptFound
            simp only [KeyedList.get?_adjust] at keptFound
            split at keptFound
            · next same =>
                rw [same, found, Option.map_some] at keptFound
                cases keptFound
                exact ⟨request, same ▸ found, Nat.sub_le _ _⟩
            · exact ⟨kept, keptFound, Nat.le_refl _⟩

/-! ## Keep-alive alarms -/

/-- Setting the keep-alive alarm of a session leaves message timers alone. -/
theorem Sound.arm_keepAlive (sound : courier.Sound) (delay : Time) (session : Nat) :
    (courier.arm delay (.keepAlive session)).2.Sound where
  agenda := sound.agenda.after _ _
  keys := sound.keys
  timed := by
    intro transaction request found
    obtain ⟨alarm, set, named⟩ := sound.timed found
    exact ⟨alarm, Agenda.mem_alarms_after.mpr (.inr set), named⟩
  needed := by
    intro alarm transaction set task
    rcases Agenda.mem_alarms_after.mp set with rfl | set
    · cases task
    · exact sound.needed set task

/-- Taking back an alarm that is no message timer leaves message timers alone. -/
theorem Sound.disarm (sound : courier.Sound) {handle : AlarmHandle}
    (foreign : ∀ alarm ∈ courier.agenda.alarms, alarm.handle = handle →
      ∃ session, alarm.task = .keepAlive session) :
    (courier.disarm handle).Sound where
  agenda := sound.agenda.cancel _
  keys := sound.keys
  timed := by
    intro transaction request found
    obtain ⟨alarm, set, named, task⟩ := sound.timed found
    refine ⟨alarm, Agenda.mem_alarms_cancel.mpr ⟨set, ?_⟩, named, task⟩
    intro same
    obtain ⟨session, keepAlive⟩ := foreign alarm set same
    rw [task] at keepAlive
    cases keepAlive
  needed := fun set task => sound.needed (Agenda.mem_alarms_cancel.mp set).1 task

/-- A keep-alive alarm that rings leaves message timers alone. -/
theorem Sound.popDue?_keepAlive (sound : courier.Sound) {limit : Time} {session : Nat}
    {agenda : Agenda Reminder} (popped : courier.agenda.popDue? limit = some (alarm, agenda))
    (task : alarm.task = .keepAlive session) : Sound { courier with agenda } where
  agenda := sound.agenda.popDue? popped
  keys := sound.keys
  timed := by
    intro transaction request found
    obtain ⟨timer, set, named, timerTask⟩ := sound.timed found
    refine ⟨timer, (sound.agenda.mem_alarms_popDue? popped).mpr ⟨set, ?_⟩, named, timerTask⟩
    intro same
    have first := Agenda.mem_alarms_of_popDue? popped
    rw [sound.agenda.eq_of_handle_eq set first same, task] at timerTask
    cases timerTask
  needed := fun set task =>
    sound.needed ((sound.agenda.mem_alarms_popDue? popped).mp set).1 task

/-! ## Requests that are left -/

/-- Each request that is left was kept before, perhaps with other retries and another
alarm. -/
def Loses (courier next : Courier) : Prop :=
  ∀ ⦃transaction request⦄, (transaction, request) ∈ next.pending →
    ∃ before, (transaction, before) ∈ courier.pending ∧ request.kind = before.kind ∧
      request.session = before.session ∧ request.owner = before.owner

theorem Loses.of_subset (subset : next.pending ⊆ courier.pending) : courier.Loses next :=
  fun _ request left => ⟨request, subset left, rfl, rfl, rfl⟩

theorem Loses.of_eq (pending : next.pending = courier.pending) : courier.Loses next :=
  .of_subset (pending ▸ List.Subset.refl _)

theorem Loses.refl (courier : Courier) : courier.Loses courier := .of_eq rfl

theorem Loses.trans {middle : Courier} (first : courier.Loses middle)
    (second : middle.Loses next) : courier.Loses next := by
  intro transaction request left
  obtain ⟨between, kept, kind, session, owner⟩ := second left
  obtain ⟨before, present, kindBefore, sessionBefore, ownerBefore⟩ := first kept
  exact ⟨before, present, kind.trans kindBefore, session.trans sessionBefore,
    owner.trans ownerBefore⟩

theorem subset_pending_drop : (courier.drop transaction).pending ⊆ courier.pending := by
  simp only [drop]
  split
  · exact List.Subset.refl _
  · exact List.filter_subset_self _

theorem Loses.drop (courier : Courier) (transaction : UInt32) :
    courier.Loses (courier.drop transaction) :=
  .of_subset subset_pending_drop

theorem Loses.acknowledgeReply (courier : Courier) (transaction : UInt32) (reply : SignalKind) :
    courier.Loses (courier.acknowledgeReply transaction reply).2 := by
  rw [acknowledgeReply_eq]
  split
  · exact .drop courier transaction
  · exact .refl courier

theorem Loses.cancelSession (courier : Courier) (session : UInt32) :
    courier.Loses (courier.cancelSession session).2 := by
  apply Loses.of_subset
  rw [pending_cancelSession]
  exact List.filter_subset_self _

theorem Loses.expire (courier : Courier) (transaction : UInt32) :
    courier.Loses (courier.expire transaction).1 := by
  simp only [Courier.expire]
  split
  · exact .refl courier
  · next request found =>
      split
      · exact .of_subset (List.filter_subset_self _)
      · intro other kept left
        obtain ⟨⟨key, before⟩, present, same⟩ := List.mem_map.mp left
        split at same
        · next own =>
            -- what is kept again stands in the place of the first request of the transaction
            cases own
            cases same
            exact ⟨request, KeyedList.mem_of_get? found, rfl, rfl, rfl⟩
        · cases same
          exact ⟨kept, present, rfl, rfl, rfl⟩

/-- A message that is not to be repeated is not kept. -/
theorem pending_submit_zero {message : Signal} {session : UInt32} {owner : Nat} :
    (courier.submit message 0 session owner).2.pending = courier.pending := by
  simp only [submit_eq, if_true]
  split <;> rfl

/-- A message that is not to be repeated is sent once. -/
theorem attempts_submit_zero {message : Signal} {bytes : Bytes}
    (encoded : message.encode = .ok bytes) (session : UInt32) (owner : Nat) :
    ∃ attempt : SendAttempt, attempt.bytes = bytes ∧
      (courier.submit message 0 session owner).2.transport.attempts =
        attempt :: courier.transport.attempts := by
  simp only [submit_eq, encoded, if_true]
  exact ⟨_, rfl, rfl⟩

theorem pending_withFirst : (courier.withFirst transaction request).pending.get? other =
    if other = transaction then some request else courier.pending.get? other := by
  simp only [withFirst, sendCopy, keep, KeyedList.get?_insert, pending_drop, arm]
  split <;> rfl

theorem refuses_withFirst :
    (courier.withFirst transaction request).transport.refuses = courier.transport.refuses := by
  rw [transport_withFirst]
  rfl

/-- A request that has an encoding is kept when the transport takes it. -/
theorem submit_of_taken (message : Signal) {retries : Nat} (session : UInt32) (owner : Nat)
    (encoded : ∃ bytes, message.encode = .ok bytes) (repeated : retries ≠ 0)
    (takes : courier.transport.refuses courier.transport.attempts = false) :
    ∃ request, request.kind = message.kind ∧ courier.submit message retries session owner =
      (.ok (), courier.withFirst message.transaction request) := by
  obtain ⟨bytes, encoded⟩ := encoded
  refine ⟨courier.firstRequest message bytes retries session owner, rfl, ?_⟩
  simp only [submit_eq, encoded, repeated, if_false, takes, Bool.false_eq_true]

/-- What is kept after a request was sent for the first time. -/
theorem mem_pending_withFirst {message : Signal} {bytes : Bytes} {retries : Nat} {session : UInt32}
    {owner : Nat}
    (left : (transaction, request) ∈ (courier.withFirst other
      (courier.firstRequest message bytes retries session owner)).pending) :
    (transaction, request) ∈ courier.pending ∨ transaction = other ∧
      request = courier.firstRequest message bytes retries session owner := by
  rcases List.mem_append.mp left with older | new
  · have dropped := subset_pending_drop (List.mem_filter.mp older).1
    exact .inl dropped
  · cases List.mem_singleton.mp new
    exact .inr ⟨rfl, rfl⟩

/-- At most the request that is submitted is kept besides those before. -/
theorem mem_pending_submit {message : Signal} {retries : Nat} {session : UInt32} {owner : Nat}
    (left : (transaction, request) ∈ (courier.submit message retries session owner).2.pending) :
    (transaction, request) ∈ courier.pending ∨
      transaction = message.transaction ∧ request.kind = message.kind ∧
        request.session = session ∧ request.owner = owner := by
  have first : ∀ {bytes : Bytes}, (transaction, request) ∈ (courier.withFirst
      message.transaction (courier.firstRequest message bytes retries session owner)).pending →
      (transaction, request) ∈ courier.pending ∨
        transaction = message.transaction ∧ request.kind = message.kind ∧
          request.session = session ∧ request.owner = owner := by
    intro bytes kept
    rcases mem_pending_withFirst kept with older | ⟨rfl, rfl⟩
    · exact .inl older
    · exact .inr ⟨rfl, rfl, rfl, rfl⟩
  rw [submit_eq] at left
  split at left
  · exact .inl left
  · split at left
    · exact .inl left
    · simp only at left
      split at left
      · exact first (subset_pending_drop left)
      · exact first left

end Courier

end OnDemand
