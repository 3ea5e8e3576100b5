import OnDemand.Proofs.Request.Courier
import OnDemand.Proofs.Signal.RoundTrip

/-!
# Keep-alives among requests

The agenda of a courier holds the keep-alive alarms of sessions besides the message timers of
requests, and keep-alives go over the same transport as requests.  All that a courier does for
requests leaves both alone: no keep-alive alarm is set or taken back, and nothing that is sent, be
it for the first time or again, is a keep-alive.
-/

namespace OnDemand

/-- The keep-alive of a session. -/
def Signal.inProgress (transaction : UInt32) (id : SessionId) : Signal :=
  ⟨transaction, [], .sessionInProgress [id]⟩

theorem Signal.exists_encode_inProgress (transaction : UInt32) (id : SessionId) :
    ∃ bytes, (inProgress transaction id).encode = .ok bytes := by
  refine ⟨_, encode_eq_ok_iff.mpr ⟨Nat.zero_lt_succ _, ?_, rfl⟩⟩
  have length : (inProgress transaction id).payloadLength = 12 := rfl
  rw [length]
  decide

theorem Signal.isCanonical_inProgress (transaction : UInt32) (id : SessionId) :
    (inProgress transaction id).IsCanonical := trivial

namespace Courier

/-- Whether a datagram is a keep-alive, of whichever sessions. -/
def isKeepAlive (datagram : Bytes) : Bool :=
  match Signal.decode datagram with
  | .error _ => false
  | .ok message => message.kind = .sessionInProgress

/-- The attempts to send a keep-alive, latest first. -/
def keepAlives (courier : Courier) : List SendAttempt :=
  courier.transport.attempts.filter fun attempt => isKeepAlive attempt.bytes

theorem isKeepAlive_of_encode {message : Signal} {bytes : Bytes}
    (canonical : message.IsCanonical) (encoded : message.encode = .ok bytes) :
    isKeepAlive bytes = decide (message.kind = .sessionInProgress) := by
  rw [isKeepAlive, Signal.decode_of_encode_eq_ok canonical encoded]

variable {courier middle next : Courier} {transaction : UInt32} {request : PendingRequest}
  {gone : Option AlarmHandle} {set : Option (Alarm Reminder)} {sent : List SendAttempt}

/-- Requests and their alarms belong together, and no request is a keep-alive. -/
structure Regular (courier : Courier) : Prop extends Sound courier where
  requests : ∀ entry ∈ courier.pending, isKeepAlive entry.2.bytes = false

/-- What becomes of keep-alives: at most one of their alarms is taken back, one is set, and some
are sent. -/
structure Tends (gone : Option AlarmHandle) (set : Option (Alarm Reminder))
    (sent : List SendAttempt) (courier next : Courier) : Prop where
  regular : next.Regular
  now : next.agenda.now = courier.agenda.now
  alarms : ∀ {alarm ref}, alarm.task = .keepAlive ref →
    (alarm ∈ next.agenda.alarms ↔
      set = some alarm ∨ alarm ∈ courier.agenda.alarms ∧ gone ≠ some alarm.handle)
  keepAlives : next.keepAlives = sent ++ courier.keepAlives

/-- Keep-alives are left alone. -/
abbrev Serves : Courier → Courier → Prop := Tends none none []

/-- Keep-alive alarms that stay are no news. -/
theorem Serves.mem_alarms (serves : Serves courier next) {alarm : Alarm Reminder} {ref : Nat}
    (task : alarm.task = .keepAlive ref) :
    alarm ∈ next.agenda.alarms ↔ alarm ∈ courier.agenda.alarms := by
  simp [serves.alarms task]

/-- What leaves alarms, requests and keep-alives as they are. -/
theorem Serves.of_eq (regular : courier.Regular) (agenda : next.agenda = courier.agenda)
    (pending : next.pending = courier.pending) (keepAlives : next.keepAlives = courier.keepAlives) :
    Serves courier next where
  regular := ⟨regular.toSound.of_eq agenda pending, by rw [pending]; exact regular.requests⟩
  now := congrArg Agenda.now agenda
  alarms _ := by simp [agenda]
  keepAlives := keepAlives

theorem Serves.refl (regular : courier.Regular) : Serves courier courier :=
  .of_eq regular rfl rfl rfl

/-- First an alarm may go, then another may be set. -/
theorem Tends.trans {sentLater : List SendAttempt} (first : Tends gone none sent courier middle)
    (second : Tends none set sentLater middle next) :
    Tends gone set (sentLater ++ sent) courier next where
  regular := second.regular
  now := second.now.trans first.now
  alarms task := by simp [second.alarms task, first.alarms task]
  keepAlives := by rw [second.keepAlives, first.keepAlives, List.append_assoc]

theorem Serves.tends (first : Serves courier middle) (second : Tends gone set sent middle next) :
    Tends gone set sent courier next where
  regular := second.regular
  now := second.now.trans first.now
  alarms task := by rw [second.alarms task, first.mem_alarms task]
  keepAlives := by rw [second.keepAlives, first.keepAlives, List.nil_append]

theorem Tends.serves (first : Tends gone set sent courier middle) (second : Serves middle next) :
    Tends gone set sent courier next where
  regular := second.regular
  now := second.now.trans first.now
  alarms task := by rw [second.mem_alarms task, first.alarms task]
  keepAlives := by rw [second.keepAlives, first.keepAlives, List.nil_append]

/-! ## Requests -/

/-- An alarm that some request holds is no keep-alive alarm. -/
theorem Sound.handle_ne_alarm (sound : courier.Sound) {alarm : Alarm Reminder} {ref : Nat}
    (waits : alarm ∈ courier.agenda.alarms) (task : alarm.task = .keepAlive ref)
    (found : courier.pending.get? transaction = some request) : alarm.handle ≠ request.alarm := by
  intro same
  obtain ⟨timer, timerWaits, handle, timerTask⟩ := sound.timed found
  have equal := sound.agenda.eq_of_handle_eq waits timerWaits (same.trans handle.symm)
  rw [equal, timerTask] at task
  cases task

theorem Drops.serves {leaves : UInt32 → PendingRequest → Prop} (drops : Drops leaves courier next)
    (regular : courier.Regular) (now : next.agenda.now = courier.agenda.now)
    (keepAlives : next.keepAlives = courier.keepAlives) : Serves courier next where
  regular := by
    refine ⟨drops.sound regular.toSound, ?_⟩
    rintro ⟨transaction, request⟩ member
    have found := (drops.pending.mp (drops.keys.get?_eq_some_iff.mpr member)).1
    exact regular.requests _ (KeyedList.mem_of_get? found)
  now := now
  alarms task := by
    simp only [drops.alarms, reduceCtorEq, ne_eq, not_false_eq_true, and_true, false_or]
    refine and_iff_left_of_imp fun waits _ request found _ => ?_
    exact regular.toSound.handle_ne_alarm waits task found
  keepAlives := keepAlives

theorem Keeps.serves {deadline : Time} (keeps : Keeps transaction request deadline courier next)
    (regular : courier.Regular) (now : next.agenda.now = courier.agenda.now)
    (plain : isKeepAlive request.bytes = false)
    (keepAlives : next.keepAlives = courier.keepAlives) : Serves courier next where
  regular := by
    refine ⟨keeps.sound regular.toSound, ?_⟩
    rintro ⟨other, kept⟩ member
    have found := keeps.keys.get?_eq_some_iff.mpr member
    rw [keeps.pending] at found
    split at found
    · cases found
      exact plain
    · exact regular.requests _ (KeyedList.mem_of_get? found)
  now := now
  alarms task := by
    simp only [keeps.alarms, reduceCtorEq, ne_eq, not_false_eq_true, and_true, false_or]
    constructor
    · rintro (rfl | ⟨waits, _⟩)
      · cases task
      · exact waits
    · exact fun waits =>
        .inr ⟨waits, fun _ found => regular.toSound.handle_ne_alarm waits task found⟩
  keepAlives := keepAlives

/-- A datagram that is sent counts as a keep-alive if it is one. -/
theorem keepAlives_of_transport {time : Time} {sender : Option Nat} {ticket : Option AlarmHandle}
    {bytes : Bytes} (transport : next.transport = (courier.transport.send time sender ticket
      bytes).2) (plain : isKeepAlive bytes = false) : next.keepAlives = courier.keepAlives := by
  simp only [Courier.keepAlives, transport, Transport.send, List.filter_cons, plain,
    Bool.false_eq_true, if_false]

theorem keepAlives_congr (transport : next.transport = courier.transport) :
    next.keepAlives = courier.keepAlives := by
  rw [Courier.keepAlives, transport, Courier.keepAlives]

theorem Serves.send (regular : courier.Regular) (sender : Option Nat) {bytes : Bytes}
    (plain : isKeepAlive bytes = false) : Serves courier (courier.send sender bytes).2 :=
  .of_eq regular rfl rfl (keepAlives_of_transport rfl plain)

theorem Serves.submit (regular : courier.Regular) {message : Signal}
    (canonical : message.IsCanonical) (other : message.kind ≠ .sessionInProgress) (retries : Nat)
    (session : UInt32) (owner : Nat) :
    Serves courier (courier.submit message retries session owner).2 := by
  have submission := regular.toSound.submission message retries session owner
  have plain : ∀ {bytes}, message.encode = .ok bytes → isKeepAlive bytes = false := by
    intro bytes encoded
    rw [isKeepAlive_of_encode canonical encoded, decide_eq_false other]
  generalize courier.submit message retries session owner = outcome at submission
  cases submission with
  | unencodable encoded => exact .refl regular
  | unkept encoded once => exact .send regular _ (plain encoded)
  | kept encoded repeated keeps now transport =>
      exact keeps.serves regular now (plain encoded)
        (keepAlives_of_transport transport (plain encoded))
  | refused encoded repeated forgets nextHandle now transport =>
      exact forgets.serves regular now (keepAlives_of_transport transport (plain encoded))

theorem Serves.drop (regular : courier.Regular) (transaction : UInt32) :
    Serves courier (courier.drop transaction) :=
  (regular.toSound.forgets_drop transaction).serves regular now_drop
    (keepAlives_congr transport_drop)

theorem Serves.acknowledgeReply (regular : courier.Regular) (transaction : UInt32)
    (reply : SignalKind) : Serves courier (courier.acknowledgeReply transaction reply).2 := by
  rw [acknowledgeReply_eq]
  split
  · exact .drop regular transaction
  · exact .refl regular

theorem Serves.cancelSession (regular : courier.Regular) (session : UInt32) :
    Serves courier (courier.cancelSession session).2 :=
  (regular.toSound.drops_cancelSession session).serves regular (now_cancelSession session)
    (keepAlives_congr (transport_cancelSession session))

/-! ## Alarms -/

/-- A courier whose clock has moved on. -/
def wait (time : Time) (courier : Courier) : Courier :=
  { courier with agenda := courier.agenda.moveTo time }

theorem Regular.wait (regular : courier.Regular) (time : Time) : (courier.wait time).Regular :=
  ⟨regular.toSound.moveTo time, regular.requests⟩

/-- A message timer that runs out leaves keep-alives alone. -/
theorem Serves.expire (regular : courier.Regular) {limit : Time} {alarm : Alarm Reminder}
    {agenda : Agenda Reminder} (popped : courier.agenda.popDue? limit = some (alarm, agenda))
    (task : alarm.task = .unanswered transaction) :
    Serves (courier.wait alarm.deadline)
      (Courier.expire transaction { courier with agenda }).1 := by
  obtain ⟨request, found, _, outcome⟩ := regular.toSound.expire_eq popped task
  obtain ⟨_, _, _, rfl⟩ := Agenda.popDue?_eq_some_iff.mp popped
  have waited := regular.wait alarm.deadline
  split at outcome
  · obtain ⟨next, expired, forgets, now, transport⟩ := outcome
    rw [expired]
    exact Drops.serves ⟨forgets.agenda, forgets.keys, forgets.pending, forgets.alarms,
      forgets.nextHandle, forgets.timer⟩ waited now (keepAlives_congr transport)
  · obtain ⟨next, expired, keeps, now, transport⟩ := outcome
    have plain := regular.requests _ (KeyedList.mem_of_get? found)
    rw [expired]
    exact Keeps.serves ⟨keeps.agenda, keeps.keys, keeps.fresh, keeps.pending, keeps.alarms,
      keeps.nextHandle, keeps.timer⟩ waited now plain (keepAlives_of_transport transport plain)

/-- A keep-alive alarm that rings is gone. -/
theorem Tends.popDue? (regular : courier.Regular) {limit : Time} {alarm : Alarm Reminder}
    {agenda : Agenda Reminder} (popped : courier.agenda.popDue? limit = some (alarm, agenda))
    {ref : Nat} (task : alarm.task = .keepAlive ref) :
    Tends (some alarm.handle) none [] (courier.wait alarm.deadline) { courier with agenda } where
  regular := ⟨regular.toSound.popDue?_keepAlive popped task, regular.requests⟩
  now := by
    obtain ⟨_, _, _, rfl⟩ := Agenda.popDue?_eq_some_iff.mp popped
    rfl
  alarms _ := by
    simp only [regular.agenda.mem_alarms_popDue? popped, reduceCtorEq, false_or, ne_eq,
      Option.some.injEq]
    exact and_congr_right fun _ => not_congr eq_comm
  keepAlives := rfl

theorem Tends.arm (regular : courier.Regular) (delay : Time) (ref : Nat) :
    Tends none
      (some ⟨courier.agenda.now + delay, courier.agenda.nextHandle, .keepAlive ref⟩) []
      courier (courier.arm delay (.keepAlive ref)).2 where
  regular := ⟨regular.toSound.arm_keepAlive delay ref, regular.requests⟩
  now := rfl
  alarms _ := by
    simp only [Courier.arm, Agenda.mem_alarms_after, reduceCtorEq, ne_eq, not_false_eq_true,
      and_true, Option.some.injEq]
    exact or_congr_left eq_comm
  keepAlives := rfl

theorem Tends.disarm (regular : courier.Regular) {handle : AlarmHandle}
    (foreign : ∀ alarm ∈ courier.agenda.alarms, alarm.handle = handle →
      ∃ ref, alarm.task = .keepAlive ref) :
    Tends (some handle) none [] courier (courier.disarm handle) where
  regular := ⟨regular.toSound.disarm foreign, regular.requests⟩
  now := rfl
  alarms _ := by
    simp only [Courier.disarm, Agenda.mem_alarms_cancel, reduceCtorEq, false_or, ne_eq,
      Option.some.injEq]
    exact and_congr_right fun _ => not_congr eq_comm
  keepAlives := rfl

/-- A keep-alive is sent at once, and never again. -/
theorem Tends.inProgress (regular : courier.Regular) (transaction : UInt32) (id : SessionId)
    (session : UInt32) (owner : Nat) :
    ∃ attempt : SendAttempt, attempt.time = courier.agenda.now ∧ attempt.sender = some owner ∧
      (Signal.inProgress transaction id).encode = .ok attempt.bytes ∧
      Tends none none [attempt] courier
        (courier.submit (.inProgress transaction id) 0 session owner).2 := by
  obtain ⟨bytes, encoded⟩ := Signal.exists_encode_inProgress transaction id
  have keepAlive : isKeepAlive bytes = true :=
    isKeepAlive_of_encode (Signal.isCanonical_inProgress transaction id) encoded
  refine ⟨⟨courier.agenda.now, some owner, none, bytes,
    !courier.transport.refuses courier.transport.attempts⟩, rfl, rfl, encoded, ?_⟩
  simp only [submit_eq, encoded, if_true]
  constructor
  case regular => exact ⟨regular.toSound.of_eq rfl rfl, regular.requests⟩
  case now => rfl
  case alarms => simp [Courier.send]
  case keepAlives =>
    simp only [Courier.keepAlives, Courier.send, Transport.send, List.filter_cons, keepAlive,
      if_true, List.singleton_append]

end Courier

end OnDemand
