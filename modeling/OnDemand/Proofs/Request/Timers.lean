import OnDemand.Proofs.Request.Desk

/-!
# Requests and message timers, one to one

Each request that is kept holds one message timer, each message timer that is set is held by one
request, and what happens to one transaction leaves the requests and the timers of all others
alone.  This is so at every time in a run, also when owners answer a notice with further
requests.
-/

namespace OnDemand

namespace Courier

/-- The message timers that are set, each with the transaction that it is for. -/
def messageTimers (courier : Courier) : List (UInt32 × AlarmHandle) :=
  courier.agenda.alarms.filterMap fun alarm =>
    match alarm.task with
    | .unanswered transaction => some (transaction, alarm.handle)
    | .keepAlive _ => none

/-- The message timers that requests hold, each with the transaction of the request. -/
def heldTimers (courier : Courier) : List (UInt32 × AlarmHandle) :=
  courier.pending.map fun entry => (entry.1, entry.2.alarm)

/-- The message timers that are set are those that requests hold, one for each request, and
none of them was cancelled. -/
structure Paired (courier : Courier) : Prop where
  timers : courier.messageTimers.Perm courier.heldTimers
  transactions : (courier.heldTimers.map Prod.fst).Nodup
  handles : (courier.heldTimers.map Prod.snd).Nodup
  uncancelled : ∀ timer ∈ courier.messageTimers, courier.agenda.isCancelled timer.2 = false

/-- The request of a transaction and its message timers stay as they are. -/
structure Spares (other : UInt32) (courier next : Courier) : Prop where
  request : next.pending.get? other = courier.pending.get? other
  timers : ∀ {alarm}, alarm.task = .unanswered other →
    (alarm ∈ next.agenda.alarms ↔ alarm ∈ courier.agenda.alarms)

variable {courier next : Courier} {transaction other : UInt32} {request : PendingRequest}
  {alarm : Alarm Reminder}

/-! ## The pairing -/

theorem mem_messageTimers {timer : UInt32 × AlarmHandle} :
    timer ∈ courier.messageTimers ↔
      ∃ alarm ∈ courier.agenda.alarms, alarm.task = .unanswered timer.1 ∧
        alarm.handle = timer.2 := by
  simp only [messageTimers, List.mem_filterMap]
  refine exists_congr fun alarm => and_congr_right fun _ => ?_
  split
  · next transaction task => simp only [Option.some.injEq, task, Reminder.unanswered.injEq,
      Prod.ext_iff]
  · next session task => simp only [reduceCtorEq, task, false_and]

/-- The handles of message timers are among those of all alarms, in the same order. -/
theorem messageTimers_sublist :
    (courier.messageTimers.map Prod.snd).Sublist (courier.agenda.alarms.map Alarm.handle) := by
  simp only [messageTimers]
  induction courier.agenda.alarms with
  | nil => exact .slnil
  | cons alarm rest ih =>
      rw [List.filterMap_cons, List.map_cons]
      split
      · exact ih.cons _
      · next timer chosen =>
          rw [List.map_cons]
          split at chosen
          · cases chosen
            exact ih.cons_cons _
          · cases chosen

/-- A message timer is set exactly when a request holds it. -/
theorem Sound.mem_messageTimers_iff (sound : courier.Sound) {timer : UInt32 × AlarmHandle} :
    timer ∈ courier.messageTimers ↔ timer ∈ courier.heldTimers := by
  rw [mem_messageTimers, heldTimers, List.mem_map]
  constructor
  · rintro ⟨alarm, set, task, handle⟩
    obtain ⟨request, found, held⟩ := sound.needed set task
    exact ⟨(timer.1, request), KeyedList.mem_of_get? found, Prod.ext rfl (held.trans handle)⟩
  · rintro ⟨⟨transaction, request⟩, kept, rfl⟩
    obtain ⟨alarm, set, handle, task⟩ := sound.timed (sound.keys.get?_eq_some_iff.mpr kept)
    exact ⟨alarm, set, task, handle⟩

theorem Sound.paired (sound : courier.Sound) (standing : courier.agenda.Standing) :
    courier.Paired := by
  have transactions : (courier.heldTimers.map Prod.fst).Nodup := by
    rw [heldTimers, List.map_map]
    exact sound.keys
  have handles : (courier.messageTimers.map Prod.snd).Nodup :=
    sound.agenda.distinct.sublist messageTimers_sublist
  have timers : courier.messageTimers.Perm courier.heldTimers :=
    (List.perm_ext_iff_of_nodup (.of_map _ handles) (.of_map _ transactions)).mpr
      fun _ => sound.mem_messageTimers_iff
  refine ⟨timers, transactions, (timers.map _).nodup_iff.mp handles, ?_⟩
  intro timer member
  obtain ⟨alarm, set, _, handle⟩ := mem_messageTimers.mp member
  exact handle ▸ standing.isCancelled_eq_false set

/-! ## What one transaction does to others -/

/-- Requests that are dropped take no timer of another with them. -/
theorem Drops.spares {gone : UInt32 → PendingRequest → Prop} (drops : Drops gone courier next)
    (sound : courier.Sound)
    (stays : ∀ request, courier.pending.get? other = some request → ¬ gone other request) :
    Spares other courier next where
  request := by
    apply Option.ext
    intro request
    rw [drops.pending]
    exact and_iff_left_of_imp (stays request)
  timers := by
    intro alarm task
    rw [drops.alarms]
    refine and_iff_left_of_imp ?_
    rintro set transaction request found leaves same
    obtain ⟨own, ownFound, held⟩ := sound.needed set task
    obtain rfl := sound.eq_of_alarm_eq found ownFound (same.symm.trans held.symm)
    exact stays request found leaves

/-- A request that is kept takes the timer of no other. -/
theorem Keeps.spares {deadline : Time} (keeps : Keeps transaction request deadline courier next)
    (sound : courier.Sound) (different : other ≠ transaction) : Spares other courier next where
  request := by rw [keeps.pending, if_neg different]
  timers := by
    intro alarm task
    rw [keeps.alarms]
    constructor
    · rintro (rfl | ⟨set, _⟩)
      · exact absurd (Reminder.unanswered.inj task).symm different
      · exact set
    · intro set
      refine .inr ⟨set, fun replaced found same => ?_⟩
      obtain ⟨own, ownFound, held⟩ := sound.needed set task
      exact different (sound.eq_of_alarm_eq ownFound found (held.trans same))

theorem Sound.spares_submit (sound : courier.Sound) {message : Signal}
    (different : other ≠ message.transaction) (retries : Nat) (session : UInt32) (owner : Nat) :
    Spares other courier (courier.submit message retries session owner).2 := by
  have submission := sound.submission message retries session owner
  generalize courier.submit message retries session owner = outcome at submission
  cases submission with
  | unencodable encoded => exact ⟨rfl, fun _ => Iff.rfl⟩
  | unkept encoded once => exact ⟨rfl, fun _ => Iff.rfl⟩
  | kept encoded repeated keeps now transport => exact keeps.spares sound different
  | refused encoded repeated forgets nextHandle now transport =>
      exact forgets.spares sound fun _ _ => different

theorem Sound.spares_drop (sound : courier.Sound) (different : other ≠ transaction) :
    Spares other courier (courier.drop transaction) :=
  (sound.forgets_drop transaction).spares sound fun _ _ => different

theorem Sound.spares_acknowledgeReply (sound : courier.Sound) (different : other ≠ transaction)
    (reply : SignalKind) : Spares other courier (courier.acknowledgeReply transaction reply).2 := by
  rw [acknowledgeReply_eq]
  split
  · exact sound.spares_drop different
  · exact ⟨rfl, fun _ => Iff.rfl⟩

/-- A message timer that runs out touches its own transaction only. -/
theorem Sound.spares_expire (sound : courier.Sound) {limit : Time} {agenda : Agenda Reminder}
    (popped : courier.agenda.popDue? limit = some (alarm, agenda))
    (task : alarm.task = .unanswered transaction) (different : other ≠ transaction) :
    Spares other courier (expire transaction { courier with agenda }).1 := by
  obtain ⟨request, _, _, cases⟩ := sound.expire_eq popped task
  split at cases
  · obtain ⟨next, expired, forgets, _⟩ := cases
    rw [expired]
    exact forgets.spares sound fun _ _ => different
  · obtain ⟨next, expired, keeps, _⟩ := cases
    rw [expired]
    exact keeps.spares sound different

/-! ## Timers that were cancelled -/

theorem standing_drop (standing : courier.agenda.Standing)
    (given : ∀ request, courier.pending.get? transaction = some request →
      request.alarm < courier.agenda.nextHandle) :
    (courier.drop transaction).agenda.Standing := by
  simp only [drop]
  split
  · exact standing
  · next request found => exact standing.cancel (given request found)

theorem Sound.standing_withFirst (sound : courier.Sound) (standing : courier.agenda.Standing) :
    (courier.withFirst transaction request).agenda.Standing := by
  simp only [withFirst, sendCopy, keep]
  refine standing_drop (standing.after _ _) fun replaced found => ?_
  exact Nat.lt_succ_of_lt (sound.alarm_lt found)

theorem Sound.standing_submit (sound : courier.Sound) (standing : courier.agenda.Standing)
    (message : Signal) (retries : Nat) (session : UInt32) (owner : Nat) :
    (courier.submit message retries session owner).2.agenda.Standing := by
  rw [submit_eq]
  split
  · exact standing
  · next bytes encoded =>
      split
      · exact standing
      · have first : (courier.withFirst message.transaction
            (courier.firstRequest message bytes retries session owner)).agenda.Standing :=
          sound.standing_withFirst standing
        have keeps : Keeps message.transaction
            (courier.firstRequest message bytes retries session owner) _ courier _ :=
          sound.keeps_withFirst rfl
        simp only
        split
        · exact standing_drop first fun _ found => (keeps.sound sound).alarm_lt found
        · exact first

theorem Sound.standing_acknowledgeReply (sound : courier.Sound)
    (standing : courier.agenda.Standing) (reply : SignalKind) :
    (courier.acknowledgeReply transaction reply).2.agenda.Standing := by
  rw [acknowledgeReply_eq]
  split
  · exact standing_drop standing fun _ => sound.alarm_lt
  · exact standing

theorem standing_foldl_disarm (requests : List (UInt32 × PendingRequest))
    (standing : courier.agenda.Standing)
    (given : ∀ entry ∈ requests, entry.2.alarm < courier.agenda.nextHandle) :
    (requests.foldl (fun courier entry => courier.disarm entry.2.alarm)
      courier).agenda.Standing := by
  induction requests generalizing courier with
  | nil => exact standing
  | cons entry rest ih =>
      obtain ⟨first, others⟩ := List.forall_mem_cons.mp given
      exact ih (standing.cancel first) others

theorem Sound.standing_cancelSession (sound : courier.Sound)
    (standing : courier.agenda.Standing) (session : UInt32) :
    (courier.cancelSession session).2.agenda.Standing := by
  refine standing_foldl_disarm _ standing ?_
  rintro ⟨transaction, request⟩ own
  exact sound.alarm_lt (sound.keys.get?_eq_some_iff.mpr (List.mem_filter.mp own).1)

theorem standing_expire (standing : courier.agenda.Standing) (transaction : UInt32) :
    (courier.expire transaction).1.agenda.Standing := by
  simp only [expire]
  split
  · exact standing
  · split
    · exact standing
    · exact standing.after _ _

end Courier

/-! ## Runs -/

/-- What can happen to a desk whose owners may answer: an action, or the ringing of the first
alarm that is due at a time, and of no other.  What an owner does when it is told of a request
comes after the alarm that told it and before the next one. -/
inductive DeskEvent where
  | act (action : DeskAction)
  | ringFirst (limit : Time)

namespace RequestDesk

variable {desk next : RequestDesk} {limit : Time}

/-- What an event does to a desk. -/
def undergo (desk : RequestDesk) (event : DeskEvent) : RequestDesk :=
  match event with
  | .act action => desk.perform action
  | .ringFirst limit => (desk.step limit).getD desk

/-- What events do to a desk, one after another. -/
def undergoAll (desk : RequestDesk) (events : List DeskEvent) : RequestDesk :=
  events.foldl undergo desk

/-- A desk is sound, and no alarm of its courier that waits was cancelled. -/
structure Timed (desk : RequestDesk) : Prop where
  sound : desk.Sound
  standing : desk.courier.agenda.Standing

theorem Timed.start (timer : Time) (isAlive : Nat → Bool) : (start timer isAlive).Timed where
  sound := .start timer isAlive
  standing := .empty

theorem Timed.step (timed : desk.Timed) (stepped : desk.step limit = some next) : next.Timed := by
  refine ⟨timed.sound.step stepped, ?_⟩
  simp only [RequestDesk.step] at stepped
  split at stepped
  · cases stepped
  · next alarm agenda popped =>
      cases stepped
      have popped := timed.standing.popDue? popped
      simp only [ring]
      split
      · exact popped
      · next transaction _ =>
          have standing : (Courier.expire transaction
              { desk.courier with agenda }).1.agenda.Standing :=
            Courier.standing_expire popped transaction
          split
          · next courier expired => rwa [expired] at standing
          · next courier notice expired =>
              rw [courier_tell]
              rwa [expired] at standing

theorem Timed.advance (timed : desk.Timed) (duration : Time) : (desk.advance duration).Timed := by
  have rung : (exhaust (RequestDesk.step (desk.courier.agenda.now + duration))
      desk.courier.weight desk).Timed :=
    exhaust_preserves (fun _ _ stepped timed => Timed.step timed stepped) _ timed
  exact ⟨timed.sound.advance duration, rung.standing.moveTo _⟩

theorem Timed.perform (timed : desk.Timed) (action : DeskAction) :
    (desk.perform action).Timed := by
  by_cases instant : ∀ duration, action ≠ .advance duration
  · refine ⟨timed.sound.of_deed (timed.sound.deed_perform instant), ?_⟩
    obtain ⟨sound, standing⟩ := timed
    cases action with
    | submit message retries session owner => exact sound.courier.standing_submit standing ..
    | acknowledge transaction =>
        exact Courier.standing_drop standing fun _ => sound.courier.alarm_lt
    | acknowledgeReply transaction reply => exact sound.courier.standing_acknowledgeReply standing _
    | cancelSession session => exact sound.courier.standing_cancelSession standing session
    | setRefusals refuses => exact standing
    | dropOwner owner => exact standing
    | advance duration => exact absurd rfl (instant duration)
  · push Not at instant
    obtain ⟨duration, rfl⟩ := instant
    exact timed.advance duration

theorem Timed.undergo (timed : desk.Timed) (event : DeskEvent) : (desk.undergo event).Timed := by
  cases event with
  | act action => exact timed.perform action
  | ringFirst limit =>
      simp only [RequestDesk.undergo]
      cases stepped : desk.step limit with
      | none => exact timed
      | some next => exact timed.step stepped

theorem Timed.undergoAll (timed : desk.Timed) (events : List DeskEvent) :
    (desk.undergoAll events).Timed := by
  induction events generalizing desk with
  | nil => exact timed
  | cons event rest ih => exact ih (timed.undergo event)

/-- At every time in a run, requests and message timers belong together one to one.  An
operation on one transaction, and a message timer that runs out, spare the requests and the
timers of all others; the cancellation of a session drops exactly the requests of that session,
each with its timer. -/
theorem paired_undergoAll (timer : Time) (isAlive : Nat → Bool) (events : List DeskEvent) :
    let courier := ((start timer isAlive).undergoAll events).courier
    courier.Paired ∧
    (∀ message retries session owner other, other ≠ message.transaction →
      courier.Spares other (courier.submit message retries session owner).2) ∧
    (∀ transaction other, other ≠ transaction →
      courier.Spares other (courier.acknowledge transaction).2) ∧
    (∀ transaction reply other, other ≠ transaction →
      courier.Spares other (courier.acknowledgeReply transaction reply).2) ∧
    (∀ limit alarm agenda transaction other,
      courier.agenda.popDue? limit = some (alarm, agenda) →
      alarm.task = .unanswered transaction → other ≠ transaction →
      courier.Spares other ({ courier with agenda }.expire transaction).1) ∧
    (∀ session, courier.Drops (fun _ request => request.session = session)
      (courier.cancelSession session).2) := by
  intro courier
  have timed : ((start timer isAlive).undergoAll events).Timed :=
    (Timed.start timer isAlive).undergoAll events
  have sound : courier.Sound := timed.sound.courier
  exact ⟨sound.paired timed.standing,
    fun _ _ _ _ _ different => sound.spares_submit different _ _ _,
    fun _ _ different => sound.spares_drop different,
    fun _ _ _ different => sound.spares_acknowledgeReply different _,
    fun _ _ _ _ _ popped task different => sound.spares_expire popped task different,
    sound.drops_cancelSession⟩

end RequestDesk

end OnDemand
