import OnDemand.Proofs.Request.Courier
import OnDemand.Request.Desk

/-!
# Runs of a desk

A desk goes through any sequence of submissions, acknowledgements, cancellations,
failures of its transport, departures of owners, and advances of its clock.  In every
run its courier stays sound and its tickets stay apart, and between actions no alarm is
due, because an advance lets alarms ring until none is.
-/

namespace OnDemand

/-- What can happen to a desk. -/
inductive DeskAction where
  | submit (message : Signal) (retries : Nat) (session : UInt32) (owner : Nat)
  | acknowledge (transaction : UInt32)
  | acknowledgeReply (transaction : UInt32) (reply : SignalKind)
  | cancelSession (session : UInt32)
  /-- From now on the transport refuses other datagrams. -/
  | setRefusals (refuses : List SendAttempt → Bool)
  | dropOwner (owner : Nat)
  | advance (duration : Time)

namespace RequestDesk

/-- A desk at the start of its clock. -/
def start (timer : Time) (isAlive : Nat → Bool) : RequestDesk where
  courier := { timer }
  isAlive := isAlive

/-- What an action does to a desk. -/
def perform (desk : RequestDesk) (action : DeskAction) : RequestDesk :=
  match action with
  | .submit message retries session owner =>
      { desk with courier := (desk.courier.submit message retries session owner).2 }
  | .acknowledge transaction =>
      { desk with courier := (desk.courier.acknowledge transaction).2 }
  | .acknowledgeReply transaction reply =>
      { desk with courier := (desk.courier.acknowledgeReply transaction reply).2 }
  | .cancelSession session =>
      { desk with courier := (desk.courier.cancelSession session).2 }
  | .setRefusals refuses =>
      { desk with
        courier := { desk.courier with transport := { desk.courier.transport with refuses } } }
  | .dropOwner owner => desk.dropOwner owner
  | .advance duration => desk.advance duration

/-- What actions do to a desk, one after another. -/
def run (desk : RequestDesk) (actions : List DeskAction) : RequestDesk :=
  actions.foldl perform desk

/-- Owners are told of the courier, and do not touch it. -/
@[simp] theorem courier_tell {desk : RequestDesk} {notice : FailureNotice} :
    (desk.tell notice).courier = desk.courier := by
  simp only [tell]
  split <;> rfl

/-- What owners were told about a request, earliest first. -/
def notices (ticket : AlarmHandle) (desk : RequestDesk) : List ToldNotice :=
  (desk.told.filter (·.notice.ticket = ticket)).reverse

end RequestDesk

/-- The times and contents of all copies of a request that were sent, refused ones
included, earliest first. -/
def Transport.copies (ticket : AlarmHandle) (transport : Transport) : List (Time × Bytes) :=
  ((transport.attempts.filter (·.ticket = some ticket)).map
    fun attempt => (attempt.time, attempt.bytes)).reverse

@[simp] theorem Transport.copies_send {ticket : AlarmHandle} {transport : Transport} {time : Time}
    {sender : Option Nat} {other : Option AlarmHandle} {bytes : Bytes} :
    (transport.send time sender other bytes).2.copies ticket =
      transport.copies ticket ++ if other = some ticket then [(time, bytes)] else [] := by
  simp only [copies, send, List.filter_cons, decide_eq_true_eq]
  split
  · rw [List.map_cons, List.reverse_cons]
  · rw [List.append_nil]

/-- The tickets of all attempts were given out before a handle. -/
def Transport.IssuedBelow (handle : AlarmHandle) (transport : Transport) : Prop :=
  ∀ attempt ∈ transport.attempts, ∀ ticket, attempt.ticket = some ticket → ticket < handle

theorem Transport.IssuedBelow.mono {handle later : AlarmHandle} {transport : Transport}
    (issued : transport.IssuedBelow handle) (le : handle ≤ later) :
    transport.IssuedBelow later :=
  fun attempt member ticket named => Nat.lt_of_lt_of_le (issued attempt member ticket named) le

theorem Transport.IssuedBelow.send {handle : AlarmHandle} {transport : Transport}
    (issued : transport.IssuedBelow handle) {ticket : Option AlarmHandle}
    (given : ∀ handed, ticket = some handed → handed < handle) (time : Time)
    (sender : Option Nat) (bytes : Bytes) :
    (transport.send time sender ticket bytes).2.IssuedBelow handle := by
  intro attempt member handed named
  rcases List.mem_cons.mp member with rfl | member
  · exact given handed named
  · exact issued attempt member handed named

namespace RequestDesk

variable {desk next : RequestDesk} {limit : Time}

/-! ## What an alarm does -/

/-- What it means for a desk that an alarm rings. -/
inductive Turn (desk : RequestDesk) (alarm : Alarm Reminder) (agenda : Agenda Reminder) :
    RequestDesk → Prop where
  | keepAlive {session : Nat}
      (task : alarm.task = .keepAlive session) :
      Turn desk alarm agenda { desk with courier := { desk.courier with agenda } }
  | givenUp {transaction : UInt32} {request : PendingRequest} {courier : Courier}
      (found : desk.courier.pending.get? transaction = some request)
      (timed : request.alarm = alarm.handle)
      (spent : request.retriesLeft = 0)
      (forgets : Courier.Forgets transaction desk.courier courier)
      (now : courier.agenda.now = agenda.now)
      (transport : courier.transport = desk.courier.transport) :
      Turn desk alarm agenda ({ desk with courier }.tell
        ⟨request.owner, transaction, request.kind, request.ticket⟩)
  | sentAgain {transaction : UInt32} {request : PendingRequest} {courier : Courier}
      (found : desk.courier.pending.get? transaction = some request)
      (timed : request.alarm = alarm.handle)
      (left : request.retriesLeft ≠ 0)
      (keeps : Courier.Keeps transaction
        { request with
          retriesLeft := request.retriesLeft - 1
          alarm := desk.courier.agenda.nextHandle }
        (agenda.now + desk.courier.timer) desk.courier courier)
      (now : courier.agenda.now = agenda.now)
      (transport : courier.transport = (desk.courier.transport.send agenda.now
        (some request.owner) (some request.ticket) request.bytes).2) :
      Turn desk alarm agenda { desk with courier }

/-- A step is the turn of the first alarm. -/
theorem turn_of_step (sound : desk.courier.Sound) (stepped : desk.step limit = some next) :
    ∃ alarm agenda, desk.courier.agenda.popDue? limit = some (alarm, agenda) ∧
      Turn desk alarm agenda next := by
  simp only [step] at stepped
  split at stepped
  · cases stepped
  · next alarm agenda popped =>
      cases stepped
      refine ⟨alarm, agenda, popped, ?_⟩
      simp only [ring]
      split
      · next session task => exact .keepAlive task
      · next transaction task =>
          obtain ⟨request, found, timed, cases⟩ := sound.expire_eq popped task
          split at cases
          · next spent =>
              obtain ⟨courier, expired, forgets, now, transport⟩ := cases
              simp only [expired]
              exact .givenUp found timed spent forgets now transport
          · next left =>
              obtain ⟨courier, expired, keeps, now, transport⟩ := cases
              simp only [expired]
              exact .sentAgain found timed left keeps now transport

theorem popDue?_eq_none_of_step (ended : desk.step limit = none) :
    desk.courier.agenda.popDue? limit = none := by
  simp only [step] at ended
  split at ended
  · assumption
  · cases ended

/-- With each alarm that rings, one ring fewer is left. -/
theorem weight_lt_of_step (stepped : desk.step limit = some next) :
    next.courier.weight < desk.courier.weight := by
  simp only [step] at stepped
  split at stepped
  · cases stepped
  · next alarm agenda popped =>
      obtain ⟨alarms, split, _, rfl⟩ := Agenda.popDue?_eq_some_iff.mp popped
      cases stepped
      have weight : desk.courier.weight = desk.courier.load alarm +
          Agenda.totalLoad desk.courier.load alarms := by
        rw [Courier.weight, split, Agenda.totalLoad]
      rw [weight]
      simp only [ring]
      split
      · next session task =>
          simp only [Courier.load, task]
          exact Nat.lt_add_of_pos_left Nat.one_pos
      · next transaction task =>
          let rung : Courier :=
            { desk.courier with
              agenda :=
                { desk.courier.agenda with
                  now := max desk.courier.agenda.now alarm.deadline, alarms } }
          have lt := rung.weight_expire_lt task
          split
          · next courier expired =>
              rw [expired] at lt
              exact lt
          · next courier notice expired =>
              rw [expired] at lt
              rw [courier_tell]
              exact lt

/-! ## Tickets -/

/-- The courier of a desk is sound, and all tickets that it knows were given out. -/
structure Sound (desk : RequestDesk) : Prop where
  courier : desk.courier.Sound
  kept : ∀ {transaction request}, desk.courier.pending.get? transaction = some request →
    request.ticket < desk.courier.agenda.nextHandle
  sent : desk.courier.transport.IssuedBelow desk.courier.agenda.nextHandle
  told : ∀ told ∈ desk.told, told.notice.ticket < desk.courier.agenda.nextHandle

namespace Sound

theorem start (timer : Time) (isAlive : Nat → Bool) : (RequestDesk.start timer isAlive).Sound where
  courier := .start timer
  kept found := nomatch found
  sent _ member := nomatch member
  told _ member := nomatch member

variable {courier : Courier}

theorem of_drops (sound : desk.Sound) {gone : UInt32 → PendingRequest → Prop}
    (drops : Courier.Drops gone desk.courier courier)
    (sent : courier.transport.IssuedBelow courier.agenda.nextHandle) :
    Sound { desk with courier } where
  courier := drops.sound sound.courier
  kept found :=
    Nat.lt_of_lt_of_le (sound.kept (drops.pending.mp found).1) drops.nextHandle
  sent := sent
  told told member := Nat.lt_of_lt_of_le (sound.told told member) drops.nextHandle

theorem of_keeps (sound : desk.Sound) {transaction : UInt32} {request : PendingRequest}
    {deadline : Time} (keeps : Courier.Keeps transaction request deadline desk.courier courier)
    (issued : request.ticket < courier.agenda.nextHandle)
    (sent : courier.transport.IssuedBelow courier.agenda.nextHandle) :
    Sound { desk with courier } where
  courier := keeps.sound sound.courier
  kept := by
    intro other found present
    rw [keeps.pending] at present
    split at present
    · cases present
      exact issued
    · exact keeps.nextHandle ▸ Nat.lt_succ_of_lt (sound.kept present)
  sent := sent
  told told member := keeps.nextHandle ▸ Nat.lt_succ_of_lt (sound.told told member)

theorem tell (sound : desk.Sound) {notice : FailureNotice}
    (issued : notice.ticket < desk.courier.agenda.nextHandle) : (desk.tell notice).Sound := by
  simp only [RequestDesk.tell]
  split
  · refine ⟨sound.courier, sound.kept, sound.sent, ?_⟩
    intro told member
    rcases List.mem_cons.mp member with rfl | member
    · exact issued
    · exact sound.told told member
  · exact sound

theorem turn (sound : desk.Sound) {alarm : Alarm Reminder} {agenda : Agenda Reminder}
    (popped : desk.courier.agenda.popDue? limit = some (alarm, agenda))
    (turn : Turn desk alarm agenda next) : next.Sound := by
  cases turn with
  | keepAlive task =>
      have nextHandle := Agenda.nextHandle_popDue? popped
      refine ⟨sound.courier.popDue?_keepAlive popped task, ?_, ?_, ?_⟩
      · exact fun found => nextHandle ▸ sound.kept found
      · exact sound.sent.mono (Nat.le_of_eq nextHandle.symm)
      · exact fun told member => nextHandle ▸ sound.told told member
  | givenUp found timed spent forgets now transport =>
      refine tell (sound.of_drops forgets ?_) ?_
      · rw [transport]
        exact sound.sent.mono forgets.nextHandle
      · exact Nat.lt_of_lt_of_le (sound.kept found) forgets.nextHandle
  | sentAgain found timed left keeps now transport =>
      have issued := Nat.lt_succ_of_lt (sound.kept found)
      rw [Nat.succ_eq_add_one, ← keeps.nextHandle] at issued
      apply sound.of_keeps keeps issued
      rw [transport]
      refine (sound.sent.mono ?_).send ?_ _ _ _
      · rw [keeps.nextHandle]
        exact Nat.le_succ _
      · rintro ticket ⟨⟩
        exact issued

theorem step (sound : desk.Sound) (stepped : desk.step limit = some next) : next.Sound := by
  obtain ⟨alarm, agenda, popped, turn⟩ := turn_of_step sound.courier stepped
  exact sound.turn popped turn

theorem advance (sound : desk.Sound) (duration : Time) : (desk.advance duration).Sound := by
  have rung : Sound (exhaust (RequestDesk.step (desk.courier.agenda.now + duration))
      desk.courier.weight desk) :=
    exhaust_preserves (fun _ _ stepped sound => step sound stepped) _ sound
  exact ⟨rung.courier.moveTo _, rung.kept, rung.sent, rung.told⟩

end Sound

/-! ## What an action does -/

/-- What it means for a desk that an action settles some of its requests, and that it may
submit another. -/
inductive Deed (desk : RequestDesk) (settled : UInt32 → PendingRequest → Prop) :
    RequestDesk → Prop where
  | drops {courier : Courier} {isAlive : Nat → Bool}
      (drops : Courier.Drops settled desk.courier courier)
      (now : courier.agenda.now = desk.courier.agenda.now)
      (sent : courier.transport.IssuedBelow courier.agenda.nextHandle)
      (copies : ∀ ticket < desk.courier.agenda.nextHandle,
        courier.transport.copies ticket = desk.courier.transport.copies ticket) :
      Deed desk settled { desk with courier, isAlive }
  | keeps {transaction : UInt32} {request : PendingRequest} {courier : Courier}
      (keeps : Courier.Keeps transaction request
        (desk.courier.agenda.now + desk.courier.timer) desk.courier courier)
      (issued : request.ticket = desk.courier.agenda.nextHandle)
      (replaces : ∀ other replaced, settled other replaced ↔ other = transaction)
      (now : courier.agenda.now = desk.courier.agenda.now)
      (sent : courier.transport.IssuedBelow courier.agenda.nextHandle)
      (copies : ∀ ticket < desk.courier.agenda.nextHandle,
        courier.transport.copies ticket = desk.courier.transport.copies ticket) :
      Deed desk settled { desk with courier }

end RequestDesk

/-- Whether an action is the end of a request, as its answer, its cancellation, or its
replacement. -/
def DeskAction.settles (action : DeskAction) (transaction : UInt32) (kind : SignalKind)
    (session : UInt32) : Bool :=
  match action with
  | .submit message retries _ _ =>
      message.transaction == transaction && retries != 0 && message.encode.isOk
  | .acknowledge other => other == transaction
  | .acknowledgeReply other reply => other == transaction && reply.request? == some kind
  | .cancelSession other => other == session
  | .setRefusals _ | .dropOwner _ | .advance _ => false

/-- A submission replaces a request of its transaction once it is kept itself. -/
theorem DeskAction.settles_submit {message : Signal} {bytes : Bytes} {retries : Nat}
    {session owner : _} {transaction : UInt32} {kind : SignalKind} {other : UInt32}
    (encoded : message.encode = .ok bytes) (repeated : retries ≠ 0) :
    (submit message retries session owner).settles transaction kind other ↔
      transaction = message.transaction := by
  simp only [settles, encoded, Except.isOk, Except.toBool, Bool.and_true, Bool.and_eq_true,
    beq_iff_eq, bne_iff_ne, ne_eq, repeated, not_false_eq_true, and_true]
  exact eq_comm

/-- How far an action moves the clock. -/
def DeskAction.duration : DeskAction → Time
  | .advance duration => duration
  | _ => 0

namespace RequestDesk

variable {desk next : RequestDesk} {limit : Time}

theorem Sound.deed_submit (sound : desk.Sound) (message : Signal) (retries : Nat)
    (session : UInt32) (owner : Nat) :
    Deed desk
      (fun transaction request => (DeskAction.submit message retries session owner).settles
        transaction request.kind request.session)
      (desk.perform (.submit message retries session owner)) := by
  have submission := sound.courier.submission message retries session owner
  have own : ∀ {handle : AlarmHandle} {time : Time} {sender : Option Nat} {bytes : Bytes},
      desk.courier.agenda.nextHandle < handle →
      (desk.courier.transport.send time sender (some desk.courier.agenda.nextHandle)
        bytes).2.IssuedBelow handle := by
    intro handle time sender bytes issued
    refine (sound.sent.mono (Nat.le_of_lt issued)).send ?_ _ _ _
    rintro ticket ⟨⟩
    exact issued
  have others : ∀ {time : Time} {sender : Option Nat} {bytes : Bytes},
      ∀ ticket < desk.courier.agenda.nextHandle,
        (desk.courier.transport.send time sender (some desk.courier.agenda.nextHandle)
          bytes).2.copies ticket = desk.courier.transport.copies ticket := by
    intro time sender bytes ticket before
    rw [Transport.copies_send, if_neg, List.append_nil]
    exact fun same => Nat.ne_of_gt before (Option.some.inj same)
  simp only [perform]
  generalize desk.courier.submit message retries session owner = outcome at submission
  cases submission with
  | unencodable encoded =>
      refine .drops ((sound.courier.drops_nothing rfl rfl rfl).congr ?_) rfl sound.sent ?_
      · intro transaction request found
        simp [DeskAction.settles, encoded, Except.isOk, Except.toBool]
      · exact fun ticket before => rfl
  | @unkept bytes result encoded once =>
      have drops : Courier.Drops _ desk.courier (desk.courier.send (some owner) bytes).2 :=
        sound.courier.drops_nothing rfl rfl rfl
      refine .drops (drops.congr ?_) rfl ?_ ?_
      · intro transaction request found
        simp [DeskAction.settles, once]
      · refine sound.sent.send ?_ _ _ _
        rintro ticket ⟨⟩
      · intro ticket before
        simp [Courier.send]
  | kept encoded repeated keeps now transport =>
      refine .keeps keeps rfl ?_ now ?_ ?_
      · exact fun other replaced => DeskAction.settles_submit encoded repeated
      · rw [transport]
        exact own (keeps.nextHandle ▸ Nat.lt_succ_self _)
      · rw [transport]
        exact others
  | refused encoded repeated forgets issued now transport =>
      refine .drops (forgets.congr ?_) now ?_ ?_
      · exact fun found => (DeskAction.settles_submit encoded repeated).symm
      · rw [transport]
        exact own issued
      · rw [transport]
        exact others

/-- An action that sends nothing. -/
theorem Sound.deed_of_drops (sound : desk.Sound) {settled : UInt32 → PendingRequest → Prop}
    {courier : Courier} (drops : Courier.Drops settled desk.courier courier)
    (now : courier.agenda.now = desk.courier.agenda.now)
    (attempts : courier.transport.attempts = desk.courier.transport.attempts)
    (isAlive : Nat → Bool) : Deed desk settled { desk with courier, isAlive } := by
  refine .drops drops now ?_ ?_
  · intro attempt member
    exact sound.sent.mono drops.nextHandle attempt (attempts ▸ member)
  · intro ticket before
    rw [Transport.copies, attempts, Transport.copies]

/-- What every action but an advance does. -/
theorem Sound.deed_perform (sound : desk.Sound) {action : DeskAction}
    (instant : ∀ duration, action ≠ .advance duration) :
    Deed desk
      (fun transaction request => action.settles transaction request.kind request.session)
      (desk.perform action) := by
  cases action with
  | submit message retries session owner => exact sound.deed_submit message retries session owner
  | acknowledge transaction =>
      have drops := sound.courier.forgets_drop transaction
      refine sound.deed_of_drops (drops.congr ?_) Courier.now_drop
        (congrArg _ Courier.transport_drop) _
      intro other request found
      simp only [DeskAction.settles, beq_iff_eq]
      exact eq_comm
  | acknowledgeReply transaction reply =>
      simp only [perform, Courier.acknowledgeReply_eq]
      split
      · next answered =>
          obtain ⟨answers, answersFound, kind⟩ := answered
          have drops := sound.courier.forgets_drop transaction
          refine sound.deed_of_drops (drops.congr ?_) Courier.now_drop
            (congrArg _ Courier.transport_drop) _
          intro other request found
          simp only [DeskAction.settles, Bool.and_eq_true, beq_iff_eq]
          constructor
          · rintro rfl
            rw [answersFound] at found
            cases found
            exact ⟨rfl, kind⟩
          · exact fun settled => settled.1.symm
      · next unanswered =>
          have nothing := sound.courier.drops_nothing rfl rfl rfl
          refine sound.deed_of_drops (nothing.congr ?_) rfl rfl _
          intro other request found
          simp only [DeskAction.settles, Bool.and_eq_true, beq_iff_eq, false_iff]
          rintro ⟨rfl, kind⟩
          exact unanswered ⟨request, found, kind⟩
  | cancelSession session =>
      have drops := sound.courier.drops_cancelSession session
      refine sound.deed_of_drops (drops.congr ?_) (Courier.now_cancelSession session)
        (congrArg _ (Courier.transport_cancelSession session)) _
      intro other request found
      simp only [DeskAction.settles, beq_iff_eq]
      exact eq_comm
  | setRefusals refuses =>
      have nothing : Courier.Drops _ desk.courier
          { desk.courier with transport := { desk.courier.transport with refuses } } :=
        sound.courier.drops_nothing rfl rfl rfl
      refine sound.deed_of_drops (nothing.congr fun _ => ?_) rfl rfl _
      simp only [DeskAction.settles, Bool.false_eq_true]
  | dropOwner owner =>
      have nothing := sound.courier.drops_nothing rfl rfl rfl
      refine sound.deed_of_drops (nothing.congr fun _ => ?_) rfl rfl _
      simp only [DeskAction.settles, Bool.false_eq_true]
  | advance duration => exact absurd rfl (instant duration)

theorem Deed.now_eq {settled : UInt32 → PendingRequest → Prop} (deed : Deed desk settled next) :
    next.courier.agenda.now = desk.courier.agenda.now := by
  cases deed with
  | drops drops now sent copies => exact now
  | keeps keeps issued replaces now sent copies => exact now

theorem Sound.of_deed (sound : desk.Sound) {settled : UInt32 → PendingRequest → Prop}
    (deed : Deed desk settled next) : next.Sound := by
  cases deed with
  | drops drops now sent copies =>
      have kept := sound.of_drops drops sent
      exact ⟨kept.courier, kept.kept, kept.sent, kept.told⟩
  | keeps keeps issued replaces now sent copies =>
      refine sound.of_keeps keeps ?_ sent
      rw [issued, keeps.nextHandle]
      exact Nat.lt_succ_self _

/-! ## The clock -/

/-- An alarm that rings sets the clock, and nothing else does. -/
theorem Turn.now_eq {alarm : Alarm Reminder} {agenda : Agenda Reminder}
    (turn : Turn desk alarm agenda next) : next.courier.agenda.now = agenda.now := by
  cases turn with
  | keepAlive task => rfl
  | givenUp found timed spent forgets now transport =>
      rw [courier_tell]
      exact now
  | sentAgain found timed left keeps now transport => exact now

theorem Turn.timer_eq {alarm : Alarm Reminder} {agenda : Agenda Reminder}
    (turn : Turn desk alarm agenda next) : next.courier.timer = desk.courier.timer := by
  cases turn with
  | keepAlive task => rfl
  | givenUp found timed spent forgets now transport =>
      rw [courier_tell]
      exact forgets.timer
  | sentAgain found timed left keeps now transport => exact keeps.timer

/-- The alarms after a turn are those that were not taken off, and perhaps one that is
set anew. -/
theorem Turn.mem_alarms {alarm other : Alarm Reminder} {agenda : Agenda Reminder}
    (sound : desk.Sound) (popped : desk.courier.agenda.popDue? limit = some (alarm, agenda))
    (turn : Turn desk alarm agenda next) (set : other ∈ next.courier.agenda.alarms) :
    other ∈ agenda.alarms ∨ other.deadline = agenda.now + desk.courier.timer := by
  have others : other ∈ agenda.alarms ↔
      other ∈ desk.courier.agenda.alarms ∧ other.handle ≠ alarm.handle :=
    sound.courier.agenda.mem_alarms_popDue? popped
  cases turn with
  | keepAlive task => exact .inl set
  | @givenUp transaction request courier found timed spent forgets now transport =>
      rw [courier_tell] at set
      obtain ⟨set, apart⟩ := forgets.alarms.mp set
      exact .inl (others.mpr ⟨set, timed ▸ apart transaction request found rfl⟩)
  | @sentAgain transaction request courier found timed left keeps now transport =>
      rcases keeps.alarms.mp set with rfl | ⟨set, apart⟩
      · exact .inr rfl
      · exact .inl (others.mpr ⟨set, timed ▸ apart request found⟩)

/-- What holds of a desk while its alarms ring up to a limit. -/
structure Ringing (timer limit : Time) (desk : RequestDesk) : Prop where
  sound : desk.Sound
  timer : desk.courier.timer = timer
  punctual : desk.courier.agenda.Punctual
  before : desk.courier.agenda.now ≤ limit

theorem Ringing.turn {timer : Time} (ringing : desk.Ringing timer limit) {alarm : Alarm Reminder}
    {agenda : Agenda Reminder}
    (popped : desk.courier.agenda.popDue? limit = some (alarm, agenda))
    (turn : Turn desk alarm agenda next) : next.Ringing timer limit := by
  obtain ⟨clock, punctual⟩ := ringing.punctual.popDue? ringing.sound.courier.agenda popped
  obtain ⟨_, _, due, _⟩ := Agenda.popDue?_eq_some_iff.mp popped
  refine ⟨ringing.sound.turn popped turn, turn.timer_eq.trans ringing.timer, ?_, ?_⟩
  · intro other set
    rw [turn.now_eq]
    rcases turn.mem_alarms ringing.sound popped set with set | deadline
    · exact punctual other set
    · exact deadline ▸ Nat.le_add_right _ _
  · rw [turn.now_eq, clock]
    exact due

/-- What the turn of each alarm keeps, an advance keeps, and then no alarm is due. -/
theorem advance_induction {timer duration : Time} (sound : desk.Sound)
    (timed : desk.courier.timer = timer) (punctual : desk.courier.agenda.Punctual)
    (holds : RequestDesk → Prop)
    (keeps : ∀ {before next : RequestDesk} {alarm : Alarm Reminder} {agenda : Agenda Reminder},
      before.Ringing timer (desk.courier.agenda.now + duration) → holds before →
      before.courier.agenda.popDue? (desk.courier.agenda.now + duration) =
        some (alarm, agenda) →
      Turn before alarm agenda next → holds next)
    (start : holds desk) :
    ∃ rung : RequestDesk, rung.Ringing timer (desk.courier.agenda.now + duration) ∧
      holds rung ∧
      (∀ alarm ∈ rung.courier.agenda.alarms,
        desk.courier.agenda.now + duration < alarm.deadline) ∧
      desk.advance duration =
        { rung with
          courier :=
            { rung.courier with
              agenda :=
                { rung.courier.agenda with now := desk.courier.agenda.now + duration } } } := by
  have kept : ∀ before next, step (desk.courier.agenda.now + duration) before = some next →
      before.Ringing timer (desk.courier.agenda.now + duration) ∧ holds before →
      next.Ringing timer (desk.courier.agenda.now + duration) ∧ holds next := by
    rintro before next stepped ⟨ringing, held⟩
    obtain ⟨alarm, agenda, popped, turn⟩ := turn_of_step ringing.sound.courier stepped
    exact ⟨ringing.turn popped turn, keeps ringing held popped turn⟩
  obtain ⟨ringing, held⟩ := exhaust_preserves kept desk.courier.weight
    ⟨⟨sound, timed, punctual, Nat.le_add_right _ _⟩, start⟩
  have ended : step (desk.courier.agenda.now + duration) _ = none :=
    step_exhaust_eq_none (fun desk => desk.courier.weight)
      (fun _ _ stepped => weight_lt_of_step stepped) (Nat.le_refl desk.courier.weight)
  have idle := popDue?_eq_none_of_step ended
  refine ⟨_, ringing, held,
    ringing.sound.courier.agenda.lt_deadline_of_popDue?_eq_none idle, ?_⟩
  simp only [advance, Agenda.moveTo]
  simp only [Nat.max_eq_right ringing.before]

/-- Between actions no alarm is due. -/
structure Resting (timer : Time) (desk : RequestDesk) : Prop where
  sound : desk.Sound
  timer : desk.courier.timer = timer
  resting : desk.courier.agenda.Resting

namespace Resting

variable {timer : Time}

theorem start (timer : Time) (isAlive : Nat → Bool) :
    (RequestDesk.start timer isAlive).Resting timer where
  sound := .start timer isAlive
  timer := rfl
  resting _ member := nomatch member

theorem of_deed (resting : desk.Resting timer) (positive : 0 < timer)
    {settled : UInt32 → PendingRequest → Prop} (deed : Deed desk settled next) :
    next.Resting timer := by
  refine ⟨resting.sound.of_deed deed, ?_, ?_⟩
  · cases deed with
    | drops drops now sent copies => exact drops.timer.trans resting.timer
    | keeps keeps issued replaces now sent copies => exact keeps.timer.trans resting.timer
  · intro alarm set
    cases deed with
    | drops drops now sent copies =>
        rw [now]
        exact resting.resting alarm (drops.alarms.mp set).1
    | keeps keeps issued replaces now sent copies =>
        rw [now]
        rcases keeps.alarms.mp set with rfl | ⟨set, _⟩
        · exact Nat.lt_add_of_pos_right (resting.timer ▸ positive)
        · exact resting.resting alarm set

theorem advance (resting : desk.Resting timer) (duration : Time) :
    (desk.advance duration).Resting timer := by
  obtain ⟨rung, ringing, _, late, advanced⟩ := advance_induction resting.sound resting.timer
    resting.resting.punctual (fun _ => True) (fun _ _ _ _ => trivial) trivial
  have sound := resting.sound.advance duration
  rw [advanced] at sound ⊢
  exact ⟨sound, ringing.timer, late⟩

theorem perform (resting : desk.Resting timer) (positive : 0 < timer) (action : DeskAction) :
    (desk.perform action).Resting timer := by
  by_cases instant : ∀ duration, action ≠ .advance duration
  · exact resting.of_deed positive (resting.sound.deed_perform instant)
  · push Not at instant
    obtain ⟨duration, rfl⟩ := instant
    exact resting.advance duration

/-- Whatever happens to a desk, it rests afterwards. -/
theorem run (resting : desk.Resting timer) (positive : 0 < timer) (actions : List DeskAction) :
    (desk.run actions).Resting timer := by
  induction actions generalizing desk with
  | nil => exact resting
  | cons action rest ih => exact ih (resting.perform positive action)

end Resting

end RequestDesk

end OnDemand
