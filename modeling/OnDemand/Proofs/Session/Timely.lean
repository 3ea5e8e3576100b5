import OnDemand.Proofs.Session.Moves

/-!
# Keep-alive alarms ring in time

As long as the clock moves only when time passes, no keep-alive alarm is due between actions, and
while time passes each of them rings just when the clock comes to its deadline.
-/

namespace OnDemand

namespace Client

variable {client next : Client} {ref : SessionRef} {cause : Option ClientAction} {limit : Time}
  {alarm : Alarm Reminder} {agenda : Agenda Reminder}

/-- The clock has not come to the deadline of any keep-alive alarm. -/
def NoneDue (client : Client) : Prop := ∀ alarm ∈ client.courier.agenda.alarms, ∀ ref,
  alarm.task = .keepAlive ref → client.courier.agenda.now < alarm.deadline

/-- The clock has not gone past the deadline of any keep-alive alarm. -/
def NoneMissed (client : Client) : Prop := ∀ alarm ∈ client.courier.agenda.alarms, ∀ ref,
  alarm.task = .keepAlive ref → client.courier.agenda.now ≤ alarm.deadline

theorem NoneDue.noneMissed (noneDue : client.NoneDue) : client.NoneMissed :=
  fun alarm waits ref task => Nat.le_of_lt (noneDue alarm waits ref task)

theorem NextBeat.deadline {beat : Option (Alarm Reminder)} (next : NextBeat ref beat client)
    (set : beat = some alarm) :
    client.settings.keepAliveInterval ≠ 0 ∧
      alarm.deadline = client.courier.agenda.now + client.settings.keepAliveInterval := by
  obtain ⟨handle, next⟩ := next
  rw [next] at set
  split at set
  · cases set
  · next positive =>
      cases set
      exact ⟨positive, rfl⟩

/-- A keep-alive alarm that waits after a deed waited before it, or is set an interval ahead. -/
theorem Deed.alarms (deed : Deed cause client next) (waits : alarm ∈ next.courier.agenda.alarms)
    (task : alarm.task = .keepAlive ref) :
    alarm ∈ client.courier.agenda.alarms ∨
      client.settings.keepAliveInterval ≠ 0 ∧
        alarm.deadline = client.courier.agenda.now + client.settings.keepAliveInterval := by
  have split {gone : Option AlarmHandle} {beat : Option (Alarm Reminder)} {sent : List SendAttempt}
      (tends : client.courier.Tends gone beat sent next.courier) :
      alarm ∈ client.courier.agenda.alarms ∨ beat = some alarm := by
    rcases (tends.alarms task).mp waits with set | ⟨before, _⟩
    · exact .inr set
    · exact .inl before
  cases deed with
  | maintains maintains => exact .inl ((split maintains.serves).resolve_right nofun)
  | nudges _ _ _ _ tends => exact .inl ((split tends).resolve_right nofun)
  | quiets _ quiets => exact .inl ((split quiets.tends).resolve_right nofun)
  | ends _ ends => exact .inl ((split ends.tends).resolve_right nofun)
  | grants _ _ _ _ grants =>
      obtain ⟨beat, next, _, tends⟩ := grants.beats
      exact (split tends).imp_right next.deadline
  | beats _ beats =>
      obtain ⟨beat, next, _, tends⟩ := beats.beats
      exact (split tends).imp_right next.deadline

theorem Deed.now (deed : Deed cause client next) :
    next.courier.agenda.now = client.courier.agenda.now := by
  obtain ⟨_, _, _, tends⟩ := deed.tends
  exact tends.now

theorem Deed.noneDue (deed : Deed cause client next) (noneDue : client.NoneDue) : next.NoneDue := by
  intro alarm waits ref task
  rw [deed.now]
  rcases deed.alarms waits task with before | ⟨positive, deadline⟩
  · exact noneDue alarm before ref task
  · rw [deadline]
    exact Nat.lt_add_of_pos_right (Nat.pos_of_ne_zero positive)

theorem Deed.noneMissed (deed : Deed cause client next) (noneMissed : client.NoneMissed) :
    next.NoneMissed := by
  intro alarm waits ref task
  rw [deed.now]
  rcases deed.alarms waits task with before | ⟨_, deadline⟩
  · exact noneMissed alarm before ref task
  · rw [deadline]
    exact Nat.le_add_right _ _

/-- The clock comes to the first alarm before it could go past any other. -/
theorem NoneMissed.wait (noneMissed : client.NoneMissed) (regular : client.courier.Regular)
    (popped : client.courier.agenda.popDue? limit = some (alarm, agenda)) :
    (client.wait alarm.deadline).NoneMissed := by
  intro other waits ref task
  obtain ⟨alarms, split, _, _⟩ := Agenda.popDue?_eq_some_iff.mp popped
  have ordered := regular.agenda.ordered
  rw [split] at ordered
  have first : alarm.deadline ≤ other.deadline := by
    have member : other ∈ client.courier.agenda.alarms := waits
    rw [split] at member
    rcases List.mem_cons.mp member with rfl | later
    · exact Nat.le_refl _
    · exact (List.pairwise_cons.mp ordered).1 other later
  exact Nat.max_le.mpr ⟨noneMissed other waits ref task, first⟩

end Client

open Client (Deed Ringing)

/-- What happens in a move, and when: an action while no keep-alive alarm is due, an alarm that
rings before a keep-alive alarm is missed, or nothing but that time passes. -/
inductive Move.Happens (move : Move) : Prop where
  | acts (deed : Deed move.cause move.before move.after) (noneDue : move.before.NoneDue)
  | rings {time : Time} (unprompted : move.cause = none)
      (ringing : Ringing (move.before.wait time) move.after)
      (noneMissed : (move.before.wait time).NoneMissed)
  | passes {time : Time} (after : move.after = move.before.wait time)

/-- A move from one steady client to another, in time. -/
structure Move.IsTimely (move : Move) : Prop where
  before : move.before.Steady
  after : move.after.Steady
  happens : move.Happens

namespace Client

/-- What holds while time passes: no keep-alive is missed, and the limit is still ahead. -/
structure Passing (limit : Time) (client : Client) : Prop where
  steady : client.Steady
  noneMissed : client.NoneMissed
  ahead : client.courier.agenda.now ≤ limit

/-- As long as alarms ring only when time passes, every move is timely. -/
theorem isTimely : Regime (fun action => ∀ duration, action ≠ .ringFirst duration)
    (fun client => client.Steady ∧ client.NoneDue) Passing Move.IsTimely where
  acts {client action} whole instant between := by
    obtain ⟨steady, noneDue⟩ := between
    have deed := Deed.perform steady fun duration => ⟨instant duration, whole duration⟩
    have next := deed.steady steady (Follows.perform steady.orderly instant).orderly
    exact ⟨⟨steady, next, .acts deed noneDue⟩, next, deed.noneDue noneDue⟩
  enters duration between := ⟨between.1, between.2.noneMissed, Nat.le_add_right _ _⟩
  steady passing := passing.steady
  rings {limit client next} passing stepped := by
    obtain ⟨alarm, agenda, popped, ringing⟩ := Ringing.step passing.steady stepped
    obtain ⟨_, _, due, _⟩ := Agenda.popDue?_eq_some_iff.mp popped
    have noneMissed := passing.noneMissed.wait passing.steady.courier popped
    have deed := ringing.deed none
    have steady := passing.steady.step stepped
    refine ⟨⟨passing.steady, steady, .rings rfl ringing noneMissed⟩, steady,
      deed.noneMissed noneMissed, ?_⟩
    rw [deed.now]
    exact Nat.max_le.mpr ⟨passing.ahead, due⟩
  passes {limit client} duration passing ended := by
    have steady := passing.steady.wait limit
    refine ⟨⟨passing.steady, steady, .passes rfl⟩, steady, fun alarm waits ref task => ?_⟩
    have later := passing.steady.lt_deadline ended alarm waits
    exact Nat.max_lt.mpr ⟨Nat.lt_of_le_of_lt passing.ahead later, later⟩

/-- In a run whose clock moves only when time passes, every move is timely, and no keep-alive alarm
is due at the end. -/
theorem isTimely_moves (settings : ClientSettings) {actions : List ClientAction}
    (whole : ∀ duration, .ringFirst duration ∉ actions) :
    Leads Move.IsTimely (start settings) ((start settings).moves actions)
        ((start settings).run actions) ∧
      ((start settings).run actions).Steady ∧ ((start settings).run actions).NoneDue := by
  refine isTimely.leads (fun action member duration same => whole duration (same ▸ member))
    ⟨Steady.start settings, ?_⟩
  exact fun alarm waits => (nomatch waits)

end Client

end OnDemand
