/-!
# Agendas

An agenda holds a clock and the alarms that wait for it. Alarms become due in
the order of their deadlines; alarms with equal deadlines in the order in which
they were set. Cancelling an alarm takes it off the agenda, and a handle
remembers that it was cancelled, also when its alarm has rung.

Times are whole microseconds without an upper bound. Left out are instants
between two microseconds, and the end of the clock: a delay that passes it
cannot be added to an instant, and the program stops there.
-/

namespace OnDemand

/-- A point in time, in microseconds after the start of the clock. -/
abbrev Time := Nat

/-- The name of an alarm. Handles are given out in increasing order. -/
abbrev AlarmHandle := Nat

/-- Something to be done at a time. -/
structure Alarm (τ : Type) where
  deadline : Time
  handle : AlarmHandle
  task : τ
  deriving Repr, DecidableEq

/-- A clock and the alarms that wait for it, in the order in which they ring. -/
structure Agenda (τ : Type) where
  now : Time := 0
  nextHandle : AlarmHandle := 0
  alarms : List (Alarm τ) := []
  cancelled : List AlarmHandle := []
  deriving Repr, DecidableEq

namespace Agenda

variable {τ : Type}

/-- The alarms with one more. It rings after those that are due no later. -/
def insert (alarm : Alarm τ) : List (Alarm τ) → List (Alarm τ)
  | [] => [alarm]
  | first :: rest =>
      if first.deadline ≤ alarm.deadline then first :: insert alarm rest
      else alarm :: first :: rest

/-- Set an alarm that rings after a delay. -/
def after (delay : Time) (task : τ) (agenda : Agenda τ) : AlarmHandle × Agenda τ :=
  (agenda.nextHandle,
    { agenda with
      nextHandle := agenda.nextHandle + 1
      alarms := insert ⟨agenda.now + delay, agenda.nextHandle, task⟩ agenda.alarms })

def cancel (handle : AlarmHandle) (agenda : Agenda τ) : Agenda τ :=
  { agenda with
    alarms := agenda.alarms.filter (·.handle ≠ handle)
    cancelled := handle :: agenda.cancelled }

/-- Whether a handle was used to cancel its alarm. -/
def isCancelled (handle : AlarmHandle) (agenda : Agenda τ) : Bool :=
  agenda.cancelled.contains handle

/-- The first alarm if it is due at `limit`, taken off the agenda, with the clock
set to its deadline unless it is later already. -/
def popDue? (limit : Time) (agenda : Agenda τ) : Option (Alarm τ × Agenda τ) :=
  match agenda.alarms with
  | [] => none
  | alarm :: rest =>
      if alarm.deadline ≤ limit then
        some (alarm, { agenda with now := max agenda.now alarm.deadline, alarms := rest })
      else none

/-- Move the clock on to a time; a clock that is later already stays. -/
def moveTo (time : Time) (agenda : Agenda τ) : Agenda τ :=
  { agenda with now := max agenda.now time }

def totalLoad (load : Alarm τ → Nat) : List (Alarm τ) → Nat
  | [] => 0
  | alarm :: rest => load alarm + totalLoad load rest

def size (agenda : Agenda τ) : Nat := agenda.alarms.length

end Agenda

/-- Repeat a step until there is none, at most `fuel` times. -/
def exhaust {σ : Type} (step : σ → Option σ) : Nat → σ → σ
  | 0, state => state
  | fuel + 1, state =>
      match step state with
      | none => state
      | some next => exhaust step fuel next

theorem exhaust_of_none {σ : Type} {step : σ → Option σ} {state : σ} (done : step state = none)
    (fuel : Nat) : exhaust step fuel state = state := by
  cases fuel with
  | zero => rfl
  | succ fuel => simp [exhaust, done]

/-- With a weight that every step lowers, as much fuel as the weight leaves no
step to be taken. -/
theorem step_exhaust_eq_none {σ : Type} {step : σ → Option σ} (weight : σ → Nat)
    (lowers : ∀ state next, step state = some next → weight next < weight state)
    {fuel : Nat} {state : σ} (enough : weight state ≤ fuel) :
    step (exhaust step fuel state) = none := by
  induction fuel generalizing state with
  | zero =>
    cases taken : step state with
    | none => simpa [exhaust] using taken
    | some next => have := lowers state next taken; omega
  | succ fuel ih =>
    cases taken : step state with
    | none => simp [exhaust, taken]
    | some next =>
      have := lowers state next taken
      simpa [exhaust, taken] using ih (show weight next ≤ fuel by omega)

end OnDemand
