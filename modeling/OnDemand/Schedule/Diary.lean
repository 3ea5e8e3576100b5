import OnDemand.Schedule.Agenda

/-!
# Diaries

A diary is an agenda whose alarms do something when they ring. Each has a task,
and what a task does is up to its conduct: it gives orders to the diary, which set
further alarms and cancel any, and may then fail, which does not reach the diary.
What was set, what was cancelled and what rang is written down as it happens.
-/

namespace OnDemand

/-- What a diary can be told to do. -/
inductive DiaryOrder (τ : Type) where
  /-- Set an alarm that rings after a delay. -/
  | set (delay : Time) (task : τ)
  | cancel (handle : AlarmHandle)
  deriving Repr, DecidableEq

/-- What a task does when its alarm rings: the orders that it gives, and whether it
fails after the last of them. -/
structure Conduct (τ : Type) where
  orders : List (DiaryOrder τ) := []
  fails : Bool := false
  deriving Repr, DecidableEq

/-- An alarm that rang, with the clock at that time. -/
structure Ring (τ : Type) where
  alarm : Alarm τ
  time : Time
  failed : Bool
  deriving Repr, DecidableEq

/-- What is written down in a diary. -/
inductive DiaryEntry (τ : Type) where
  | set (alarm : Alarm τ)
  | cancelled (handle : AlarmHandle)
  | rang (ring : Ring τ)
  deriving Repr, DecidableEq

/-- An agenda and what happened to its alarms, latest first. -/
structure Diary (τ : Type) where
  agenda : Agenda τ := {}
  entries : List (DiaryEntry τ) := []
  deriving Repr, DecidableEq

/-- The ring that an entry is about. -/
def DiaryEntry.ring? {τ : Type} : DiaryEntry τ → Option (Ring τ)
  | rang ring => some ring
  | set _ | cancelled _ => none

namespace Diary

variable {τ : Type}

/-- The rings so far, latest first. -/
def rings (diary : Diary τ) : List (Ring τ) := diary.entries.filterMap DiaryEntry.ring?

/-- Follow an order. Only a handle that was given out can be used to cancel. -/
def obey (diary : Diary τ) : DiaryOrder τ → Diary τ
  | .set delay task =>
      let (handle, agenda) := diary.agenda.after delay task
      ⟨agenda, .set ⟨diary.agenda.now + delay, handle, task⟩ :: diary.entries⟩
  | .cancel handle =>
      if handle < diary.agenda.nextHandle then
        ⟨diary.agenda.cancel handle, .cancelled handle :: diary.entries⟩
      else diary

/-- An alarm rings: it is written down, and then its task does what it does. -/
def ring (conduct : Diary τ → Alarm τ → Conduct τ) (alarm : Alarm τ) (diary : Diary τ) :
    Diary τ :=
  let conduct := conduct diary alarm
  let entry := DiaryEntry.rang ⟨alarm, diary.agenda.now, conduct.fails⟩
  conduct.orders.foldl obey { diary with entries := entry :: diary.entries }

/-- Let the first alarm that is due at `limit` ring. -/
def step (conduct : Diary τ → Alarm τ → Conduct τ) (limit : Time) (diary : Diary τ) :
    Option (Diary τ) :=
  match diary.agenda.popDue? limit with
  | none => none
  | some (alarm, agenda) => some ({ diary with agenda }.ring conduct alarm)

/-- Let the alarms that are due at `limit` ring, also those that are set on the way,
but no more of them than `fuel`. -/
def drain (conduct : Diary τ → Alarm τ → Conduct τ) (limit : Time) (fuel : Nat)
    (diary : Diary τ) : Diary τ :=
  exhaust (step conduct limit) fuel diary

/-- Move the clock on to a time, if it is not later, without letting anything ring. -/
def moveTo (time : Time) (diary : Diary τ) : Diary τ :=
  { diary with agenda := diary.agenda.moveTo time }

/-- Let time pass, each alarm ringing at its time. -/
def advance (conduct : Diary τ → Alarm τ → Conduct τ) (duration : Time) (fuel : Nat)
    (diary : Diary τ) : Diary τ :=
  let limit := diary.agenda.now + duration
  (diary.drain conduct limit fuel).moveTo limit

/-- Let ring what is due already. -/
def runDue (conduct : Diary τ → Alarm τ → Conduct τ) (fuel : Nat) (diary : Diary τ) :
    Diary τ :=
  diary.drain conduct diary.agenda.now fuel

end Diary

end OnDemand
