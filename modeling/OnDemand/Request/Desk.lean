import OnDemand.Request.Courier

/-!
# A courier on its own

A courier whose owners only listen. Time passes alarm by alarm, and the notices of
requests that were given up are recorded for the owners that are still there.
-/

namespace OnDemand

/-- A notice with the time at which its owner was told. -/
structure ToldNotice where
  time : Time
  notice : FailureNotice
  deriving Repr, DecidableEq

/-- A courier and its owners. The notices told are listed latest first. -/
structure RequestDesk where
  courier : Courier
  isAlive : Nat → Bool := fun _ => true
  told : List ToldNotice := []

namespace RequestDesk

/-- Tell an owner that a request was given up, if the owner is still there. -/
def tell (notice : FailureNotice) (desk : RequestDesk) : RequestDesk :=
  if desk.isAlive notice.owner then
    { desk with told := ⟨desk.courier.agenda.now, notice⟩ :: desk.told }
  else desk

/-- The owner is gone. -/
def dropOwner (owner : Nat) (desk : RequestDesk) : RequestDesk :=
  { desk with isAlive := fun other => other ≠ owner && desk.isAlive other }

/-- What happens when an alarm rings. -/
def ring (reminder : Reminder) (desk : RequestDesk) : RequestDesk :=
  match reminder with
  | .keepAlive _ => desk
  | .unanswered transaction =>
      match desk.courier.expire transaction with
      | (courier, none) => { desk with courier }
      | (courier, some notice) => { desk with courier }.tell notice

/-- Let the first alarm that is due at `limit` ring. -/
def step (limit : Time) (desk : RequestDesk) : Option RequestDesk :=
  match desk.courier.agenda.popDue? limit with
  | none => none
  | some (alarm, agenda) =>
      some ({ desk with courier := { desk.courier with agenda } }.ring alarm.task)

/-- Let time pass. -/
def advance (duration : Time) (desk : RequestDesk) : RequestDesk :=
  let limit := desk.courier.agenda.now + duration
  let desk := exhaust (step limit) desk.courier.weight desk
  { desk with courier := { desk.courier with agenda := desk.courier.agenda.moveTo limit } }

end RequestDesk

end OnDemand
