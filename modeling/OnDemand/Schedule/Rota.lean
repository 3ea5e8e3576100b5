import OnDemand.Schedule.Diary

/-!
# Rotas of chores

A rota is a diary whose tasks are chores. A chore, when its turn comes, takes other
chores off the rota, puts the chores that follow it on the rota, and may then fail.
A rota can be worked off up to a time, its clock moving along, or as far as it is
due without moving the clock.
-/

namespace OnDemand

/-- A task with the tasks that follow it. -/
inductive Chore where
  | mk (name : Nat) (delay : Time) (cancels : List Nat) (follow : List Chore) (fails : Bool)

namespace Chore

instance : Inhabited Chore := ⟨mk 0 0 [] [] false⟩

/-- The name under which a chore is logged and cancelled. -/
def name : Chore → Nat
  | mk name _ _ _ _ => name

/-- How long after it is put on the rota a chore is due. -/
def delay : Chore → Time
  | mk _ delay _ _ _ => delay

/-- The names of the chores that this one takes off the rota. -/
def cancels : Chore → List Nat
  | mk _ _ cancels _ _ => cancels

/-- The chores that this one puts on the rota. -/
def follow : Chore → List Chore
  | mk _ _ _ follow _ => follow

/-- Whether a chore fails after all else. -/
def fails : Chore → Bool
  | mk _ _ _ _ fails => fails

mutual

/-- The number of chores that come of a chore, itself included. -/
def weight : Chore → Nat
  | mk _ _ _ follow _ => 1 + totalWeight follow

/-- The number of chores that come of some chores. -/
def totalWeight : List Chore → Nat
  | [] => 0
  | chore :: rest => chore.weight + totalWeight rest

end

end Chore

/-- A run of a chore: its name, the clock at its start, and whether it failed. -/
structure ChoreRun where
  name : Nat
  time : Time
  failed : Bool
  deriving Repr, DecidableEq

/-- A diary of chores. -/
abbrev Rota := Diary Chore

namespace Rota

/-- The runs so far, latest first. -/
def runs (rota : Rota) : List ChoreRun :=
  rota.rings.map fun ring => ⟨ring.alarm.task.name, ring.time, ring.failed⟩

/-- The handle of the chore last put on under a name. -/
def handle? (rota : Rota) (name : Nat) : Option AlarmHandle :=
  rota.entries.findSome? fun entry =>
    match entry with
    | .set alarm => if alarm.task.name = name then some alarm.handle else none
    | .cancelled _ | .rang _ => none

/-- What a chore does when its turn comes. -/
def conduct (rota : Rota) (alarm : Alarm Chore) : Conduct Chore where
  orders :=
    (alarm.task.cancels.filterMap rota.handle?).map .cancel
      ++ alarm.task.follow.map fun chore => .set chore.delay chore
  fails := alarm.task.fails

def add (rota : Rota) (chore : Chore) : Rota := rota.obey (.set chore.delay chore)

/-- Take the chore last put on under a name off the rota. -/
def cancel (rota : Rota) (name : Nat) : Rota :=
  match rota.handle? name with
  | some handle => rota.obey (.cancel handle)
  | none => rota

/-- Whether the chore last put on under a name was taken off; none if there was
no such chore. -/
def isCancelled? (rota : Rota) (name : Nat) : Option Bool :=
  (rota.handle? name).map rota.agenda.isCancelled

/-- The number of chores that can still come of those that wait. -/
def weight (rota : Rota) : Nat :=
  Agenda.totalLoad (fun alarm => alarm.task.weight) rota.agenda.alarms

/-- Let time pass, doing each chore at its time. -/
def advance (duration : Time) (rota : Rota) : Rota :=
  Diary.advance conduct duration rota.weight rota

/-- Do what is due already. -/
def runDue (rota : Rota) : Rota := Diary.runDue conduct rota.weight rota

/-- Move the clock on by a time without doing anything. -/
def passTime (duration : Time) (rota : Rota) : Rota := rota.moveTo (rota.agenda.now + duration)

/-- Move the clock on to a time, if it is not later, without doing anything. -/
def passTimeTo (time : Time) (rota : Rota) : Rota := rota.moveTo time

/-- Put chores on the rota in turn; the answer names their alarms in the same order. -/
def addAll (rota : Rota) : List Chore → List AlarmHandle × Rota
  | [] => ([], rota)
  | chore :: rest =>
      let (handles, later) := (rota.add chore).addAll rest
      (rota.agenda.nextHandle :: handles, later)

/-- Take alarms off the rota. -/
def cancelAll (rota : Rota) (handles : List AlarmHandle) : Rota :=
  handles.foldl (fun rota handle => rota.obey (.cancel handle)) rota

/-- The names of chores in the order in which they run when each is put on in turn,
those that are marked are then taken off, and enough time passes for all that are
left. -/
def runOrder (chores : List (Chore × Bool)) : List Nat :=
  let (handles, rota) := addAll {} (chores.map (·.1))
  let marked := (handles.zip chores).filter fun entry => entry.2.2
  let rota := cancelAll rota (marked.map (·.1))
  let horizon := (rota.agenda.alarms.map (·.deadline)).foldl max 0
  (runs (rota.drain conduct horizon (weight rota))).reverse.map (·.name)

end Rota

end OnDemand
