import OnDemand.Proofs.Schedule.Diary
import OnDemand.Schedule.Rota

/-!
# Rotas are worked off

The chores that come of a chore are counted beforehand.  So a call of a rota always returns, and
all that is due by its end is done.
-/

namespace OnDemand

namespace Rota

variable {rota next : Rota}

theorem weight_set (rota : Rota) (delay : Time) (chore : Chore) :
    weight (rota.obey (.set delay chore)) = chore.weight + rota.weight :=
  Agenda.totalLoad_insert _ _ _

theorem weight_cancel_le (rota : Rota) (handle : AlarmHandle) :
    weight (rota.obey (.cancel handle)) ≤ rota.weight := by
  simp only [Diary.obey]
  split
  · exact Agenda.totalLoad_filter_le _ _ _
  · exact Nat.le_refl _

/-- Orders to cancel lower the weight of a rota. -/
theorem weight_cancels_le (handles : List AlarmHandle) (rota : Rota) :
    weight ((handles.map DiaryOrder.cancel).foldl Diary.obey rota) ≤ rota.weight := by
  induction handles generalizing rota with
  | nil => exact Nat.le_refl _
  | cons handle rest ih =>
      exact Nat.le_trans (ih (rota.obey (.cancel handle))) (rota.weight_cancel_le handle)

/-- Chores that are put on a rota add their own weight. -/
theorem weight_sets (chores : List Chore) (rota : Rota) :
    weight ((chores.map fun chore => DiaryOrder.set chore.delay chore).foldl Diary.obey rota) =
      Chore.totalWeight chores + rota.weight := by
  induction chores generalizing rota with
  | nil => exact (Nat.zero_add _).symm
  | cons chore rest ih =>
      rw [List.map_cons, List.foldl_cons, ih, weight_set, Chore.totalWeight]
      omega

/-- A chore that is done leaves its followers. -/
theorem weight_ring_le (alarm : Alarm Chore) (rota : Rota) :
    weight (rota.ring conduct alarm) ≤
      Chore.totalWeight alarm.task.follow + rota.weight := by
  simp only [Diary.ring]
  simp only [conduct, List.foldl_append, weight_sets]
  exact Nat.add_le_add_left (weight_cancels_le _ _) _

/-- A chore weighs more than its followers together. -/
theorem weight_step {limit : Time} (stepped : Diary.step conduct limit rota = some next) :
    next.weight < rota.weight := by
  simp only [Diary.step] at stepped
  split at stepped
  · cases stepped
  · next alarm rest popped =>
      cases stepped
      obtain ⟨alarms, split, _, rfl⟩ := Agenda.popDue?_eq_some_iff.mp popped
      refine Nat.lt_of_le_of_lt (weight_ring_le alarm _) ?_
      have own : alarm.task.weight = 1 + Chore.totalWeight alarm.task.follow := by
        cases alarm.task
        rfl
      simp only [weight, split, Agenda.totalLoad, own]
      omega

/-- Every call of a rota returns. -/
theorem returns (rota : Rota) (call : DiaryCall) :
    Diary.Returns conduct rota.weight rota call :=
  step_exhaust_eq_none weight (fun _ _ => weight_step) (Nat.le_refl _)

/-- After time has passed for a rota, the clock stands at the end of it and all chores that are
due by then and were not taken off are done, each once. -/
theorem isWorkedOff_advance (actions : List (DiaryAction Chore)) (duration : Time) :
    let rota : Rota := Diary.run conduct {} actions
    (rota.advance duration).agenda.now = rota.agenda.now + duration ∧
      (rota.advance duration).IsWorkedOff := by
  intro rota
  have sound : Diary.Sound rota := Diary.Sound.empty.run actions
  exact sound.isWorkedOff_call (returns rota (.advance duration))

/-- After a rota has done what is due, the clock stands where it stood. -/
theorem isWorkedOff_runDue (actions : List (DiaryAction Chore)) :
    let rota : Rota := Diary.run conduct {} actions
    rota.runDue.agenda.now = rota.agenda.now ∧ rota.runDue.IsWorkedOff := by
  intro rota
  have sound : Diary.Sound rota := Diary.Sound.empty.run actions
  exact sound.isWorkedOff_call (returns rota .runDue)

/-- Of two chores that are overdue at once the first takes the second off and is followed by a
third, which is due when it is put on. -/
example :
    let rota : Rota := (add {} (.mk 1 5 [2] [.mk 3 0 [] [] false] true)).add (.mk 2 5 [] [] false)
    (rota.passTime 7).runDue.runs = [⟨3, 7, false⟩, ⟨1, 7, true⟩] := rfl

end Rota

end OnDemand
