import Mathlib.Data.List.Nodup
import OnDemand.Schedule.Agenda

/-!
# Agendas in order

An agenda is sound when its alarms stand in the order of their deadlines and no two
of them share a handle.  Every operation keeps it so, and the alarms after an
operation are those before it with one more, one less, or without the first.
-/

namespace OnDemand

/-- One alarm rings before another: it is due sooner, or at the same time and was set
before it. -/
def Alarm.Before {τ : Type} (one other : Alarm τ) : Prop :=
  one.deadline < other.deadline ∨ one.deadline = other.deadline ∧ one.handle < other.handle

theorem Alarm.Before.deadline_le {τ : Type} {one other : Alarm τ} (before : one.Before other) :
    one.deadline ≤ other.deadline := by
  rcases before with sooner | ⟨same, _⟩
  · exact Nat.le_of_lt sooner
  · exact Nat.le_of_eq same

/-- What is set last rings after all that is due no later. -/
theorem Alarm.before_of_handle_lt {τ : Type} {one other : Alarm τ}
    (due : one.deadline ≤ other.deadline) (first : one.handle < other.handle) :
    one.Before other := by
  rcases Nat.lt_or_eq_of_le due with sooner | same
  · exact .inl sooner
  · exact .inr ⟨same, first⟩

namespace Agenda

variable {τ : Type}

/-- Alarms stand in the order in which they ring and are told apart by handles that
were given out already. -/
structure Sound (agenda : Agenda τ) : Prop where
  ordered : agenda.alarms.Pairwise fun earlier later => earlier.deadline ≤ later.deadline
  distinct : (agenda.alarms.map Alarm.handle).Nodup
  issued : ∀ alarm ∈ agenda.alarms, alarm.handle < agenda.nextHandle

/-! ## The order of alarms -/

theorem insert_perm (alarm : Alarm τ) (alarms : List (Alarm τ)) :
    (insert alarm alarms).Perm (alarm :: alarms) := by
  induction alarms with
  | nil => exact .refl _
  | cons first rest ih =>
      simp only [insert]
      split
      · exact (ih.cons first).trans (.swap alarm first rest)
      · exact .refl _

@[simp] theorem mem_insert {alarm other : Alarm τ} {alarms : List (Alarm τ)} :
    other ∈ insert alarm alarms ↔ other = alarm ∨ other ∈ alarms := by
  rw [(insert_perm alarm alarms).mem_iff, List.mem_cons]

/-- An alarm that is left out again leaves the others as they were. -/
theorem filter_insert {keeps : Alarm τ → Bool} {alarm : Alarm τ} (left : keeps alarm = false)
    (alarms : List (Alarm τ)) : (insert alarm alarms).filter keeps = alarms.filter keeps := by
  induction alarms with
  | nil => simp only [insert, List.filter_cons, left, Bool.false_eq_true, if_false]
  | cons first rest ih =>
      simp only [insert]
      split
      · simp only [List.filter_cons, ih]
      · rw [List.filter_cons_of_neg (by simp only [left, Bool.false_eq_true, not_false_eq_true])]

/-- An alarm is put where its deadline belongs. -/
theorem ordered_insert {alarm : Alarm τ} {alarms : List (Alarm τ)}
    (ordered : alarms.Pairwise fun earlier later => earlier.deadline ≤ later.deadline) :
    (insert alarm alarms).Pairwise fun earlier later => earlier.deadline ≤ later.deadline := by
  induction alarms with
  | nil => exact List.pairwise_singleton _ _
  | cons first rest ih =>
      obtain ⟨least, rest_ordered⟩ := List.pairwise_cons.mp ordered
      simp only [insert]
      split
      · next before =>
          refine List.pairwise_cons.mpr ⟨?_, ih rest_ordered⟩
          intro other member
          rcases mem_insert.mp member with rfl | member
          · exact before
          · exact least other member
      · next after =>
          refine List.pairwise_cons.mpr ⟨?_, ordered⟩
          intro other member
          rcases List.mem_cons.mp member with rfl | member
          · exact Nat.le_of_lt (Nat.lt_of_not_le after)
          · exact Nat.le_trans (Nat.le_of_lt (Nat.lt_of_not_le after)) (least other member)

/-- Alarms stand in the order in which they ring, also those that are due together. -/
theorem before_insert {alarm : Alarm τ} {alarms : List (Alarm τ)}
    (ordered : alarms.Pairwise Alarm.Before)
    (last : ∀ other ∈ alarms, other.handle < alarm.handle) :
    (insert alarm alarms).Pairwise Alarm.Before := by
  induction alarms with
  | nil => exact List.pairwise_singleton _ _
  | cons first rest ih =>
      obtain ⟨least, restOrdered⟩ := List.pairwise_cons.mp ordered
      obtain ⟨firstBefore, restBefore⟩ := List.forall_mem_cons.mp last
      simp only [insert]
      split
      · next due =>
          refine List.pairwise_cons.mpr ⟨?_, ih restOrdered restBefore⟩
          intro other member
          rcases mem_insert.mp member with rfl | member
          · exact Alarm.before_of_handle_lt due firstBefore
          · exact least other member
      · next late =>
          have sooner := Nat.lt_of_not_le late
          refine List.pairwise_cons.mpr ⟨?_, ordered⟩
          intro other member
          rcases List.mem_cons.mp member with rfl | member
          · exact .inl sooner
          · exact .inl (Nat.lt_of_lt_of_le sooner (least other member).deadline_le)

/-! ## What operations do to the alarms -/

theorem mem_alarms_after {delay : Time} {task : τ} {agenda : Agenda τ} {alarm : Alarm τ} :
    alarm ∈ (agenda.after delay task).2.alarms ↔
      alarm = ⟨agenda.now + delay, agenda.nextHandle, task⟩ ∨ alarm ∈ agenda.alarms :=
  mem_insert

theorem mem_alarms_cancel {handle : AlarmHandle} {agenda : Agenda τ} {alarm : Alarm τ} :
    alarm ∈ (agenda.cancel handle).alarms ↔ alarm ∈ agenda.alarms ∧ alarm.handle ≠ handle := by
  simp only [cancel, List.mem_filter, decide_eq_true_eq]

theorem popDue?_eq_some_iff {limit : Time} {agenda rest : Agenda τ} {alarm : Alarm τ} :
    agenda.popDue? limit = some (alarm, rest) ↔
      ∃ alarms, agenda.alarms = alarm :: alarms ∧ alarm.deadline ≤ limit ∧
        rest = { agenda with now := max agenda.now alarm.deadline, alarms } := by
  simp only [popDue?]
  split
  · next none => simp [none]
  · next first alarms some =>
      rw [some]
      split
      · next due =>
          simp only [Option.some.injEq, Prod.mk.injEq, List.cons.injEq]
          constructor
          · rintro ⟨rfl, rfl⟩
            exact ⟨alarms, ⟨rfl, rfl⟩, due, rfl⟩
          · rintro ⟨others, ⟨rfl, rfl⟩, _, rfl⟩
            exact ⟨rfl, rfl⟩
      · next early =>
          simp only [reduceCtorEq, List.cons.injEq, false_iff, not_exists, not_and]
          rintro others ⟨rfl, rfl⟩ due
          exact absurd due early

theorem mem_alarms_of_popDue? {limit : Time} {agenda rest : Agenda τ} {alarm : Alarm τ}
    (popped : agenda.popDue? limit = some (alarm, rest)) : alarm ∈ agenda.alarms := by
  obtain ⟨alarms, split, _⟩ := popDue?_eq_some_iff.mp popped
  rw [split]
  exact List.mem_cons_self

theorem nextHandle_popDue? {limit : Time} {agenda rest : Agenda τ} {alarm : Alarm τ}
    (popped : agenda.popDue? limit = some (alarm, rest)) :
    rest.nextHandle = agenda.nextHandle := by
  obtain ⟨_, _, _, rfl⟩ := popDue?_eq_some_iff.mp popped
  rfl

namespace Sound

variable {agenda : Agenda τ}

/-- A handle names one alarm. -/
theorem eq_of_handle_eq (sound : agenda.Sound) {one other : Alarm τ}
    (oneSet : one ∈ agenda.alarms) (otherSet : other ∈ agenda.alarms)
    (same : one.handle = other.handle) : one = other :=
  List.inj_on_of_nodup_map sound.distinct oneSet otherSet same

theorem empty : ({} : Agenda τ).Sound where
  ordered := .nil
  distinct := .nil
  issued _ member := nomatch member

theorem after (sound : agenda.Sound) (delay : Time) (task : τ) :
    (agenda.after delay task).2.Sound where
  ordered := ordered_insert sound.ordered
  distinct := by
    have permuted := (insert_perm ⟨agenda.now + delay, agenda.nextHandle, task⟩
      agenda.alarms).map Alarm.handle
    rw [Agenda.after, permuted.nodup_iff, List.map_cons, List.nodup_cons]
    refine ⟨?_, sound.distinct⟩
    intro member
    obtain ⟨alarm, set, same⟩ := List.mem_map.mp member
    exact absurd same (Nat.ne_of_lt (sound.issued alarm set))
  issued alarm member := by
    rcases mem_alarms_after.mp member with rfl | set
    · exact Nat.lt_succ_self _
    · exact Nat.lt_succ_of_lt (sound.issued alarm set)

theorem cancel (sound : agenda.Sound) (handle : AlarmHandle) : (agenda.cancel handle).Sound where
  ordered := sound.ordered.filter _
  distinct := sound.distinct.sublist (List.filter_sublist.map _)
  issued alarm member := sound.issued alarm (mem_alarms_cancel.mp member).1

/-- An alarm that is set and taken back at once leaves the alarms as they were. -/
theorem alarms_cancel_after (sound : agenda.Sound) (delay : Time) (task : τ) :
    ((agenda.after delay task).2.cancel agenda.nextHandle).alarms = agenda.alarms := by
  simp only [Agenda.after, Agenda.cancel]
  rw [filter_insert (by simp only [ne_eq, not_true_eq_false, decide_false])]
  refine List.filter_eq_self.mpr fun alarm set => decide_eq_true ?_
  exact Nat.ne_of_lt (sound.issued alarm set)

theorem moveTo (sound : agenda.Sound) (time : Time) : (agenda.moveTo time).Sound :=
  ⟨sound.ordered, sound.distinct, sound.issued⟩

theorem popDue? (sound : agenda.Sound) {limit : Time} {alarm : Alarm τ} {rest : Agenda τ}
    (popped : agenda.popDue? limit = some (alarm, rest)) : rest.Sound := by
  obtain ⟨alarms, split, _, rfl⟩ := popDue?_eq_some_iff.mp popped
  obtain ⟨ordered, distinct, issued⟩ := sound
  rw [split] at ordered distinct issued
  exact ⟨ordered.tail, distinct.tail, fun other member =>
    issued other (List.mem_cons_of_mem _ member)⟩

/-- The alarms that are left when the first is taken off are the others. -/
theorem mem_alarms_popDue? (sound : agenda.Sound) {limit : Time} {alarm other : Alarm τ}
    {rest : Agenda τ} (popped : agenda.popDue? limit = some (alarm, rest)) :
    other ∈ rest.alarms ↔ other ∈ agenda.alarms ∧ other.handle ≠ alarm.handle := by
  obtain ⟨alarms, split, _, rfl⟩ := popDue?_eq_some_iff.mp popped
  have distinct := sound.distinct
  rw [split, List.map_cons, List.nodup_cons] at distinct
  rw [split, List.mem_cons]
  constructor
  · intro member
    refine ⟨.inr member, ?_⟩
    intro same
    exact distinct.1 (same ▸ List.mem_map_of_mem member)
  · rintro ⟨rfl | member, other⟩
    · exact absurd rfl other
    · exact member

/-- When no alarm can be taken off, none is due. -/
theorem lt_deadline_of_popDue?_eq_none (sound : agenda.Sound) {limit : Time}
    (none : agenda.popDue? limit = none) : ∀ alarm ∈ agenda.alarms, limit < alarm.deadline := by
  intro alarm member
  have ordered := sound.ordered
  simp only [Agenda.popDue?] at none
  split at none
  · next empty => simp [empty] at member
  · next first alarms split =>
      split at none
      · cases none
      · next early =>
          rw [split] at ordered member
          rcases List.mem_cons.mp member with rfl | later
          · exact Nat.lt_of_not_le early
          · exact Nat.lt_of_lt_of_le (Nat.lt_of_not_le early)
              ((List.pairwise_cons.mp ordered).1 alarm later)

end Sound

/-! ## The clock -/

/-- The clock has not passed an alarm by. -/
def Punctual (agenda : Agenda τ) : Prop := ∀ alarm ∈ agenda.alarms, agenda.now ≤ alarm.deadline

/-- No alarm is due. -/
def Resting (agenda : Agenda τ) : Prop := ∀ alarm ∈ agenda.alarms, agenda.now < alarm.deadline

theorem Resting.punctual {agenda : Agenda τ} (resting : agenda.Resting) : agenda.Punctual :=
  fun alarm member => Nat.le_of_lt (resting alarm member)

/-- An alarm that a punctual clock comes to rings at its deadline, and the clock stays
punctual for all others. -/
theorem Punctual.popDue? {agenda : Agenda τ} (punctual : agenda.Punctual)
    (sound : agenda.Sound) {limit : Time} {alarm : Alarm τ} {rest : Agenda τ}
    (popped : agenda.popDue? limit = some (alarm, rest)) :
    rest.now = alarm.deadline ∧ rest.Punctual := by
  obtain ⟨alarms, split, _, rfl⟩ := popDue?_eq_some_iff.mp popped
  have ordered := sound.ordered
  rw [split] at ordered
  have now : agenda.now ≤ alarm.deadline := punctual alarm (by rw [split]; exact List.mem_cons_self)
  have reached : max agenda.now alarm.deadline = alarm.deadline := Nat.max_eq_right now
  refine ⟨reached, ?_⟩
  intro other member
  change max agenda.now alarm.deadline ≤ other.deadline
  rw [reached]
  exact (List.pairwise_cons.mp ordered).1 other member

/-! ## Alarms that were cancelled -/

/-- No alarm that waits was cancelled, and no handle was cancelled before it was given out. -/
structure Standing (agenda : Agenda τ) : Prop where
  uncancelled : ∀ alarm ∈ agenda.alarms, alarm.handle ∉ agenda.cancelled
  given : ∀ handle ∈ agenda.cancelled, handle < agenda.nextHandle

namespace Standing

variable {agenda : Agenda τ}

theorem empty : ({} : Agenda τ).Standing where
  uncancelled _ member := nomatch member
  given _ member := nomatch member

theorem isCancelled_eq_false (standing : agenda.Standing) {alarm : Alarm τ}
    (set : alarm ∈ agenda.alarms) : agenda.isCancelled alarm.handle = false := by
  rw [isCancelled, List.contains_eq_mem, decide_eq_false_iff_not]
  exact standing.uncancelled alarm set

theorem after (standing : agenda.Standing) (delay : Time) (task : τ) :
    (agenda.after delay task).2.Standing where
  uncancelled alarm member := by
    rcases mem_alarms_after.mp member with rfl | set
    · exact fun cancelled => Nat.lt_irrefl _ (standing.given _ cancelled)
    · exact standing.uncancelled alarm set
  given handle member := Nat.lt_succ_of_lt (standing.given handle member)

theorem cancel (standing : agenda.Standing) {handle : AlarmHandle}
    (given : handle < agenda.nextHandle) : (agenda.cancel handle).Standing where
  uncancelled alarm member := by
    obtain ⟨set, other⟩ := mem_alarms_cancel.mp member
    exact List.not_mem_cons_of_ne_of_not_mem other (standing.uncancelled alarm set)
  given := List.forall_mem_cons.mpr ⟨given, standing.given⟩

theorem moveTo (standing : agenda.Standing) (time : Time) : (agenda.moveTo time).Standing :=
  ⟨standing.uncancelled, standing.given⟩

theorem popDue? (standing : agenda.Standing) {limit : Time} {alarm : Alarm τ} {rest : Agenda τ}
    (popped : agenda.popDue? limit = some (alarm, rest)) : rest.Standing := by
  obtain ⟨alarms, split, _, rfl⟩ := popDue?_eq_some_iff.mp popped
  refine ⟨fun other member => standing.uncancelled other ?_, standing.given⟩
  rw [split]
  exact List.mem_cons_of_mem _ member

end Standing

/-! ## Loads -/

theorem totalLoad_insert (load : Alarm τ → Nat) (alarm : Alarm τ) (alarms : List (Alarm τ)) :
    totalLoad load (insert alarm alarms) = load alarm + totalLoad load alarms := by
  induction alarms with
  | nil => rfl
  | cons first rest ih =>
      simp only [insert]
      split
      · simp only [totalLoad, ih]
        omega
      · rfl

theorem totalLoad_le_of_sublist (load : Alarm τ → Nat) {fewer alarms : List (Alarm τ)}
    (sublist : fewer.Sublist alarms) : totalLoad load fewer ≤ totalLoad load alarms := by
  induction sublist with
  | slnil => exact Nat.le_refl 0
  | cons alarm _ ih => exact Nat.le_trans ih (Nat.le_add_left _ _)
  | cons_cons alarm _ ih => exact Nat.add_le_add_left ih _

theorem totalLoad_filter_le (load : Alarm τ → Nat) (keeps : Alarm τ → Bool)
    (alarms : List (Alarm τ)) :
    totalLoad load (alarms.filter keeps) ≤ totalLoad load alarms :=
  totalLoad_le_of_sublist load List.filter_sublist

theorem totalLoad_add (load further : Alarm τ → Nat) (alarms : List (Alarm τ)) :
    totalLoad (fun alarm => load alarm + further alarm) alarms =
      totalLoad load alarms + totalLoad further alarms := by
  induction alarms with
  | nil => rfl
  | cons first rest ih =>
      simp only [totalLoad, ih]
      omega

theorem totalLoad_le_totalLoad {load lighter : Alarm τ → Nat} {alarms : List (Alarm τ)}
    (le : ∀ alarm ∈ alarms, lighter alarm ≤ load alarm) :
    totalLoad lighter alarms ≤ totalLoad load alarms := by
  induction alarms with
  | nil => exact Nat.le_refl 0
  | cons first rest ih =>
      have head := le first List.mem_cons_self
      have tail := ih fun alarm member => le alarm (List.mem_cons_of_mem _ member)
      simp only [totalLoad]
      omega

end Agenda

/-- With a weight that every step lowers, as much fuel as the weight leaves no step to be taken,
also when the weight is lowered only while something holds that every step keeps. -/
theorem step_exhaust_eq_none_of_keeps {σ : Type} {step : σ → Option σ} (weight : σ → Nat)
    {holds : σ → Prop}
    (keeps : ∀ state next, step state = some next → holds state → holds next)
    (lowers : ∀ state next, step state = some next → holds state → weight next < weight state)
    {fuel : Nat} {state : σ} (start : holds state) (enough : weight state ≤ fuel) :
    step (exhaust step fuel state) = none := by
  induction fuel generalizing state with
  | zero =>
    cases taken : step state with
    | none => simpa only [exhaust] using taken
    | some next => have := lowers state next taken start; omega
  | succ fuel ih =>
    cases taken : step state with
    | none => simp only [exhaust, taken]
    | some next =>
      have lower := lowers state next taken start
      simpa only [exhaust, taken] using ih (keeps state next taken start) (by omega)

/-- What a step keeps, a repetition of the step keeps. -/
theorem exhaust_preserves {σ : Type} {step : σ → Option σ} {holds : σ → Prop}
    (keeps : ∀ state next, step state = some next → holds state → holds next) (fuel : Nat)
    {state : σ} (start : holds state) : holds (exhaust step fuel state) := by
  induction fuel generalizing state with
  | zero => exact start
  | succ fuel ih =>
      cases taken : step state with
      | none => simpa only [exhaust, taken] using start
      | some next => simpa only [exhaust, taken] using ih (keeps state next taken start)

/-! ## Steps until there is none -/

/-- Steps lead from one state to another, in which there is none to be taken. -/
inductive Exhausts {σ : Type} (step : σ → Option σ) : σ → σ → Prop where
  | rest {state : σ} (stuck : step state = none) : Exhausts step state state
  | take {state next last : σ} (taken : step state = some next) (later : Exhausts step next last) :
      Exhausts step state last

namespace Exhausts

variable {σ : Type} {step fewer : σ → Option σ} {state last other : σ}

theorem of_exhaust {fuel : Nat} (stuck : step (exhaust step fuel state) = none) :
    Exhausts step state (exhaust step fuel state) := by
  induction fuel generalizing state with
  | zero => exact .rest stuck
  | succ fuel ih =>
      cases taken : step state with
      | none =>
          rw [exhaust_of_none taken]
          exact .rest taken
      | some next =>
          simp only [exhaust, taken] at stuck ⊢
          exact .take taken (ih stuck)

theorem stuck (exhausts : Exhausts step state last) : step last = none := by
  induction exhausts with
  | rest stuck => exact stuck
  | take _ _ ih => exact ih

/-- More fuel than enough changes nothing. -/
theorem exists_enough (exhausts : Exhausts step state last) :
    ∃ enough, ∀ fuel, enough ≤ fuel → exhaust step fuel state = last := by
  induction exhausts with
  | rest stuck => exact ⟨0, fun fuel _ => exhaust_of_none stuck fuel⟩
  | take taken _ ih =>
      obtain ⟨enough, reached⟩ := ih
      refine ⟨enough + 1, fun fuel more => ?_⟩
      obtain ⟨fuel, rfl⟩ := Nat.exists_eq_add_of_le' (Nat.le_of_add_left_le more)
      simpa only [exhaust, taken] using reached fuel (Nat.le_of_add_le_add_right more)

theorem unique (one : Exhausts step state last) (another : Exhausts step state other) :
    last = other := by
  obtain ⟨enough, reached⟩ := one.exists_enough
  obtain ⟨more, reachedOther⟩ := another.exists_enough
  rw [← reached (max enough more) (Nat.le_max_left _ _),
    reachedOther (max enough more) (Nat.le_max_right _ _)]

/-- What rises with every step is greatest at the end. -/
theorem le_last (exhausts : Exhausts step state last) (height : σ → Nat)
    (rises : ∀ state next, step state = some next → height state ≤ height next) (fuel : Nat) :
    height (exhaust step fuel state) ≤ height last := by
  induction exhausts generalizing fuel with
  | rest stuck => exact Nat.le_of_eq (congrArg height (exhaust_of_none stuck fuel))
  | take taken _ ih =>
      cases fuel with
      | zero => exact Nat.le_trans (rises _ _ taken) (ih 0)
      | succ fuel => simpa only [exhaust, taken] using ih fuel

/-- Steps of which some are taken first, until none of these is left. -/
theorem split (includes : ∀ state next, fewer state = some next → step state = some next)
    (exhausts : Exhausts step state last) :
    ∃ between, Exhausts fewer state between ∧ Exhausts step between last := by
  induction exhausts with
  | rest stuck =>
      refine ⟨_, .rest ?_, .rest stuck⟩
      exact Option.eq_none_iff_forall_ne_some.mpr fun next few => by
        cases stuck.symm.trans (includes _ next few)
  | @take state next last taken later ih =>
      cases few : fewer state with
      | none => exact ⟨state, .rest few, .take taken later⟩
      | some first =>
          cases taken.symm.trans (includes state first few)
          obtain ⟨between, before, after⟩ := ih
          exact ⟨between, .take few before, after⟩

end Exhausts

end OnDemand
