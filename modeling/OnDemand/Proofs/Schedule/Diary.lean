import OnDemand.Proofs.Schedule.Agenda
import OnDemand.Schedule.Diary

/-!
# Alarms ring in order, once, and not after they were cancelled

Tasks do as they like with the diary that lets them ring: they set alarms, cancel alarms that
are about to ring, and fail.  Still the alarms that rang and the alarms that wait make up one
sequence that increases in deadline and, at one deadline, in the order in which they were set.
An alarm moves from the second part of it to the first when it rings; nothing else is ever put
in front of what waits, since no alarm can be set for a time that has passed.
-/

namespace OnDemand

/-- The alarm that an entry says was set. -/
def DiaryEntry.alarm? {τ : Type} : DiaryEntry τ → Option (Alarm τ)
  | set alarm => some alarm
  | cancelled _ | rang _ => none

/-- A call that lets alarms ring. -/
inductive DiaryCall where
  | advance (duration : Time)
  | runDue
  deriving Repr, DecidableEq

/-- What can happen to a diary from outside. -/
inductive DiaryAction (τ : Type) where
  | order (order : DiaryOrder τ)
  /-- A call, which is broken off when more alarms than `fuel` would ring in it.  One that would
  go on without end is so taken as far as one likes. -/
  | call (call : DiaryCall) (fuel : Nat)
  | passTime (duration : Time)
  | passTimeTo (time : Time)
  deriving Repr, DecidableEq

namespace Diary

variable {τ : Type}

/-- The alarms that were set, latest first. -/
def scheduled (diary : Diary τ) : List (Alarm τ) := diary.entries.filterMap DiaryEntry.alarm?

/-- The alarms that rang, earliest first. -/
def rung (diary : Diary τ) : List (Alarm τ) := (diary.rings.map Ring.alarm).reverse

/-! ## Runs -/

/-- The time up to which alarms ring in a call. -/
def horizon (diary : Diary τ) : DiaryCall → Time
  | .advance duration => diary.agenda.now + duration
  | .runDue => diary.agenda.now

/-- Make a call. -/
def call (conduct : Diary τ → Alarm τ → Conduct τ) (fuel : Nat) (diary : Diary τ) :
    DiaryCall → Diary τ
  | .advance duration => diary.advance conduct duration fuel
  | .runDue => diary.runDue conduct fuel

/-- A call returns when no alarm is left that would ring in it. -/
def Returns (conduct : Diary τ → Alarm τ → Conduct τ) (fuel : Nat) (diary : Diary τ)
    (call : DiaryCall) : Prop :=
  (diary.drain conduct (diary.horizon call) fuel).step conduct (diary.horizon call) = none

/-- What an action does to a diary. -/
def perform (conduct : Diary τ → Alarm τ → Conduct τ) (diary : Diary τ) :
    DiaryAction τ → Diary τ
  | .order order => diary.obey order
  | .call call fuel => diary.call conduct fuel call
  | .passTime duration => diary.moveTo (diary.agenda.now + duration)
  | .passTimeTo time => diary.moveTo time

/-- What actions do to a diary, one after another. -/
def run (conduct : Diary τ → Alarm τ → Conduct τ) (diary : Diary τ)
    (actions : List (DiaryAction τ)) : Diary τ :=
  actions.foldl (perform conduct) diary

/-! ## What is to hold of them -/

/-- A ring is written down after its alarm was set, and not after it was cancelled. -/
def IsInTurn (entries : List (DiaryEntry τ)) : Prop :=
  ∀ ⦃later ring earlier⦄, entries = later ++ .rang ring :: earlier →
    .set ring.alarm ∈ earlier ∧ .cancelled ring.alarm.handle ∉ earlier

/-- Alarms ring in the order of their deadlines and, at one deadline, in the order in which they
were set, each once, and none early or after it was cancelled. -/
structure InOrder (diary : Diary τ) : Prop where
  /-- Handles tell the order in which alarms were set. -/
  numbered : diary.scheduled.Pairwise fun later earlier => earlier.handle < later.handle
  ordered : diary.rung.Pairwise Alarm.Before
  once : (diary.rung.map Alarm.handle).Nodup
  turns : IsInTurn diary.entries
  due : ∀ ring ∈ diary.rings, ring.alarm.deadline ≤ ring.time

/-- What rings in a call rings at its deadline or, if that was before the call began, when the
call began. -/
def RingsOnTime (before after : Diary τ) : Prop :=
  ∃ written, after.entries = written ++ before.entries ∧
    ∀ ring, .rang ring ∈ written → ring.time = max before.agenda.now ring.alarm.deadline

/-- No alarm is left that is due, and each alarm that is due and was not cancelled has rung
exactly once. -/
structure IsWorkedOff (diary : Diary τ) : Prop where
  resting : diary.agenda.Resting
  once : ∀ alarm, .set alarm ∈ diary.entries → alarm.deadline ≤ diary.agenda.now →
    .cancelled alarm.handle ∉ diary.entries →
    (diary.rung.map Alarm.handle).count alarm.handle = 1

/-! ## The sequence of alarms -/

/-- The alarms that rang, and after them the alarms that wait. -/
def sequence (diary : Diary τ) : List (Alarm τ) := diary.rung ++ diary.agenda.alarms

/-- What is written down agrees with the agenda. -/
structure Sound (diary : Diary τ) : Prop where
  agenda : diary.agenda.Sound
  standing : diary.agenda.Standing
  ordered : diary.sequence.Pairwise Alarm.Before
  distinct : (diary.sequence.map Alarm.handle).Nodup
  numbered : diary.scheduled.Pairwise fun later earlier => earlier.handle < later.handle
  given : ∀ alarm, .set alarm ∈ diary.entries → alarm.handle < diary.agenda.nextHandle
  waiting : ∀ alarm ∈ diary.agenda.alarms, .set alarm ∈ diary.entries
  cancelled : ∀ handle, .cancelled handle ∈ diary.entries ↔ handle ∈ diary.agenda.cancelled
  timely : ∀ ring ∈ diary.rings, ring.alarm.deadline ≤ ring.time ∧ ring.time ≤ diary.agenda.now
  turns : IsInTurn diary.entries
  accounted : ∀ alarm, .set alarm ∈ diary.entries →
    alarm ∈ diary.sequence ∨ .cancelled alarm.handle ∈ diary.entries

variable {diary next : Diary τ} {conduct : Diary τ → Alarm τ → Conduct τ} {limit : Time}

/-! ## What is written down -/

@[simp] theorem mem_rings {ring : Ring τ} : ring ∈ diary.rings ↔ .rang ring ∈ diary.entries := by
  simp only [rings, List.mem_filterMap]
  constructor
  · rintro ⟨_ | _ | _, member, own⟩ <;> cases own
    exact member
  · exact fun member => ⟨_, member, rfl⟩

@[simp] theorem mem_scheduled {alarm : Alarm τ} :
    alarm ∈ diary.scheduled ↔ .set alarm ∈ diary.entries := by
  simp only [scheduled, List.mem_filterMap]
  constructor
  · rintro ⟨_ | _ | _, member, own⟩ <;> cases own
    exact member
  · exact fun member => ⟨_, member, rfl⟩

theorem mem_rung {alarm : Alarm τ} :
    alarm ∈ diary.rung ↔ ∃ ring, .rang ring ∈ diary.entries ∧ ring.alarm = alarm := by
  simp only [rung, List.mem_reverse, List.mem_map, mem_rings]

theorem IsInTurn.cons {entries : List (DiaryEntry τ)} (turns : IsInTurn entries)
    {entry : DiaryEntry τ}
    (own : ∀ ring, entry = .rang ring →
      .set ring.alarm ∈ entries ∧ .cancelled ring.alarm.handle ∉ entries) :
    IsInTurn (entry :: entries) := by
  intro later ring earlier split
  cases later with
  | nil =>
      obtain ⟨same, rfl⟩ := List.cons_eq_cons.mp split
      exact own ring same
  | cons first rest => exact turns (List.cons_eq_cons.mp split).2

namespace Sound

theorem empty : ({} : Diary τ).Sound where
  agenda := .empty
  standing := .empty
  ordered := .nil
  distinct := .nil
  numbered := .nil
  given _ member := nomatch member
  waiting _ member := nomatch member
  cancelled _ := ⟨nofun, nofun⟩
  timely _ member := nomatch member
  turns _ _ _ split :=
    absurd split.symm (List.append_ne_nil_of_right_ne_nil _ (List.cons_ne_nil _ _))
  accounted _ member := nomatch member

/-- What rang had been set, and was due. -/
theorem of_mem_rung (sound : diary.Sound) {alarm : Alarm τ} (member : alarm ∈ diary.rung) :
    .set alarm ∈ diary.entries ∧ alarm.deadline ≤ diary.agenda.now := by
  obtain ⟨ring, written, rfl⟩ := mem_rung.mp member
  obtain ⟨due, past⟩ := sound.timely ring (mem_rings.mpr written)
  obtain ⟨later, earlier, split⟩ := List.append_of_mem written
  refine ⟨?_, Nat.le_trans due past⟩
  rw [split]
  exact List.mem_append_right _ (List.mem_cons_of_mem _ (sound.turns split).1)

theorem set_of_mem_sequence (sound : diary.Sound) {alarm : Alarm τ}
    (member : alarm ∈ diary.sequence) : .set alarm ∈ diary.entries := by
  rcases List.mem_append.mp member with rang | waits
  · exact (sound.of_mem_rung rang).1
  · exact sound.waiting alarm waits

/-- Nothing rang twice. -/
theorem nodup_rung (sound : diary.Sound) : (diary.rung.map Alarm.handle).Nodup :=
  sound.distinct.sublist ((List.sublist_append_left _ _).map _)

/-! ## Orders -/

theorem set (sound : diary.Sound) (delay : Time) (task : τ) :
    (diary.obey (.set delay task)).Sound := by
  let alarm : Alarm τ := ⟨diary.agenda.now + delay, diary.agenda.nextHandle, task⟩
  have given : ∀ other ∈ diary.sequence, other.handle < alarm.handle :=
    fun other member => sound.given other (sound.set_of_mem_sequence member)
  have permuted : (diary.obey (.set delay task)).sequence.Perm (alarm :: diary.sequence) :=
    ((Agenda.insert_perm alarm _).append_left diary.rung).trans List.perm_middle
  obtain ⟨rungOrdered, alarmsOrdered, across⟩ := List.pairwise_append.mp sound.ordered
  constructor
  case agenda => exact sound.agenda.after delay task
  case standing => exact sound.standing.after delay task
  case ordered =>
    refine List.pairwise_append.mpr ⟨rungOrdered, ?_, ?_⟩
    · exact Agenda.before_insert alarmsOrdered fun other member =>
        given other (List.mem_append_right _ member)
    · intro earlier member later waits
      rcases Agenda.mem_alarms_after.mp waits with rfl | waits
      · -- nothing is set for a time that has passed
        refine Alarm.before_of_handle_lt ?_ (given earlier (List.mem_append_left _ member))
        exact Nat.le_trans (sound.of_mem_rung member).2 (Nat.le_add_right _ _)
      · exact across earlier member later waits
  case distinct =>
    rw [(permuted.map Alarm.handle).nodup_iff, List.map_cons, List.nodup_cons]
    refine ⟨?_, sound.distinct⟩
    intro member
    obtain ⟨other, present, same⟩ := List.mem_map.mp member
    exact absurd same (Nat.ne_of_lt (given other present))
  case numbered =>
    exact List.pairwise_cons.mpr ⟨fun other member => sound.given other (mem_scheduled.mp member),
      sound.numbered⟩
  case given =>
    intro other member
    rcases List.mem_cons.mp member with same | member
    · cases DiaryEntry.set.inj same
      exact Nat.lt_succ_self _
    · exact Nat.lt_succ_of_lt (sound.given other member)
  case waiting =>
    intro other waits
    rcases Agenda.mem_alarms_after.mp waits with rfl | waits
    · exact List.mem_cons_self
    · exact List.mem_cons_of_mem _ (sound.waiting other waits)
  case cancelled =>
    intro handle
    change .cancelled handle ∈ DiaryEntry.set alarm :: diary.entries ↔ _
    rw [List.mem_cons, sound.cancelled handle]
    exact or_iff_right nofun
  case timely => exact sound.timely
  case turns => exact sound.turns.cons nofun
  case accounted =>
    intro other member
    rcases List.mem_cons.mp member with same | member
    · cases DiaryEntry.set.inj same
      exact .inl (permuted.mem_iff.mpr List.mem_cons_self)
    · exact (sound.accounted other member).imp
        (fun present => permuted.mem_iff.mpr (List.mem_cons_of_mem _ present))
        (List.mem_cons_of_mem _)

theorem cancel (sound : diary.Sound) (handle : AlarmHandle) :
    (diary.obey (.cancel handle)).Sound := by
  simp only [obey]
  split
  · next given =>
      have kept :
          (diary.rung ++ (diary.agenda.cancel handle).alarms).Sublist diary.sequence :=
        List.filter_sublist.append_left _
      constructor
      case agenda => exact sound.agenda.cancel handle
      case standing => exact sound.standing.cancel given
      case ordered => exact sound.ordered.sublist kept
      case distinct => exact sound.distinct.sublist (kept.map _)
      case numbered => exact sound.numbered
      case given =>
        intro alarm member
        exact sound.given alarm ((List.mem_cons.mp member).resolve_left nofun)
      case waiting =>
        intro alarm waits
        exact List.mem_cons_of_mem _ (sound.waiting alarm (Agenda.mem_alarms_cancel.mp waits).1)
      case cancelled =>
        intro other
        rw [List.mem_cons, DiaryEntry.cancelled.injEq, sound.cancelled other]
        exact List.mem_cons.symm
      case timely => exact sound.timely
      case turns => exact sound.turns.cons nofun
      case accounted =>
        intro alarm member
        rcases sound.accounted alarm ((List.mem_cons.mp member).resolve_left nofun) with
          present | crossed
        · rcases List.mem_append.mp present with rang | waits
          · exact .inl (List.mem_append_left _ rang)
          · by_cases same : alarm.handle = handle
            · exact .inr (same ▸ List.mem_cons_self)
            · refine .inl (List.mem_append_right _ ?_)
              exact Agenda.mem_alarms_cancel.mpr ⟨waits, same⟩
        · exact .inr (List.mem_cons_of_mem _ crossed)
  · exact sound

theorem obey (sound : diary.Sound) (order : DiaryOrder τ) : (diary.obey order).Sound := by
  cases order with
  | set delay task => exact sound.set delay task
  | cancel handle => exact sound.cancel handle

end Sound

/-! ## Rings -/

/-- An alarm that rings goes from those that wait to those that rang. -/
theorem sequence_rang {rest : Agenda τ} {alarm : Alarm τ}
    (popped : diary.agenda.popDue? limit = some (alarm, rest)) (failed : Bool) :
    sequence ⟨rest, .rang ⟨alarm, rest.now, failed⟩ :: diary.entries⟩ = diary.sequence := by
  obtain ⟨alarms, split, _, rfl⟩ := Agenda.popDue?_eq_some_iff.mp popped
  simp only [sequence, rung, rings, List.filterMap_cons, DiaryEntry.ring?, List.map_cons,
    List.reverse_cons, List.append_assoc, List.singleton_append, split]

theorem Sound.rang (sound : diary.Sound) {rest : Agenda τ} {alarm : Alarm τ}
    (popped : diary.agenda.popDue? limit = some (alarm, rest)) (failed : Bool) :
    Sound ⟨rest, .rang ⟨alarm, rest.now, failed⟩ :: diary.entries⟩ := by
  have sequence := sequence_rang popped failed
  have waited := Agenda.mem_alarms_of_popDue? popped
  obtain ⟨alarms, split, _, rest_eq⟩ := Agenda.popDue?_eq_some_iff.mp popped
  constructor
  case agenda => exact sound.agenda.popDue? popped
  case standing => exact sound.standing.popDue? popped
  case ordered =>
    rw [sequence]
    exact sound.ordered
  case distinct =>
    rw [sequence]
    exact sound.distinct
  case numbered => exact sound.numbered
  case given =>
    intro other member
    rw [Agenda.nextHandle_popDue? popped]
    exact sound.given other ((List.mem_cons.mp member).resolve_left nofun)
  case waiting =>
    intro other waits
    refine List.mem_cons_of_mem _ (sound.waiting other ?_)
    exact ((sound.agenda.mem_alarms_popDue? popped).mp waits).1
  case cancelled =>
    intro handle
    subst rest_eq
    change .cancelled handle ∈ DiaryEntry.rang _ :: diary.entries ↔ _
    rw [List.mem_cons]
    exact (or_iff_right nofun).trans (sound.cancelled handle)
  case timely =>
    intro ring member
    rcases List.mem_cons.mp (mem_rings.mp member) with same | member
    · cases DiaryEntry.rang.inj same
      subst rest_eq
      exact ⟨Nat.le_max_right _ _, Nat.le_refl _⟩
    · obtain ⟨due, past⟩ := sound.timely ring (mem_rings.mpr member)
      subst rest_eq
      exact ⟨due, Nat.le_trans past (Nat.le_max_left _ _)⟩
  case turns =>
    apply sound.turns.cons
    intro ring same
    cases DiaryEntry.rang.inj same
    refine ⟨sound.waiting alarm waited, ?_⟩
    rw [sound.cancelled]
    exact sound.standing.uncancelled alarm waited
  case accounted =>
    intro other member
    rw [sequence]
    exact (sound.accounted other ((List.mem_cons.mp member).resolve_left nofun)).imp_right
      (List.mem_cons_of_mem _)

/-- What is kept when a ring is written down and when an order is followed is kept by a step,
whatever the task does. -/
theorem step_preserves (holds : Diary τ → Prop)
    (rang : ∀ {alarm rest}, diary.agenda.popDue? limit = some (alarm, rest) → ∀ failed,
      holds ⟨rest, .rang ⟨alarm, rest.now, failed⟩ :: diary.entries⟩)
    (obeys : ∀ order {diary}, holds diary → holds (diary.obey order))
    (stepped : diary.step conduct limit = some next) : holds next := by
  simp only [step] at stepped
  split at stepped
  · cases stepped
  · next alarm rest popped =>
      cases stepped
      have written := rang popped (conduct { diary with agenda := rest } alarm).fails
      exact List.foldlRecOn _ obey written fun _ kept order _ => obeys order kept

/-! ## Calls -/

/-- A diary while a call that began before lets alarms ring. -/
structure InCall (before : Diary τ) (limit : Time) (diary : Diary τ) : Prop where
  sound : diary.Sound
  began : before.agenda.now ≤ diary.agenda.now
  ends : diary.agenda.now ≤ limit
  /-- The clock has passed no alarm by that it had not passed by before. -/
  waiting : ∀ alarm ∈ diary.agenda.alarms,
    max diary.agenda.now alarm.deadline = max before.agenda.now alarm.deadline
  onTime : RingsOnTime before diary

namespace InCall

variable {before : Diary τ}

theorem start (sound : before.Sound) (ends : before.agenda.now ≤ limit) :
    InCall before limit before :=
  ⟨sound, Nat.le_refl _, ends, fun _ _ => rfl, [], rfl, fun _ member => nomatch member⟩

theorem obey (inCall : InCall before limit diary) (order : DiaryOrder τ) :
    InCall before limit (diary.obey order) := by
  obtain ⟨sound, began, ends, waiting, written, entries, onTime⟩ := inCall
  cases order with
  | set delay task =>
      refine ⟨sound.obey _, began, ends, ?_, .set _ :: written, congrArg _ entries, ?_⟩
      · intro alarm waits
        rcases Agenda.mem_alarms_after.mp waits with rfl | waits
        · have ahead := Nat.le_add_right diary.agenda.now delay
          exact (Nat.max_eq_right ahead).trans (Nat.max_eq_right (Nat.le_trans began ahead)).symm
        · exact waiting alarm waits
      · exact fun ring member => onTime ring ((List.mem_cons.mp member).resolve_left nofun)
  | cancel handle =>
      have kept := sound.obey (.cancel handle)
      simp only [Diary.obey] at kept ⊢
      split
      · next given =>
          rw [if_pos given] at kept
          refine ⟨kept, began, ends, ?_, .cancelled handle :: written, congrArg _ entries, ?_⟩
          · exact fun alarm waits => waiting alarm (Agenda.mem_alarms_cancel.mp waits).1
          · exact fun ring member => onTime ring ((List.mem_cons.mp member).resolve_left nofun)
      · exact ⟨sound, began, ends, waiting, written, entries, onTime⟩

theorem rang (inCall : InCall before limit diary) {alarm : Alarm τ} {rest : Agenda τ}
    (popped : diary.agenda.popDue? limit = some (alarm, rest)) (failed : Bool) :
    InCall before limit ⟨rest, .rang ⟨alarm, rest.now, failed⟩ :: diary.entries⟩ := by
  obtain ⟨sound, began, ends, waiting, written, entries, onTime⟩ := inCall
  have kept := sound.rang popped failed
  have waited := Agenda.mem_alarms_of_popDue? popped
  obtain ⟨alarms, split, due, rfl⟩ := Agenda.popDue?_eq_some_iff.mp popped
  have ordered := sound.agenda.ordered
  rw [split] at ordered
  constructor
  case sound => exact kept
  case began => exact Nat.le_trans began (Nat.le_max_left _ _)
  case ends => exact Nat.max_le.mpr ⟨ends, due⟩
  case waiting =>
    intro other waits
    have later := (List.pairwise_cons.mp ordered).1 other waits
    rw [← waiting other (split ▸ List.mem_cons_of_mem _ waits)]
    change max (max diary.agenda.now alarm.deadline) other.deadline = _
    rw [Nat.max_assoc, Nat.max_eq_right later]
  case onTime =>
    refine ⟨.rang _ :: written, congrArg _ entries, ?_⟩
    intro ring member
    rcases List.mem_cons.mp member with same | member
    · cases DiaryEntry.rang.inj same
      exact waiting alarm waited
    · exact onTime ring member

theorem drain (inCall : InCall before limit diary) (fuel : Nat) :
    InCall before limit (diary.drain conduct limit fuel) :=
  exhaust_preserves
    (fun _ _ stepped inCall => step_preserves _ (fun popped => inCall.rang popped)
      (fun order _ inCall => inCall.obey order) stepped) fuel inCall

end InCall

theorem Sound.isWorkedOff (sound : diary.Sound) (resting : diary.agenda.Resting) :
    diary.IsWorkedOff where
  resting := resting
  once := by
    intro alarm set due uncancelled
    rcases List.mem_append.mp ((sound.accounted alarm set).resolve_right uncancelled) with
      rang | waits
    · exact List.count_eq_one_of_mem sound.nodup_rung (List.mem_map_of_mem rang)
    · exact absurd due (Nat.not_le_of_lt (resting alarm waits))

theorem now_le_horizon (diary : Diary τ) (call : DiaryCall) :
    diary.agenda.now ≤ diary.horizon call := by
  cases call with
  | advance duration => exact Nat.le_add_right _ _
  | runDue => exact Nat.le_refl _

/-- A clock that is not earlier stays. -/
theorem moveTo_of_le {time : Time} (past : time ≤ diary.agenda.now) :
    diary.moveTo time = diary := by
  rw [moveTo, Agenda.moveTo, Nat.max_eq_left past]

theorem Sound.moveTo (sound : diary.Sound) (time : Time) : (diary.moveTo time).Sound :=
  { sound with
    agenda := sound.agenda.moveTo time
    standing := sound.standing.moveTo time
    timely := fun ring member =>
      have ⟨due, past⟩ := sound.timely ring member
      ⟨due, Nat.le_trans past (Nat.le_max_left _ _)⟩ }

/-- A diary in a call of its own, as long as the call lasts. -/
theorem Sound.inCall_drain (sound : diary.Sound) (conduct : Diary τ → Alarm τ → Conduct τ)
    (call : DiaryCall) (fuel : Nat) :
    InCall diary (diary.horizon call) (diary.drain conduct (diary.horizon call) fuel) :=
  (InCall.start sound (diary.now_le_horizon call)).drain fuel

/-- In every call alarms ring up to a time, and then the clock stands there. -/
theorem Sound.call_eq (sound : diary.Sound) (call : DiaryCall) (fuel : Nat) :
    diary.call conduct fuel call =
      (diary.drain conduct (diary.horizon call) fuel).moveTo (diary.horizon call) := by
  cases call with
  | advance duration => rfl
  | runDue => exact (moveTo_of_le (sound.inCall_drain conduct .runDue fuel).began).symm

theorem Sound.call (sound : diary.Sound) (call : DiaryCall) (fuel : Nat) :
    (diary.call conduct fuel call).Sound := by
  rw [sound.call_eq]
  exact (sound.inCall_drain conduct call fuel).sound.moveTo _

theorem Sound.ringsOnTime_call (sound : diary.Sound) (call : DiaryCall) (fuel : Nat) :
    diary.RingsOnTime (diary.call conduct fuel call) := by
  rw [sound.call_eq]
  exact (sound.inCall_drain conduct call fuel).onTime

/-- A call that returns has let ring all that was due until its end. -/
theorem Sound.isWorkedOff_call (sound : diary.Sound) {call : DiaryCall} {fuel : Nat}
    (returns : diary.Returns conduct fuel call) :
    (diary.call conduct fuel call).agenda.now = diary.horizon call ∧
      (diary.call conduct fuel call).IsWorkedOff := by
  have inCall := sound.inCall_drain conduct call fuel
  have stands : (diary.call conduct fuel call).agenda.now = diary.horizon call := by
    rw [sound.call_eq]
    exact Nat.max_eq_right inCall.ends
  refine ⟨stands, (sound.call call fuel).isWorkedOff ?_⟩
  have none : (diary.drain conduct (diary.horizon call) fuel).agenda.popDue?
      (diary.horizon call) = none := by
    simp only [Returns, step] at returns
    split at returns
    · assumption
    · cases returns
  intro alarm waits
  rw [stands]
  rw [sound.call_eq] at waits
  exact inCall.sound.agenda.lt_deadline_of_popDue?_eq_none none alarm waits

/-! ## Calls that return -/

/-- However many of the alarms ring that are due at a time, so many are set in all. -/
def SetsAtMost (conduct : Diary τ → Alarm τ → Conduct τ) (limit : Time) (count : Nat)
    (diary : Diary τ) : Prop :=
  ∀ fuel, (diary.drain conduct limit fuel).scheduled.length ≤ count

/-- The tasks of the alarms that are due at a time, and of those that come of them, do not go on
for ever setting further alarms. -/
def SetsFinitely (conduct : Diary τ → Alarm τ → Conduct τ) (limit : Time) (diary : Diary τ) :
    Prop :=
  ∃ count, diary.SetsAtMost conduct limit count

/-- The alarms that wait, and those that can still be set if there are to be so many in all. -/
def room (count : Nat) (diary : Diary τ) : Nat :=
  diary.agenda.alarms.length + (count - diary.scheduled.length)

/-- An alarm that rings no longer waits, and each that waits in its place was set. -/
theorem length_alarms_step (stepped : diary.step conduct limit = some next) :
    next.agenda.alarms.length + diary.scheduled.length <
      diary.agenda.alarms.length + next.scheduled.length := by
  refine step_preserves (fun next =>
    next.agenda.alarms.length + diary.scheduled.length <
      diary.agenda.alarms.length + next.scheduled.length) ?_ ?_ stepped
  · intro alarm rest popped failed
    obtain ⟨alarms, split, _, rfl⟩ := Agenda.popDue?_eq_some_iff.mp popped
    rw [split]
    exact Nat.add_lt_add_right (Nat.lt_succ_self _) _
  · intro order next fewer
    cases order with
    | set delay task =>
        have more : (next.obey (.set delay task)).agenda.alarms.length =
            next.agenda.alarms.length + 1 :=
          (Agenda.insert_perm _ _).length_eq
        have one : (next.obey (.set delay task)).scheduled.length = next.scheduled.length + 1 := rfl
        omega
    | cancel handle =>
        simp only [obey]
        split
        · exact Nat.lt_of_le_of_lt (Nat.add_le_add_right (List.length_filter_le _ _) _) fewer
        · exact fewer

theorem length_scheduled_step (stepped : diary.step conduct limit = some next) :
    diary.scheduled.length ≤ next.scheduled.length := by
  refine step_preserves (fun next => diary.scheduled.length ≤ next.scheduled.length) ?_ ?_ stepped
  · exact fun _ _ => Nat.le_refl _
  · intro order next fewer
    cases order with
    | set delay task => exact Nat.le_succ_of_le fewer
    | cancel handle =>
        simp only [obey]
        split <;> exact fewer

theorem SetsAtMost.step {count : Nat} (most : diary.SetsAtMost conduct limit count)
    (stepped : diary.step conduct limit = some next) : next.SetsAtMost conduct limit count := by
  intro fuel
  simpa only [drain, exhaust, stepped] using most (fuel + 1)

theorem SetsAtMost.room_lt {count : Nat} (most : diary.SetsAtMost conduct limit count)
    (stepped : diary.step conduct limit = some next) : next.room count < diary.room count := by
  have fewer := length_alarms_step stepped
  have before : diary.scheduled.length ≤ count := most 0
  have after : next.scheduled.length ≤ count := most.step stepped 0
  simp only [room]
  omega

/-- Alarms that ring without end would be set without end. -/
theorem SetsFinitely.exists_returns (call : DiaryCall)
    (finite : diary.SetsFinitely conduct (diary.horizon call)) :
    ∃ fuel, diary.Returns conduct fuel call := by
  obtain ⟨count, most⟩ := finite
  exact ⟨diary.room count, step_exhaust_eq_none_of_keeps (room count)
    (fun _ _ stepped most => most.step stepped) (fun _ _ stepped most => most.room_lt stepped)
    most (Nat.le_refl _)⟩

theorem setsFinitely_of_returns {call : DiaryCall} {fuel : Nat}
    (returns : diary.Returns conduct fuel call) :
    diary.SetsFinitely conduct (diary.horizon call) :=
  ⟨_, (Exhausts.of_exhaust returns).le_last (fun diary => diary.scheduled.length)
    fun _ _ => length_scheduled_step⟩

/-! ## Runs keep the order -/

theorem Sound.inOrder (sound : diary.Sound) : diary.InOrder where
  numbered := sound.numbered
  ordered := sound.ordered.sublist (List.sublist_append_left _ _)
  once := sound.nodup_rung
  turns := sound.turns
  due ring member := (sound.timely ring member).1

theorem Sound.perform (sound : diary.Sound) (action : DiaryAction τ) :
    (diary.perform conduct action).Sound := by
  cases action with
  | order order => exact sound.obey order
  | call call fuel => exact sound.call call fuel
  | passTime duration => exact sound.moveTo _
  | passTimeTo time => exact sound.moveTo time

theorem Sound.run (sound : diary.Sound) (actions : List (DiaryAction τ)) :
    (diary.run conduct actions).Sound := by
  induction actions generalizing diary with
  | nil => exact sound
  | cons action rest ih => exact ih (sound.perform action)

/-- In every run, whatever the tasks do, alarms ring in order, once, and not after they were
cancelled.  In every call they ring on time, and when a call returns, the clock stands where the
call was to end and nothing that is due is left.  A call does return, unless tasks go on for ever
setting further alarms that are due in it.  Since no alarm rings twice, a conduct that goes by the
handles of alarms covers tasks that act on what happens outside the diary as well. -/
theorem inOrder_run (conduct : Diary τ → Alarm τ → Conduct τ)
    (actions : List (DiaryAction τ)) :
    let diary := run conduct {} actions
    diary.InOrder ∧
      (∀ call fuel,
        diary.RingsOnTime (diary.call conduct fuel call) ∧
          (diary.Returns conduct fuel call →
            (diary.call conduct fuel call).agenda.now = diary.horizon call ∧
              (diary.call conduct fuel call).IsWorkedOff)) ∧
      ∀ call, diary.SetsFinitely conduct (diary.horizon call) →
        ∃ fuel, diary.Returns conduct fuel call := by
  intro diary
  have sound : diary.Sound := Sound.empty.run actions
  exact ⟨sound.inOrder,
    fun call fuel => ⟨sound.ringsOnTime_call call fuel, sound.isWorkedOff_call⟩,
    fun call finite => finite.exists_returns call⟩

/-- Task 1 cancels the second alarm, sets one that is due at once, and fails. -/
def unruly (_ : Diary Nat) (alarm : Alarm Nat) : Conduct Nat :=
  if alarm.task = 1 then ⟨[.cancel 1, .set 0 3], true⟩ else {}

/-- The clock passes two alarms by, of which the first is task 1. -/
def overdueTasks : List (DiaryAction Nat) :=
  [.order (.set 2 1), .order (.set 2 2), .order (.set 5 4), .passTime 3]

theorem inOrder_run_unruly :
    let diary := run unruly {} overdueTasks
    let after := diary.call unruly 3 (.advance 2)
    diary.SetsFinitely unruly (diary.horizon (.advance 2)) ∧
      (∃ fuel, diary.Returns unruly fuel (.advance 2)) ∧
      diary.Returns unruly 3 (.advance 2) ∧ diary.RingsOnTime after ∧
      after.rung.map Alarm.task = [1, 3, 4] ∧ after.agenda.now = 5 ∧ after.IsWorkedOff := by
  intro diary after
  have returns : diary.Returns unruly 3 (.advance 2) := rfl
  have finite := setsFinitely_of_returns returns
  obtain ⟨_, calls, finishes⟩ := inOrder_run unruly overdueTasks
  obtain ⟨onTime, worksOff⟩ := calls (.advance 2) 3
  obtain ⟨now, workedOff⟩ := worksOff returns
  exact ⟨finite, finishes _ finite, returns, onTime, by decide, now, workedOff⟩

end Diary

end OnDemand
