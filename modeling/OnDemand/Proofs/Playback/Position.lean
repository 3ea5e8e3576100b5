import OnDemand.Proofs.Playback.Accord

/-!
# Alarms of a position

A position tells in two ways that the server has to be asked: by what an estimate answers, and by
refusing its speed.  Age aside, both go by the same alarm, which depends on no time.  An estimate
leaves the alarm as its answer says it is, and only the server that tells a position, and the loss
of the position, make another one of it.
-/

namespace OnDemand

/-- What can happen to a position. -/
inductive PositionAction where
  | update (milliseconds : Int32) (scale : Scale) (now : Time)
  | setPaused (paused : Bool)
  | setAssetEnd (milliseconds : Option UInt32)
  | invalidate
  | estimate (now : Time)
  deriving DecidableEq

/-- The position is neither told nor lost. -/
def PositionAction.IsQuiet : PositionAction → Prop
  | .update .. | .invalidate => False
  | .setPaused _ | .setAssetEnd _ | .estimate _ => True

namespace PlayPosition

def perform (position : PlayPosition) (action : PositionAction) : PlayPosition :=
  match action with
  | .update milliseconds scale now => position.update milliseconds scale now
  | .setPaused paused => position.setPaused paused
  | .setAssetEnd milliseconds => position.setAssetEnd milliseconds
  | .invalidate => position.invalidate
  | .estimate now => (position.estimate now).2

/-- One action after another. -/
def run (position : PlayPosition) (actions : List PositionAction) : PlayPosition :=
  actions.foldl perform position

/-- Why the server has to be asked, whatever the time. -/
def alarm? (position : PlayPosition) : Option ResyncReason :=
  if (position.updatedAt.filter fun _ => position.isStreaming).isNone then some .notStreaming
  else if position.nearBoundary then some .nearBoundary
  else if position.pastMidpoint then some .pastMidpoint
  else none

/-- The position streams exactly when the server has told it. -/
def IsDated (position : PlayPosition) : Prop :=
  position.isStreaming = true ↔ position.updatedAt.isSome = true

variable {position : PlayPosition} {reason : ResyncReason}
  {outcome : Except UnsupportedSpeed Estimate × PlayPosition}

/-! ## Alarms -/

theorem alarm?_eq_none_iff :
    position.alarm? = none ↔
      (position.updatedAt.filter fun _ => position.isStreaming).isNone = false ∧
        position.nearBoundary = false ∧ position.pastMidpoint = false := by
  simp only [alarm?, ite_eq_iff, reduceCtorEq, and_false, false_or, and_true, Bool.not_eq_true]

/-- Age is not a matter of alarm. -/
theorem alarm?_ne_stale (raised : position.alarm? = some reason) : reason ≠ .stale := by
  rw [alarm?] at raised
  rintro rfl
  split_ifs at raised <;> cases raised

theorem alarm?_near (calm : position.alarm? = none) :
    alarm? { position with nearBoundary := true } = some .nearBoundary := by
  obtain ⟨known, -, -⟩ := alarm?_eq_none_iff.mp calm
  simp only [alarm?, known]
  rfl

theorem alarm?_middle (calm : position.alarm? = none) :
    alarm? { position with midpointLatched := true, pastMidpoint := true } =
      some .pastMidpoint := by
  obtain ⟨known, far, -⟩ := alarm?_eq_none_iff.mp calm
  simp only [alarm?, known, far]
  rfl

/-! ## Estimates -/

/-- What an estimate comes to: its answer, and the position it leaves. -/
inductive Estimation (position : PlayPosition) :
    Except UnsupportedSpeed Estimate × PlayPosition → Prop where
  /-- The alarm is raised already. -/
  | alarmed {reason : ResyncReason} (raised : position.alarm? = some reason) :
      Estimation position (.ok (.resync reason), position)
  /-- There is no cause for alarm, though the position may be old, or its scale unsupported. -/
  | calm {answer : Except UnsupportedSpeed Estimate} (calm : position.alarm? = none)
      (asks : ∀ reason, answer = .ok (.resync reason) → reason = .stale) :
      Estimation position (answer, position)
  /-- The stream has come near an edge. -/
  | near (calm : position.alarm? = none) :
      Estimation position (.ok (.resync .nearBoundary), { position with nearBoundary := true })
  /-- The stream has passed the middle, for the first time in this pass. -/
  | middle (calm : position.alarm? = none) (unlatched : position.midpointLatched = false) :
      Estimation position (.ok (.resync .pastMidpoint),
        { position with midpointLatched := true, pastMidpoint := true })

theorem midpointLatched_of_isPastMiddle {rate milliseconds : Float}
    (passed : position.isPastMiddle rate milliseconds = true) :
    position.midpointLatched = false := by
  obtain ⟨_, _, passed⟩ := (Option.any_eq_true _ _).mp passed
  simp only [Bool.and_eq_true, Bool.not_eq_true'] at passed
  exact passed.1.2

theorem estimation (position : PlayPosition) (now : Time) :
    position.Estimation (position.estimate now) := by
  simp only [estimate]
  split
  · next unknown => exact .alarmed (by rw [alarm?, unknown]; rfl)
  next told known =>
  split
  · next near => exact .alarmed (by simp only [alarm?, known, near]; rfl)
  next far =>
  split
  · next passed => exact .alarmed (by simp only [alarm?, known, far, passed]; rfl)
  next unpassed =>
  -- From here on nothing is raised yet, and only the two last tests can raise anything.
  have calm : position.alarm? = none := by simp only [alarm?, known, far, unpassed]; rfl
  split
  · exact .calm calm (by rintro _ ⟨⟩)
  split
  · exact .calm calm (by rintro _ ⟨⟩)
  split
  · exact .calm calm (by rintro _ ⟨⟩)
  split
  · exact .calm calm (by rintro _ ⟨⟩; rfl)
  split
  · exact .near calm
  split
  · next passed => exact .middle calm (midpointLatched_of_isPastMiddle passed)
  · exact .calm calm (by rintro _ ⟨⟩)

/-- Either an estimate leaves the alarm that it answers, or there is none, and nothing changes. -/
theorem Estimation.alarm?_or_eq (estimation : position.Estimation outcome) :
    (∃ reason, outcome.2.alarm? = some reason ∧ outcome.1 = .ok (.resync reason)) ∨
      outcome.2.alarm? = none ∧ outcome.2 = position ∧
        ∀ reason, outcome.1 = .ok (.resync reason) → reason = .stale := by
  cases estimation with
  | alarmed raised => exact .inl ⟨_, raised, rfl⟩
  | calm calm asks => exact .inr ⟨calm, rfl, asks⟩
  | near calm => exact .inl ⟨_, alarm?_near calm, rfl⟩
  | middle calm => exact .inl ⟨_, alarm?_middle calm, rfl⟩

theorem Estimation.alarm?_eq_some_iff (estimation : position.Estimation outcome) :
    outcome.2.alarm? = some reason ↔ outcome.1 = .ok (.resync reason) ∧ reason ≠ .stale := by
  rcases estimation.alarm?_or_eq with ⟨told, raised, answers⟩ | ⟨calm, -, asks⟩
  · rw [raised, answers]
    constructor
    · rintro ⟨⟩
      exact ⟨rfl, alarm?_ne_stale raised⟩
    · rintro ⟨⟨⟩, -⟩
      rfl
  · rw [calm]
    exact iff_of_false (Option.some_ne_none _).symm fun ⟨asked, young⟩ => young (asks _ asked)

/-- An alarm is what is answered, at any time, and stays. -/
theorem estimate_of_alarm? (raised : position.alarm? = some reason) (now : Time) :
    position.estimate now = (.ok (.resync reason), position) := by
  have estimation := position.estimation now
  generalize position.estimate now = estimate at estimation
  cases estimation with
  | alarmed same =>
      cases raised.symm.trans same
      rfl
  | calm calm _ | near calm | middle calm _ => exact nomatch raised.symm.trans calm

/-- A second estimate at the same time answers the same. -/
theorem estimate_again (position : PlayPosition) (now : Time) :
    ((position.estimate now).2.estimate now).1 = (position.estimate now).1 := by
  rcases (position.estimation now).alarm?_or_eq with ⟨reason, raised, answers⟩ | ⟨-, same, -⟩
  · rw [estimate_of_alarm? raised, answers]
  · rw [same]

/-! ## Runs -/

theorem alarm?_perform {action : PositionAction} (quiet : action.IsQuiet)
    (raised : position.alarm? = some reason) : (position.perform action).alarm? = some reason := by
  cases action with
  | update | invalidate => exact quiet.elim
  | setPaused | setAssetEnd => exact raised
  | estimate now => rwa [perform, estimate_of_alarm? raised]

/-- Until the position is told or lost, an alarm stays as it is. -/
theorem alarm?_run {actions : List PositionAction} (quiet : ∀ action ∈ actions, action.IsQuiet)
    (raised : position.alarm? = some reason) : (position.run actions).alarm? = some reason := by
  induction actions generalizing position with
  | nil => exact raised
  | cons action rest ih =>
      obtain ⟨first, quiet⟩ := List.forall_mem_cons.mp quiet
      exact ih quiet (alarm?_perform first raised)

theorem IsDated.perform (dated : position.IsDated) (action : PositionAction) :
    (position.perform action).IsDated := by
  cases action with
  | update | invalidate => exact Iff.rfl
  | setPaused | setAssetEnd => exact dated
  | estimate now =>
      obtain ⟨_, _, _, estimated⟩ := position.estimate_snd now
      rw [PlayPosition.perform, estimated]
      exact dated

theorem IsDated.run (dated : position.IsDated) (actions : List PositionAction) :
    (position.run actions).IsDated := by
  induction actions generalizing position with
  | nil => exact dated
  | cons action rest ih => exact ih (dated.perform action)

/-- The speed is refused exactly for the alarm. -/
theorem IsDated.speed_eq_error_iff (dated : position.IsDated) :
    position.speed = .error reason ↔ position.alarm? = some reason := by
  have unknown : (position.updatedAt.filter fun _ => position.isStreaming).isNone =
      !position.isStreaming := by
    rw [IsDated] at dated
    cases updatedAt : position.updatedAt <;> cases streams : position.isStreaming <;>
      simp_all
  simp only [speed, alarm?, unknown, Bool.not_eq_true, Bool.not_eq_true']
  split_ifs <;> simp only [Except.error.injEq, Option.some.injEq]

/-- Whatever has happened to a position: for any reason but age for which an estimate asks the
server, every later estimate asks it, at any time, and the speed is refused, until the position is
told again or lost; a second estimate at the same time answers the same; and after an estimate the
speed is refused exactly for the reason for which the estimate asks the server, unless that is its
age. -/
theorem resync_lasts_and_agrees (threshold maxAge : Time) (actions : List PositionAction)
    (now : Time) :
    let position := (withLimits threshold maxAge).run actions
    let answer := (position.estimate now).1
    let after := (position.estimate now).2
    (∀ reason, answer = .ok (.resync reason) → reason ≠ .stale →
      ∀ quiet : List PositionAction, (∀ action ∈ quiet, action.IsQuiet) →
        (∀ later, ((after.run quiet).estimate later).1 = .ok (.resync reason)) ∧
          (after.run quiet).speed = .error reason) ∧
      (after.estimate now).1 = answer ∧
      ∀ reason, after.speed = .error reason ↔
        answer = .ok (.resync reason) ∧ reason ≠ .stale := by
  intro position answer after
  have left : ∀ reason, after.alarm? = some reason ↔
      answer = .ok (.resync reason) ∧ reason ≠ .stale := fun _ =>
    (position.estimation now).alarm?_eq_some_iff
  have dated : after.IsDated := by
    have initial : (withLimits threshold maxAge).IsDated := Iff.rfl
    exact (initial.run actions).perform (.estimate now)
  refine ⟨fun reason asks young quiet stays => ?_, position.estimate_again now, fun reason =>
    dated.speed_eq_error_iff.trans (left reason)⟩
  have raised : (after.run quiet).alarm? = some reason :=
    alarm?_run stays ((left reason).mpr ⟨asks, young⟩)
  exact ⟨fun later => by rw [estimate_of_alarm? raised],
    (dated.run quiet).speed_eq_error_iff.mpr raised⟩

/-- A stream came near the end of its asset, and the server still has to be asked when the stream
was paused, the end is no longer known and the clock is set back. -/
theorem resync_lasts_and_agrees_endForgotten :
    let position := (withLimits defaultThreshold defaultMaxAge).run
      [.setAssetEnd (some 20000), .update 0 .normal 0]
    let later := (position.estimate 15500000).2.run
      [.setPaused true, .setAssetEnd none, .estimate 0]
    (position.estimate 15500000).1 = .ok (.resync .nearBoundary) ∧
      (later.estimate 1000000).1 = .ok (.resync .nearBoundary) ∧
      later.speed = .error .nearBoundary := by
  intro position later
  have near : (position.estimate 15500000).1 = .ok (.resync .nearBoundary) :=
    ((position.estimation 15500000).alarm?_eq_some_iff.mp (by decide +kernel)).1
  obtain ⟨asks, refuses⟩ := (resync_lasts_and_agrees defaultThreshold defaultMaxAge
    [.setAssetEnd (some 20000), .update 0 .normal 0] 15500000).1 .nearBoundary near (by decide)
    [.setPaused true, .setAssetEnd none, .estimate 0] (by simp [PositionAction.IsQuiet])
  exact ⟨near, asks 1000000, refuses⟩

end PlayPosition
end OnDemand
