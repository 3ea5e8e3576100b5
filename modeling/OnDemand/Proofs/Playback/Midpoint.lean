import OnDemand.Proofs.Playback.Position

/-!
# The middle of an asset

A position notices once in a pass over a long asset that the middle is behind it.  That it has
noticed is a latch of its own: the mark goes with the next word from the server, and with the loss
of the position, but the latch stays closed.  Only the server opens it, by telling a position below
the middle of an asset whose end is known.
-/

namespace OnDemand

/-- The server tells a position below the middle of the asset, and a new pass begins. -/
def PositionAction.Rewinds (position : PlayPosition) : PositionAction → Prop
  | .update milliseconds _ _ =>
      ∃ assetEnd, position.assetEnd = some assetEnd ∧
        Float.ofInt milliseconds.toInt < assetEnd / 2.0
  | .setPaused _ | .setAssetEnd _ | .invalidate | .estimate _ => False

namespace PlayPosition

/-- An estimate notices the middle, and the mark was not set before. -/
def Notices (position : PlayPosition) (now : Time) : Prop :=
  (position.estimate now).1 = .ok (.resync .pastMidpoint) ∧ position.pastMidpoint = false

variable {position : PlayPosition} {action : PositionAction} {now : Time}

/-! ## Noticing the middle -/

theorem pastMidpoint_of_alarm? (raised : position.alarm? = some .pastMidpoint) :
    position.pastMidpoint = true := by
  by_contra unpassed
  rw [alarm?, if_neg unpassed] at raised
  split_ifs at raised <;> cases raised

/-- The middle is noticed only while the latch is open, and that closes it. -/
theorem Notices.latches (noticed : position.Notices now) :
    position.midpointLatched = false ∧ (position.estimate now).2.midpointLatched = true := by
  have estimation := position.estimation now
  have answered := noticed.1
  generalize position.estimate now = estimate at estimation answered ⊢
  cases estimation with
  | alarmed raised =>
      cases answered
      exact absurd (pastMidpoint_of_alarm? raised) (Bool.not_eq_true _ ▸ noticed.2)
  | calm _ asks => exact nomatch asks .pastMidpoint answered
  | near => exact nomatch answered
  | middle _ unlatched => exact ⟨unlatched, rfl⟩

/-! ## Passes over the asset -/

theorem midpointLatched_update {milliseconds : Int32} {scale : Scale}
    (latched : position.midpointLatched = true)
    (kept : ¬ (PositionAction.update milliseconds scale now).Rewinds position) :
    (position.update milliseconds scale now).midpointLatched = true := by
  simp only [update]
  split
  · next assetEnd known =>
      rw [if_neg fun below => kept ⟨assetEnd, known, below⟩]
      exact latched
  · exact latched

theorem midpointLatched_estimate (latched : position.midpointLatched = true) (now : Time) :
    (position.estimate now).2.midpointLatched = true := by
  have estimation := position.estimation now
  generalize position.estimate now = estimate at estimation
  cases estimation with
  | alarmed | calm | near => exact latched
  | middle => rfl

/-- Only a position told below the middle opens the latch. -/
theorem midpointLatched_perform (latched : position.midpointLatched = true)
    (kept : ¬ action.Rewinds position) : (position.perform action).midpointLatched = true := by
  cases action with
  | update => exact midpointLatched_update latched kept
  | setPaused | setAssetEnd | invalidate => exact latched
  | estimate now => exact midpointLatched_estimate latched now

/-- A latch that is found open was opened on the way. -/
theorem exists_rewinds_of_run {actions : List PositionAction}
    (latched : position.midpointLatched = true)
    (opened : (position.run actions).midpointLatched = false) :
    ∃ past action rest, actions = past ++ action :: rest ∧
      action.Rewinds (position.run past) := by
  induction actions generalizing position with
  | nil => exact absurd (latched.symm.trans opened) (by decide)
  | cons first rest ih =>
      by_cases rewinds : first.Rewinds position
      · exact ⟨[], first, rest, rfl, rewinds⟩
      · obtain ⟨past, action, rest, rfl, rewinds⟩ :=
          ih (midpointLatched_perform latched rewinds) opened
        exact ⟨first :: past, action, rest, rfl, rewinds⟩

/-- Whatever has happened to a position before an estimate that notices the middle, and whatever
happens to it between that and another estimate that notices the middle: in between, the server has
told a position below the middle of an asset whose end was known then. -/
theorem notices_once_in_a_pass (threshold maxAge : Time) (earlier between : List PositionAction)
    (now later : Time) :
    let position := (withLimits threshold maxAge).run earlier
    let after := (position.estimate now).2
    position.Notices now → (after.run between).Notices later →
      ∃ past milliseconds scale time rest,
        between = past ++ .update milliseconds scale time :: rest ∧
          ∃ assetEnd, (after.run past).assetEnd = some assetEnd ∧
            Float.ofInt milliseconds.toInt < assetEnd / 2.0 := by
  intro position after first second
  obtain ⟨past, action, rest, split, rewinds⟩ :=
    exists_rewinds_of_run first.latches.2 second.latches.1
  cases action with
  | update milliseconds scale time =>
      exact ⟨past, milliseconds, scale, time, rest, split, rewinds⟩
  | setPaused | setAssetEnd | invalidate | estimate => exact rewinds.elim

/-- A stream passes the middle of its asset, the server takes it back to the first half, and it
passes the middle again. -/
theorem notices_once_in_a_pass_backToFirstHalf :
    let earlier := [PositionAction.setAssetEnd (some 1200000), .update 590000 .normal 0]
    let between := [PositionAction.update 605000 .normal 15000000, .setPaused true,
      .update 100000 .normal 20000000, .setPaused false, .update 599000 .normal 20000000]
    let position := (withLimits defaultThreshold defaultMaxAge).run earlier
    let after := (position.estimate 15000000).2
    position.Notices 15000000 ∧ (after.run between).Notices 22000000 ∧
      ∃ past milliseconds scale time rest,
        between = past ++ .update milliseconds scale time :: rest ∧
          ∃ assetEnd, (after.run past).assetEnd = some assetEnd ∧
            Float.ofInt milliseconds.toInt < assetEnd / 2.0 := by
  intro earlier between position after
  have first : position.Notices 15000000 :=
    ⟨((position.estimation 15000000).alarm?_eq_some_iff.mp (by decide +kernel)).1, rfl⟩
  have second : (after.run between).Notices 22000000 :=
    ⟨(((after.run between).estimation 22000000).alarm?_eq_some_iff.mp (by decide +kernel)).1,
      by decide +kernel⟩
  exact ⟨first, second, notices_once_in_a_pass defaultThreshold defaultMaxAge earlier between
    15000000 22000000 first second⟩

end PlayPosition
end OnDemand
