import OnDemand.StreamControl.Scale

/-!
# Supported speeds

A position can be carried forward only at one of the scales that servers play
at. A scale with the numerator zero stands still, whatever its denominator.
-/

namespace OnDemand

/-- The moving scales that servers play at, with the milliseconds of the asset that
pass in a millisecond. -/
def supportedSpeeds : List (Scale × Float) :=
  [(⟨1, 1⟩, 1.0), (⟨-1, 1⟩, -1.0), (⟨1, 2⟩, 0.5), (⟨-1, 2⟩, -0.5), (⟨2, 1⟩, 2.0),
    (⟨-2, 1⟩, -2.0), (⟨4, 1⟩, 4.0), (⟨-4, 1⟩, -4.0), (⟨15, 2⟩, 7.5), (⟨-15, 2⟩, -7.5),
    (⟨15, 1⟩, 15.0), (⟨-15, 1⟩, -15.0), (⟨30, 1⟩, 30.0), (⟨-30, 1⟩, -30.0),
    (⟨60, 1⟩, 60.0), (⟨-60, 1⟩, -60.0)]

/-- A scale at which no position can be carried forward. -/
structure UnsupportedSpeed where
  scale : Scale
  deriving Repr, DecidableEq

def UnsupportedSpeed.message (speed : UnsupportedSpeed) : String :=
  "Unsupported speed " ++ speed.scale.text

/-- How fast the position moves at a scale. -/
def Scale.rate (scale : Scale) : Except UnsupportedSpeed Float :=
  if scale.isStopped then .ok 0.0
  else
    match supportedSpeeds.find? fun entry => entry.1 = scale with
    | some (_, rate) => .ok rate
    | none => .error ⟨scale⟩

end OnDemand
