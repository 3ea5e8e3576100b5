import OnDemand.Playback.Speed
import OnDemand.Schedule.Agenda

/-!
# Positions carried forward

The position of a stream is told by the server now and then. In between it is
carried forward from the last position told, at the scale told, by the time that
has passed. Where this cannot be trusted, the server has to be asked: when it has
told nothing yet, near the edge of the asset towards which the stream moves, once
when a long asset has passed its middle, and when its last word is too old.

The alarms about the edge and the middle, once raised, stay raised until the
server tells a position again.
-/

namespace OnDemand

/-- Why the server has to be asked. -/
inductive ResyncReason where
  | notStreaming
  | nearBoundary
  | pastMidpoint
  | stale
  deriving Repr, DecidableEq

def ResyncReason.name : ResyncReason → String
  | notStreaming => "NotStreaming"
  | nearBoundary => "NearBoundary"
  | pastMidpoint => "PastMidpoint"
  | stale => "Stale"

/-- What can be said about a position. -/
inductive Estimate where
  /-- Milliseconds after the start of the asset. -/
  | position (milliseconds : Float)
  | resync (reason : ResyncReason)

def Time.seconds (time : Time) : Float :=
  Float.ofNat (time / 1000000) + Float.ofNat (time % 1000000 * 1000) / 1000000000.0

/-- What is known about the position of a stream. -/
structure PlayPosition where
  /-- The last position told, in milliseconds. -/
  milliseconds : Float := 0.0
  /-- The last scale told. -/
  scale : Scale := .normal
  isStreaming : Bool := false
  isPaused : Bool := false
  /-- When the server told the position. -/
  updatedAt : Option Time := none
  /-- The length of the asset in milliseconds, if it is known. -/
  assetEnd : Option Float := none
  nearBoundary : Bool := false
  pastMidpoint : Bool := false
  /-- Whether the middle has been noticed in this pass over the asset. -/
  midpointLatched : Bool := false
  /-- How near an edge a position is not trusted, in milliseconds. -/
  threshold : Float
  /-- How old a position may be. -/
  maxAge : Time

namespace PlayPosition

/-- The distance from an edge within which no position is trusted by default. -/
def defaultThreshold : Time := 5000000

/-- The age up to which a position is trusted by default. -/
def defaultMaxAge : Time := 60000000

/-- The length from which on an asset is long. -/
def longAsset : Float := 600000.0

/-- Nothing is known yet. -/
def withLimits (threshold maxAge : Time) : PlayPosition where
  threshold := threshold.seconds * 1000.0
  maxAge := maxAge

/-- Nothing is known yet, and the limits are the default ones. -/
def initial : PlayPosition := withLimits defaultThreshold defaultMaxAge

/-- The server tells a position. Below the middle of the asset a new pass begins. -/
def update (milliseconds : Int32) (scale : Scale) (now : Time) (position : PlayPosition) :
    PlayPosition :=
  { position with
    milliseconds := Float.ofInt milliseconds.toInt
    scale := scale
    isStreaming := true
    updatedAt := some now
    nearBoundary := false
    pastMidpoint := false
    midpointLatched :=
      match position.assetEnd with
      | some assetEnd =>
          if Float.ofInt milliseconds.toInt < assetEnd / 2.0 then false
          else position.midpointLatched
      | none => position.midpointLatched }

/-- The stream stands still, or no longer does. -/
def setPaused (paused : Bool) (position : PlayPosition) : PlayPosition :=
  { position with isPaused := paused }

/-- The length of the asset is this, or is not known. -/
def setAssetEnd (milliseconds : Option UInt32) (position : PlayPosition) : PlayPosition :=
  { position with assetEnd := milliseconds.map UInt32.toFloat }

/-- The position is no longer known. -/
def invalidate (position : PlayPosition) : PlayPosition :=
  { position with
    isStreaming := false
    updatedAt := none
    nearBoundary := false
    pastMidpoint := false }

/-- The speed, unless the server has to be asked. -/
def speed (position : PlayPosition) : Except ResyncReason Scale :=
  if ¬ position.isStreaming then .error .notStreaming
  else if position.nearBoundary then .error .nearBoundary
  else if position.pastMidpoint then .error .pastMidpoint
  else if position.isPaused then .ok .stopped
  else .ok position.scale

/-- Whether a moving position is near the edge towards which it moves. -/
def isNearEdge (position : PlayPosition) (rate milliseconds : Float) : Bool :=
  (decide (rate < 0.0) && decide (milliseconds ≤ position.threshold))
    || (decide (rate > 0.0)
      && position.assetEnd.any fun assetEnd =>
        decide (milliseconds ≥ assetEnd - position.threshold))

/-- Whether a moving position has passed the middle of a long asset, which was not
noticed before. -/
def isPastMiddle (position : PlayPosition) (rate milliseconds : Float) : Bool :=
  position.assetEnd.any fun assetEnd =>
    decide (rate > 0.0) && decide (assetEnd ≥ longAsset) && !position.midpointLatched
      && decide (assetEnd < 2.0 * milliseconds)

/-- The position carried forward at a rate for a time. -/
def carried (position : PlayPosition) (rate : Float) (elapsed : Time) : Float :=
  position.milliseconds + rate * elapsed.seconds * 1000.0

/-- The position at a time, unless the server has to be asked. -/
def estimate (now : Time) (position : PlayPosition) :
    Except UnsupportedSpeed Estimate × PlayPosition :=
  match position.updatedAt.filter fun _ => position.isStreaming with
  | none => (.ok (.resync .notStreaming), position)
  | some updatedAt =>
      if position.nearBoundary then (.ok (.resync .nearBoundary), position)
      else if position.pastMidpoint then (.ok (.resync .pastMidpoint), position)
      else if position.isPaused then (.ok (.position position.milliseconds), position)
      else
        match position.scale.rate with
        | .error fault => (.error fault, position)
        | .ok rate =>
            let elapsed := now - updatedAt
            let milliseconds := position.carried rate elapsed
            if rate == 0.0 then (.ok (.position position.milliseconds), position)
            else if elapsed > position.maxAge then (.ok (.resync .stale), position)
            else if position.isNearEdge rate milliseconds then
              (.ok (.resync .nearBoundary), { position with nearBoundary := true })
            else if position.isPastMiddle rate milliseconds then
              (.ok (.resync .pastMidpoint),
                { position with midpointLatched := true, pastMidpoint := true })
            else (.ok (.position milliseconds), position)

end PlayPosition

end OnDemand
