/-!
# Playback scales

The speed of playback as a signed fraction: one for normal speed, zero for a
stream that stands still, negative for playing backwards.
-/

namespace OnDemand

/-- A playback speed. -/
structure Scale where
  num : Int16
  den : UInt16
  deriving Repr, DecidableEq

namespace Scale

def normal : Scale := ⟨1, 1⟩

def stopped : Scale := ⟨0, 1⟩

instance : Inhabited Scale := ⟨normal⟩

def isStopped (scale : Scale) : Bool := scale.num == 0

/-- Whether the stream plays backwards. -/
def isReverse (scale : Scale) : Bool := scale.num.toInt < 0

/-- Numerator and denominator with a slash between them. -/
def text (scale : Scale) : String :=
  toString scale.num.toInt ++ "/" ++ toString scale.den.toNat

end Scale

end OnDemand
