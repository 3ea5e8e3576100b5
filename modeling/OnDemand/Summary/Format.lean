import OnDemand.Decimal.Fixed
import OnDemand.StreamControl.Scale

/-!
# Positions, speeds and frequencies for people
-/

namespace OnDemand.Summary

/-- A number with zeros up to a least number of digits. -/
def digits (width value : Nat) : String :=
  String.ofList (Text.padLeft '0' width (toString value).toList)

/-- A position in milliseconds as hours, minutes, seconds and thousandths. -/
def position (milliseconds : Float) : String :=
  let sign := if milliseconds < 0.0 then "-" else ""
  let total := milliseconds.abs.round.toUInt64.toNat
  let seconds := total / 1000
  sign ++ toString (seconds / 3600) ++ ":" ++ digits 2 (seconds % 3600 / 60) ++ ":"
    ++ digits 2 (seconds % 60) ++ "." ++ digits 3 (total % 1000)

/-- A speed as a multiple of normal speed. -/
def speed (scale : Scale) : String :=
  let num := toString scale.num.toInt
  if scale.den ≤ 1 then num ++ "x" else num ++ "/" ++ toString scale.den.toNat ++ "x"

/-- Millionths of a whole number. -/
def millions (value : UInt32) : Float := value.toFloat / 1000000.0

/-- A carrier frequency in megahertz with three places. -/
def frequency (hertz : UInt32) : String := Decimal.fixed 3 (millions hertz) ++ " MHz"

/-- A bandwidth in megabits per second with two places. -/
def bandwidth (bitsPerSecond : UInt32) : String :=
  Decimal.fixed 2 (millions bitsPerSecond) ++ " Mbps"

end OnDemand.Summary
