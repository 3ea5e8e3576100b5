/-!
# Numerals too great for floating point

A numeral of base ten stands for a whole number times a power of ten. Numbers from
halfway between the greatest finite floating-point number and the next power of two
on are rounded to infinity. The comparison is exact, and the powers in it are cut
where a greater one could not change its outcome, so that an exponent of many
digits costs no more than one of three.
-/

namespace OnDemand.Decimal

/-- The whole number `significand` times ten to the power of `exponent`. -/
structure Numeral where
  significand : Nat
  exponent : Int
  deriving Repr, DecidableEq

/-- The least whole number that is rounded to infinity. -/
def leastInfinite : Nat := (1 <<< 1024) - (1 <<< 970)

/-- The exponent from which on every power of ten is rounded to infinity. -/
def infiniteExponent : Nat := 309

/-- Whether a numeral is rounded to infinity. -/
def Numeral.roundsToInfinity (numeral : Numeral) : Bool :=
  match numeral.exponent with
  | .ofNat exponent =>
      leastInfinite ≤ numeral.significand * Nat.pow 10 (min exponent infiniteExponent)
  | .negSucc exponent =>
      leastInfinite * Nat.pow 10 (min (exponent + 1) (numeral.significand.log2 + 1))
        ≤ numeral.significand

end OnDemand.Decimal
