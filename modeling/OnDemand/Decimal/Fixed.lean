import OnDemand.Text.Hex

/-!
# Numbers with fixed places

A floating-point number stands for a whole number times a power of two. Written
with a fixed number of places it is rounded from that exact value; of two
neighbours that are equally near, the one with the even last digit is taken.
-/

namespace OnDemand.Decimal

/-- A quotient rounded to the nearest whole number, a half to the even neighbour. -/
def roundDiv (num den : Nat) : Nat :=
  let low := num / den
  let twice := 2 * (num % den)
  if twice < den then low
  else if den < twice then low + 1
  else low + low % 2

/-- The bit of a mantissa that is not stored. -/
def leadingBit : Nat := 0x10000000000000

/-- The magnitude of a finite floating-point number as a fraction of whole numbers. -/
def fraction (value : Float) : Nat × Nat :=
  let bits := value.toBits.toNat % 0x8000000000000000
  let exponent := bits / leadingBit
  let mantissa := bits % leadingBit
  if exponent = 0 then (mantissa, 1 <<< 1074)
  else if exponent < 1075 then (mantissa + leadingBit, 1 <<< (1075 - exponent))
  else ((mantissa + leadingBit) <<< (exponent - 1075), 1)

/-- A whole number of units of the last place as digits with a point. -/
def placed (places units : Nat) : String :=
  let whole := toString (units / Nat.pow 10 places)
  if places = 0 then whole
  else
    whole ++ "."
      ++ String.ofList (Text.padLeft '0' places (toString (units % Nat.pow 10 places)).toList)

/-- The magnitude of a finite number with a fixed number of places. -/
def fixed (places : Nat) (value : Float) : String :=
  let (num, den) := fraction value
  placed places (roundDiv (num * Nat.pow 10 places) den)

end OnDemand.Decimal
