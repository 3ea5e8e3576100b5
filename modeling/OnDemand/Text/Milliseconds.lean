/-!
# Lengths of time as texts

A length of time is written in seconds from one second on, without zeros at the
end of its fraction, and in milliseconds below.
-/

namespace OnDemand.Text

/-- Three digits without the zeros at their end. -/
def trimmedThousandths (value : Nat) : String :=
  if value % 100 = 0 then toString (value / 100)
  else if value % 10 = 0 then
    toString (value / 100) ++ toString (value / 10 % 10)
  else toString (value / 100) ++ toString (value / 10 % 10) ++ toString (value % 10)

/-- A number of milliseconds as a length of time. -/
def milliseconds (value : Nat) : String :=
  if value = 0 then "0ns"
  else if value < 1000 then toString value ++ "ms"
  else if value % 1000 = 0 then toString (value / 1000) ++ "s"
  else toString (value / 1000) ++ "." ++ trimmedThousandths (value % 1000) ++ "s"

end OnDemand.Text
