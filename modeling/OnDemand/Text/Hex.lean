/-!
# Numbers in hexadecimal text

Lower-case hexadecimal digits, numerals of a least width, and the reading of a
numeral in a given base. The reader accepts one leading plus sign and any
number of leading zeros.
-/

namespace OnDemand.Text

/-- The lower-case digit of a value below sixteen. -/
def hexDigit (value : Nat) : Char :=
  if value < 10 then Char.ofNat (48 + value) else Char.ofNat (87 + value)

/-- The digits of a number in base sixteen, most significant first; zero is `0`. -/
def hexDigits (value : Nat) : List Char :=
  if value < 16 then [hexDigit value]
  else hexDigits (value / 16) ++ [hexDigit (value % 16)]
termination_by value

/-- A text filled up on the left to a least width. -/
def padLeft (fill : Char) (width : Nat) (text : List Char) : List Char :=
  List.replicate (width - text.length) fill ++ text

/-- A number in base sixteen with zeros up to a least width. -/
def hex (width value : Nat) : String :=
  String.ofList (padLeft '0' width (hexDigits value))

/-- A number in base sixteen after `0x`, with at least `width` digits. -/
def hexNumeral (width value : Nat) : String :=
  "0x" ++ hex width value

/-- Two digits for each byte. -/
def hexBytes (bytes : List UInt8) : String :=
  String.join (bytes.map fun byte => hex 2 byte.toNat)

/-- The value of a digit of either case. -/
def digitValue? (digit : Char) : Option Nat :=
  if '0' ≤ digit ∧ digit ≤ '9' then some (digit.toNat - 48)
  else if 'a' ≤ digit ∧ digit ≤ 'z' then some (digit.toNat - 87)
  else if 'A' ≤ digit ∧ digit ≤ 'Z' then some (digit.toNat - 55)
  else none

/-- The value of a digit that is legal in `base`. -/
def digitIn? (base : Nat) (digit : Char) : Option Nat :=
  (digitValue? digit).filter (· < base)

/-- The value of a text that consists of digits of `base` alone; an empty text
has none. -/
def digitsIn? (base : Nat) : List Char → Option Nat
  | [] => none
  | digits => digits.foldlM (fun value digit =>
      (digitIn? base digit).map (value * base + ·)) 0

/-- The value of an unsigned numeral: an optional plus sign, then digits. -/
def numeralIn? (base : Nat) : List Char → Option Nat
  | '+' :: digits => digitsIn? base digits
  | digits => digitsIn? base digits

end OnDemand.Text
