import OnDemand.Decimal.Overflow
import OnDemand.Text.Split
import OnDemand.Toml.Quoted
import OnDemand.Toml.Value

/-!
# Numbers and dates in TOML documents

Whole numbers fit 64 bits with a sign; they may be written in base ten, or without
a sign in base sixteen, eight or two. A numeral in base ten has no leading zero.
Single underscores may stand between digits. A number with a fraction or an exponent
is refused when it is rounded to infinity, unless it is negative. Dates are checked
against the calendar.
-/

namespace OnDemand.Toml

/-- The digits of a numeral without the single underscores between them. -/
def ungrouped? (isDigit : Char → Bool) (text : List Char) : Option (List Char) :=
  let groups := OnDemand.Text.splitWhen (· == '_') text
  if groups.all fun group => !group.isEmpty && group.all isDigit then some groups.flatten
  else none

/-- The digits of a numeral of base ten without a leading zero. -/
def decimal? (text : List Char) : Option (List Char) := do
  let digits ← ungrouped? Char.isDigit text
  guard (digits.length = 1 ∨ digits.head? ≠ some '0')
  return digits

/-- Whether a number fits 64 bits with a sign. -/
def fits (value : Int) : Bool :=
  Int64.minValue.toInt ≤ value && value ≤ Int64.maxValue.toInt

/-- The sign of a numeral, and the numeral without it. -/
def signed (text : List Char) : Bool × List Char :=
  match text with
  | '-' :: rest => (true, rest)
  | '+' :: rest => (false, rest)
  | _ => (false, text)

/-- The value of a numeral in a base. -/
def inBase? (base : Nat) (text : List Char) : Option Int := do
  let digits ← ungrouped? (fun digit => (OnDemand.Text.digitIn? base digit).isSome) text
  return Int.ofNat (← OnDemand.Text.digitsIn? base digits)

/-- The value of a numeral of base ten that may have a sign. -/
def signedDecimal? (text : List Char) : Option Int := do
  let (negative, numeral) := signed text
  let value ← OnDemand.Text.digitsIn? 10 (← decimal? numeral)
  return if negative then -Int.ofNat value else Int.ofNat value

def integer? (text : List Char) : Option Int :=
  Option.filter fits <|
    match text with
    | '0' :: 'x' :: rest => inBase? 16 rest
    | '0' :: 'o' :: rest => inBase? 8 rest
    | '0' :: 'b' :: rest => inBase? 2 rest
    | _ => signedDecimal? text

/-- The value of an exponent, after its letter. It may have leading zeros. -/
def exponent? (text : List Char) : Option Int := do
  let (negative, numeral) := signed text
  let value ← OnDemand.Text.digitsIn? 10 (← ungrouped? Char.isDigit numeral)
  return if negative then -Int.ofNat value else Int.ofNat value

/-- The digits before and after the point of a numeral. -/
def pointed? (text : List Char) : Option (List Char × List Char) :=
  match OnDemand.Text.splitWhen (· == '.') text with
  | [whole, fraction] => do
      return (← decimal? whole, ← ungrouped? Char.isDigit fraction)
  | _ => none

/-- The numeral of some digits, the last of which stand after a point. -/
def scaled? (whole fraction : List Char) (exponent : Int) : Option Decimal.Numeral := do
  let significand ← OnDemand.Text.digitsIn? 10 (whole ++ fraction)
  return ⟨significand, exponent - fraction.length⟩

/-- The value of a number without a sign that has a fraction, an exponent or both. -/
def scientific? (text : List Char) : Option Decimal.Numeral :=
  match OnDemand.Text.splitWhen (fun char => char == 'e' || char == 'E') text with
  | [mantissa] => do
      let (whole, fraction) ← pointed? mantissa
      scaled? whole fraction 0
  | [mantissa, exponent] => do
      let (whole, fraction) ← (pointed? mantissa).or ((decimal? mantissa).map (·, []))
      scaled? whole fraction (← exponent? exponent)
  | _ => none

/-- Whether a text is a number with a fraction or an exponent, or the name of a number
that is not finite. A positive number that is rounded to infinity is neither. -/
def isFloat (text : List Char) : Bool :=
  let (negative, numeral) := signed text
  numeral == ['i', 'n', 'f'] || numeral == ['n', 'a', 'n']
    || (scientific? numeral).any fun value => negative || !value.roundsToInfinity

/-- A number of exactly so many digits within bounds. -/
def field? (width low high : Nat) (text : List Char) : Option Nat := do
  guard (text.length = width)
  let value ← OnDemand.Text.digitsIn? 10 text
  guard (low ≤ value ∧ value ≤ high)
  return value

/-- The number of days of a month. -/
def monthLength (year month : Nat) : Nat :=
  if month = 2 then
    if year % 4 = 0 ∧ (year % 100 ≠ 0 ∨ year % 400 = 0) then 29 else 28
  else if month = 4 ∨ month = 6 ∨ month = 9 ∨ month = 11 then 30
  else 31

/-- Whether a text is a day of the calendar. -/
def isDay (text : List Char) : Bool :=
  match OnDemand.Text.splitWhen (· == '-') text with
  | [year, month, day] =>
      match field? 4 0 9999 year, field? 2 1 12 month with
      | some year, some month => (field? 2 1 (monthLength year month) day).isSome
      | _, _ => false
  | _ => false

/-- Whether a text is a time of day. -/
def isTime (text : List Char) : Bool :=
  match OnDemand.Text.splitWhen (· == ':') text with
  | [hour, minute, second] =>
      (field? 2 0 23 hour).isSome && (field? 2 0 59 minute).isSome
        && match OnDemand.Text.splitWhen (· == '.') second with
          | [whole] => (field? 2 0 60 whole).isSome
          | [whole, fraction] =>
              (field? 2 0 60 whole).isSome && !fraction.isEmpty && fraction.all Char.isDigit
          | _ => false
  | _ => false

/-- Whether a text is the offset of a time zone, without its sign. -/
def isOffset (text : List Char) : Bool :=
  match OnDemand.Text.splitWhen (· == ':') text with
  | [hour, minute] => (field? 2 0 23 hour).isSome && (field? 2 0 59 minute).isSome
  | _ => false

/-- Whether a text is a time of day that the offset of a time zone may follow. -/
def isZonedTime (text : List Char) : Bool :=
  if isTime text then true
  else if text.getLast?.any fun last => last == 'Z' || last == 'z' then isTime text.dropLast
  else
    match OnDemand.Text.splitWhen (fun char => char == '+' || char == '-') text with
    | [time, offset] => isTime time && isOffset offset
    | _ => false

/-- Whether a text is a date, a time, or both with a letter or blank between them. -/
def isDate (text : List Char) : Bool :=
  isDay text || isTime text
    || (isDay (text.take 10)
      && match text.drop 10 with
        | mark :: time => (mark == 'T' || mark == 't' || mark == ' ') && isZonedTime time
        | [] => false)

/-- Whether a character can belong to a number, a date or a word. -/
def isWordChar (char : Char) : Bool :=
  char.isAlphanum || char == '+' || char == '-' || char == '.' || char == '_' || char == ':'

/-- The value of a word. -/
def wordValue? (word : List Char) : Option TomlValue :=
  if word = "true".toList then some (.boolean true)
  else if word = "false".toList then some (.boolean false)
  else if isDate word then some (.date (String.ofList word))
  else if isFloat word then some (.float (String.ofList word))
  else (integer? word).map .integer

/-- A number, a date or a truth value. A day and a time may have a blank between
them. -/
def word : Scan TomlValue := fun text =>
  let first := text.takeWhile isWordChar
  let rest := text.dropWhile isWordChar
  let both := first ++ ' ' :: (rest.drop 1).takeWhile isWordChar
  if rest.head? = some ' ' ∧ isDay first ∧ isDate both then
    some (.date (String.ofList both), (rest.drop 1).dropWhile isWordChar)
  else (wordValue? first).map fun value => (value, rest)

end OnDemand.Toml
