import OnDemand.Text.Hex
import OnDemand.Toml.Value

/-!
# Writing TOML

A text is written in the first of five spellings that suits it: between double quotes
without escapes, between single quotes, between triple double quotes without escapes,
between triple single quotes, and at last between double quotes with escapes, which
are triple quotes if the text has several lines.
-/

namespace OnDemand.Toml

/-- The length of the longest run of a character in a text. -/
def longestRun (char : Char) : List Char → Nat
  | [] => 0
  | first :: rest =>
      max ((first :: rest).takeWhile (· == char)).length (longestRun char rest)

/-- Whether a character has no spelling but an escape. -/
def needsEscape (char : Char) : Bool :=
  (char < ' ' && char != '\t' && char != '\n') || char == '\x7f'

/-- The escape of a character within a line. -/
def escaped (char : Char) : String :=
  if char = '\x08' then "\\b"
  else if char = '\t' then "\\t"
  else if char = '\n' then "\\n"
  else if char = '\x0c' then "\\f"
  else if char = '\r' then "\\r"
  else if char = '"' then "\\\""
  else if char = '\\' then "\\\\"
  else "\\u" ++ String.ofList ((Text.hex 4 char.toNat).toList.map Char.toUpper)

/-- Whether a character other than a double quote stands between double quotes as it
is. -/
def isBare (multiline : Bool) (char : Char) : Bool :=
  if char = '\n' then multiline else !(needsEscape char || char == '\t' || char == '\\')

/-- The characters between double quotes. Between triple quotes two double quotes in a
row need no escape; the number counts those that come right before. -/
def basicBody (multiline : Bool) : Nat → List Char → String
  | _, [] => ""
  | quotes, char :: rest =>
      if char = '"' then
        if multiline ∧ quotes < 2 then "\"" ++ basicBody multiline (quotes + 1) rest
        else escaped char ++ basicBody multiline 0 rest
      else if isBare multiline char then String.singleton char ++ basicBody multiline 0 rest
      else escaped char ++ basicBody multiline 0 rest

/-- A text between quotes. A text of several lines begins on a line of its own. -/
def enclosed (quote : String) (multiline : Bool) (body : String) : String :=
  quote ++ (if multiline then "\n" else "") ++ body ++ quote

def textLiteral (text : String) : String :=
  let chars := text.toList
  let lines := chars.contains '\n'
  let controls := chars.any needsEscape
  let backslash := chars.contains '\\'
  let double := longestRun '"' chars
  let single := longestRun '\'' chars
  if ¬controls ∧ ¬backslash ∧ double = 0 ∧ ¬lines then
    enclosed "\"" false (basicBody false 0 chars)
  else if ¬controls ∧ single = 0 ∧ ¬lines then enclosed "'" false text
  else if ¬controls ∧ ¬backslash ∧ double ≤ 2 then
    enclosed "\"\"\"" lines (basicBody true 0 chars)
  else if ¬controls ∧ single ≤ 2 then enclosed "'''" lines text
  else if lines then enclosed "\"\"\"" true (basicBody true 0 chars)
  else enclosed "\"" false (basicBody false 0 chars)

mutual

def valueText : TomlValue → String
  | .text value => textLiteral value
  | .integer value => toString value
  | .float spelling => spelling
  | .boolean value => if value then "true" else "false"
  | .date spelling => spelling
  | .array items => "[" ++ ", ".intercalate (itemTexts items) ++ "]"
  | .table entries => "\x7b " ++ ", ".intercalate (entryTexts entries) ++ " \x7d"

def itemTexts : List TomlValue → List String
  | [] => []
  | item :: rest => valueText item :: itemTexts rest

/-- The keys of a table, each with its value. The keys need no quotes. -/
def entryTexts : List (String × TomlValue) → List String
  | [] => []
  | (key, value) :: rest => (key ++ " = " ++ valueText value) :: entryTexts rest

end

/-- A table under its heading, a line for each entry. -/
def tableText (name : String) (entries : List (String × TomlValue)) : String :=
  "[" ++ name ++ "]\n" ++ String.join ((entryTexts entries).map (· ++ "\n"))

end OnDemand.Toml
