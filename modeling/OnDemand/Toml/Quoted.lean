import OnDemand.Text.Hex

/-!
# Texts in TOML documents

There are four spellings of a text: between double quotes with escapes, between
single quotes as it stands, and each of these between triple quotes over several
lines. A line break right after triple quotes does not count, a backslash at the
end of a line swallows all blanks up to the next word, and every line break counts
as a single newline. Control characters other than the tab must be escaped.
-/

namespace OnDemand.Toml

/-- A scanner takes what it looks for off the front of a text. -/
abbrev Scan (α : Type) := List Char → Option (α × List Char)

/-- Whether a character separates words within a line. -/
def isBlank (char : Char) : Bool := char == ' ' || char == '\t'

/-- Whether a character may stand in a text or comment as it is. -/
def isPlain (char : Char) : Bool :=
  char == '\t' || (' ' ≤ char && char != '\x7f')

/-- The text without blanks at its front. -/
def skipBlanks (text : List Char) : List Char := text.dropWhile isBlank

/-- The text after a line break. -/
def newline? : List Char → Option (List Char)
  | '\n' :: rest => some rest
  | '\r' :: '\n' :: rest => some rest
  | _ => none

/-- The text after a line break, if it begins with one. -/
def skipNewline (text : List Char) : List Char := (newline? text).getD text

/-- The character of an escape with digits in base sixteen. -/
def unicode? (digits : List Char) : Option Char := do
  let value ← Text.digitsIn? 16 digits
  if value.isValidChar then some (Char.ofNat value) else none

/-- The character of an escape, after its backslash. -/
def escape : Scan Char
  | 'b' :: rest => some ('\x08', rest)
  | 't' :: rest => some ('\t', rest)
  | 'n' :: rest => some ('\n', rest)
  | 'f' :: rest => some ('\x0c', rest)
  | 'r' :: rest => some ('\r', rest)
  | '"' :: rest => some ('"', rest)
  | '\\' :: rest => some ('\\', rest)
  | 'u' :: rest => do
      guard (4 ≤ rest.length)
      return (← unicode? (rest.take 4), rest.drop 4)
  | 'U' :: rest => do
      guard (8 ≤ rest.length)
      return (← unicode? (rest.take 8), rest.drop 8)
  | _ => none

/-- The rest of a text between double quotes. -/
def basicRest : Nat → Scan (List Char)
  | 0, _ => none
  | _, [] => none
  | _, '"' :: rest => some ([], rest)
  | fuel + 1, '\\' :: rest => do
      let (char, rest) ← escape rest
      let (chars, rest) ← basicRest fuel rest
      return (char :: chars, rest)
  | fuel + 1, char :: rest => do
      guard (isPlain char)
      let (chars, rest) ← basicRest fuel rest
      return (char :: chars, rest)

/-- The rest of a text between single quotes. -/
def literalRest : Scan (List Char)
  | [] => none
  | '\'' :: rest => some ([], rest)
  | char :: rest => do
      guard (isPlain char)
      let (chars, rest) ← literalRest rest
      return (char :: chars, rest)

/-- The end of a text between triple quotes: up to two more quotes belong to the
text. -/
def closing? (quote : Char) (text : List Char) : Option (List Char × List Char) :=
  let quotes := (text.takeWhile (· == quote)).length
  if quotes < 3 then none
  else
    let own := min (quotes - 3) 2
    some (List.replicate own quote, text.drop (own + 3))

/-- The text after blanks and line breaks. -/
def skipBlankLines : List Char → List Char
  | ' ' :: rest | '\t' :: rest | '\n' :: rest | '\r' :: '\n' :: rest => skipBlankLines rest
  | text => text

/-- The text after a backslash at the end of a line and all blanks that follow. -/
def continuation? (text : List Char) : Option (List Char) :=
  (newline? (skipBlanks text)).map skipBlankLines

/-- The rest of a text between triple double quotes. -/
def multilineBasicRest : Nat → Scan (List Char)
  | 0, _ => none
  | fuel + 1, text =>
      match closing? '"' text with
      | some found => some found
      | none =>
          match text with
          | [] => none
          | '\\' :: rest =>
              match continuation? rest with
              | some next => multilineBasicRest fuel next
              | none => do
                  let (char, rest) ← escape rest
                  let (chars, rest) ← multilineBasicRest fuel rest
                  return (char :: chars, rest)
          | char :: rest =>
              match newline? text with
              | some next => do
                  let (chars, rest) ← multilineBasicRest fuel next
                  return ('\n' :: chars, rest)
              | none => do
                  guard (isPlain char)
                  let (chars, rest) ← multilineBasicRest fuel rest
                  return (char :: chars, rest)

/-- The rest of a text between triple single quotes. -/
def multilineLiteralRest : Nat → Scan (List Char)
  | 0, _ => none
  | fuel + 1, text =>
      match closing? '\'' text with
      | some found => some found
      | none =>
          match text with
          | [] => none
          | char :: rest =>
              match newline? text with
              | some next => do
                  let (chars, rest) ← multilineLiteralRest fuel next
                  return ('\n' :: chars, rest)
              | none => do
                  guard (isPlain char)
                  let (chars, rest) ← multilineLiteralRest fuel rest
                  return (char :: chars, rest)

/-- A text on one line. -/
def lineText : Scan String := fun text =>
  match text with
  | '"' :: rest => (basicRest (rest.length + 1) rest).map fun (chars, rest) =>
      (String.ofList chars, rest)
  | '\'' :: rest => (literalRest rest).map fun (chars, rest) => (String.ofList chars, rest)
  | _ => none

/-- A text of any spelling. -/
def quoted : Scan String := fun text =>
  match text with
  | '"' :: '"' :: '"' :: rest =>
      (multilineBasicRest (rest.length + 1) (skipNewline rest)).map fun (chars, rest) =>
        (String.ofList chars, rest)
  | '\'' :: '\'' :: '\'' :: rest =>
      (multilineLiteralRest (rest.length + 1) (skipNewline rest)).map fun (chars, rest) =>
        (String.ofList chars, rest)
  | _ => lineText text

end OnDemand.Toml
