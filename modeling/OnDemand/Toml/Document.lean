import OnDemand.Toml.Number
import OnDemand.Toml.Tree

/-!
# TOML documents

A document is a sequence of lines: headings, keys with their values, comments and
empty lines. Arrays may stretch over several lines. Arrays and tables within lines
are nested at most `depthLimit` deep, and a key has at most as many parts.
-/

namespace OnDemand.Toml

/-- How deep arrays and tables within lines may be nested, and how many parts a key may
have. -/
def depthLimit : Nat := 79

/-- The text after a comment, if it begins with one. -/
def skipComment (text : List Char) : Option (List Char) :=
  match text with
  | '#' :: rest =>
      let after := rest.dropWhile isPlain
      if after.isEmpty || (newline? after).isSome then some after else none
  | _ => some text

/-- The text after the end of a line, before which blanks and a comment may stand. -/
def endLine (text : List Char) : Option (List Char) := do
  let rest ← skipComment (skipBlanks text)
  if rest.isEmpty then some [] else newline? rest

/-- The text after blanks, comments and line breaks. -/
def skipLines : Nat → List Char → Option (List Char)
  | 0, text => some text
  | fuel + 1, text => do
      let rest ← skipComment (skipBlanks text)
      match newline? rest with
      | some next => skipLines fuel next
      | none => some rest

/-- Whether a character can stand in a key without quotes. -/
def isKeyChar (char : Char) : Bool := char.isAlphanum || char == '_' || char == '-'

/-- A part of a key. -/
def keyPart : Scan String := fun text =>
  match lineText text with
  | some found => some found
  | none =>
      let part := text.takeWhile isKeyChar
      if part.isEmpty then none else some (String.ofList part, text.dropWhile isKeyChar)

/-- The parts of a key, at most so many, with dots between them. -/
def keyParts : Nat → Scan (List String)
  | 0, _ => none
  | most + 1, text => do
      let (part, rest) ← keyPart (skipBlanks text)
      match skipBlanks rest with
      | '.' :: rest => do
          let (parts, rest) ← keyParts most rest
          return (part :: parts, rest)
      | rest => return ([part], rest)

def key : Scan (List String) := keyParts depthLimit

mutual

/-- A value in which arrays and tables are nested at most so deep. The second number
bounds the parts of an array or table. -/
def value : Nat → Nat → Scan TomlValue
  | depth, fuel, text =>
      match text with
      | '"' :: _ | '\'' :: _ => (quoted text).map fun (text, rest) => (.text text, rest)
      | '[' :: rest =>
          match depth with
          | 0 => none
          | depth + 1 => (items depth fuel rest).map fun (items, rest) => (.array items, rest)
      | '\x7b' :: rest =>
          match depth with
          | 0 => none
          | depth + 1 =>
              match skipBlanks rest with
              | '\x7d' :: rest => some (.table [], rest)
              | rest => (pairs depth fuel [] rest).map fun (entries, rest) =>
                  (.table (entryValues entries), rest)
      | _ => word text
termination_by depth _ => (depth, 0)

/-- The rest of an array. -/
def items : Nat → Nat → Scan (List TomlValue)
  | _, 0, _ => none
  | depth, fuel + 1, text => do
      match ← skipLines text.length text with
      | ']' :: rest => return ([], rest)
      | text => do
          let (item, rest) ← value depth fuel text
          match ← skipLines rest.length rest with
          | ']' :: rest => return ([item], rest)
          | ',' :: rest => do
              let (others, rest) ← items depth fuel rest
              return (item :: others, rest)
          | _ => none
termination_by depth fuel => (depth, fuel + 1)

/-- The rest of a table within a line, after the entries so far. -/
def pairs : Nat → Nat → Entries → Scan Entries
  | _, 0, _, _ => none
  | depth, fuel + 1, entries, text => do
      let (path, rest) ← key text
      match rest with
      | '=' :: rest => do
          let (found, rest) ← value depth fuel (skipBlanks rest)
          let entries ←
            entries.addValue path.dropLast (path.getLastD "") found .heading
          match skipBlanks rest with
          | '\x7d' :: rest => return (entries, rest)
          | ',' :: rest => pairs depth fuel entries rest
          | _ => none
      | _ => none
termination_by depth fuel => (depth, fuel + 1)

end

/-- A document that was read up to some line: its entries, and the table to which the
next key is added. -/
structure Draft where
  entries : Entries := []
  current : List String := []

namespace Draft

/-- Add a value to the current table. -/
def addValue (path : List String) (found : TomlValue) (draft : Draft) : Option Draft := do
  let entries ← Entries.descend false
    (fun opening entries =>
      entries.addValue path.dropLast (path.getLastD "") found opening)
    draft.current .heading draft.entries
  return { draft with entries }

/-- Open a table by a heading. -/
def addHeading (openLast : String → Opening → Entries → Option Entries) (path : List String)
    (draft : Draft) : Option Draft := do
  let entries ← Entries.descend false (openLast (path.getLastD "")) path.dropLast .heading
    draft.entries
  return ⟨entries, path⟩

end Draft

def line (text : List Char) (draft : Draft) : Option (Draft × List Char) :=
  match text with
  | '[' :: '[' :: rest => do
      match ← key rest with
      | (path, ']' :: ']' :: rest) =>
          return (← draft.addHeading Entries.openNextTable path, ← endLine rest)
      | _ => none
  | '[' :: rest => do
      match ← key rest with
      | (path, ']' :: rest) =>
          return (← draft.addHeading Entries.openTable path, ← endLine rest)
      | _ => none
  | _ => do
      match ← key text with
      | (path, '=' :: rest) => do
          let (found, rest) ← value depthLimit rest.length (skipBlanks rest)
          return (← draft.addValue path found, ← endLine rest)
      | _ => none

def lines : Nat → List Char → Draft → Option Draft
  | 0, text, draft => if text.isEmpty then some draft else none
  | fuel + 1, text, draft => do
      match ← skipLines text.length text with
      | [] => return draft
      | text => do
          let (draft, rest) ← line text draft
          lines fuel rest draft

/-- The entries of a document. -/
def parse? (document : String) : Option (List (String × TomlValue)) := do
  let text := document.toList
  let text := if text.head? = some '\ufeff' then text.tail else text
  let draft ← lines (text.length + 1) text {}
  return entryValues draft.entries

end OnDemand.Toml
