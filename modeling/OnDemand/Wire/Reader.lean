import OnDemand.Wire.Error
import OnDemand.Wire.Word

/-!
# Bounds-checked reading

A reader takes bytes off the front of its input or fails. A reader that needs
more bytes than are left fails with `insufficientData`, naming both numbers.

A cursor stands in a buffer and is moved read by read. Where a read fails, the
reads before it have moved the cursor all the same, so what must not move it by
half works on a copy.
-/

namespace OnDemand

/-- A computation that consumes bytes from the front of its input. -/
abbrev Reader := StateT Bytes (Except WireError)

namespace Reader

/-- Succeed exactly when at least `count` bytes are left, consuming none. -/
def need (count : Nat) : Reader Unit := fun input =>
  if (input.take count).length = count then .ok ((), input)
  else .error (.insufficientData count (input.take count).length)

/-- The next `count` bytes. -/
def bytes (count : Nat) : Reader Bytes := fun input =>
  if (input.take count).length = count then .ok (input.take count, input.drop count)
  else .error (.insufficientData count (input.take count).length)

/-- The next `count` bytes as a string of fixed length. -/
def octets (count : Nat) : Reader (Octets count) := fun input =>
  if enough : (input.take count).length = count then
    .ok (⟨input.take count, enough⟩, input.drop count)
  else .error (.insufficientData count (input.take count).length)

def byte : Reader UInt8
  | a :: rest => .ok (a, rest)
  | [] => .error (.insufficientData 1 0)

def word16 : Reader UInt16
  | a :: b :: rest => .ok (Wire.ofWord16 a b, rest)
  | short => .error (.insufficientData 2 short.length)

def word32 : Reader UInt32
  | a :: b :: c :: d :: rest => .ok (Wire.ofWord32 a b c d, rest)
  | short => .error (.insufficientData 4 short.length)

def signed16 : Reader Int16 := do return (← word16).toInt16

def signed32 : Reader Int32 := do return (← word32).toInt32

def rest : Reader Bytes := fun input => .ok (input, [])

/-- The same reader a number of times, in order. -/
def replicate {α : Type} (reader : Reader α) : Nat → Reader (List α)
  | 0 => pure []
  | count + 1 => do
      let value ← reader
      return value :: (← replicate reader count)

/-- Read all of `input`. Bytes that the reader leaves are a length mismatch
between `input` and the part that was used. -/
def whole {α : Type} (reader : Reader α) (input : Bytes) : Except WireError α := do
  let (value, left) ← reader input
  if left.isEmpty then return value
  else throw (.lengthMismatch input.length (input.length - left.length))

end Reader

/-- A computation that moves a cursor over a buffer. What is left of the buffer
is kept when it fails. -/
abbrev Cursor := ExceptT WireError (StateM Bytes)

/-- One checked read at a cursor, which moves the cursor only when it succeeds. -/
def Reader.attempt {α : Type} (reader : Reader α) : Cursor α := fun input =>
  match reader input with
  | .ok (value, left) => (.ok value, left)
  | .error fault => (.error fault, input)

namespace Cursor

variable {α β : Type}

/-- Work on a copy of the cursor, and move the cursor to the copy at the end. -/
def onCopy (work : Cursor α) : Cursor α := fun input =>
  match work input with
  | (.ok value, copy) => (.ok value, copy)
  | (.error fault, _) => (.error fault, input)

/-- What is read at a cursor, without the bytes that are left after a failure. -/
def reader (work : Cursor α) : Reader α := fun input =>
  match work input with
  | (.ok value, left) => .ok (value, left)
  | (.error fault, _) => .error fault

@[simp] theorem reader_attempt (reader : Reader α) : reader.attempt.reader = reader := by
  funext input
  simp only [Cursor.reader, Reader.attempt]
  cases reader input <;> rfl

@[simp] theorem reader_onCopy (work : Cursor α) : work.onCopy.reader = work.reader := by
  funext input
  simp only [reader, onCopy]
  match work input with
  | (.ok _, _) | (.error _, _) => rfl

@[simp] theorem reader_bind (work : Cursor α) (next : α → Cursor β) :
    reader (work >>= next) = work.reader >>= fun value => (next value).reader := by
  funext input
  have first : (work >>= next) input = ExceptT.bindCont next (work input).1 (work input).2 := rfl
  have second : (work.reader >>= fun value => (next value).reader) input =
      work.reader input >>= fun found => (next found.1).reader found.2 := rfl
  rw [second]
  simp only [reader, first]
  match work input with
  | (.ok _, _) | (.error _, _) => rfl

@[simp] theorem reader_liftM (outcome : Except WireError α) :
    reader (liftM outcome) = (liftM outcome : Reader α) := by
  cases outcome <;> rfl

end Cursor

/-- A length as a 16-bit field. -/
def Wire.length16 (length : Nat) : Except WireError UInt16 :=
  if length < 65536 then .ok (UInt16.ofNat length) else .error (.valueTooLong length 65535)

/-- A length as an 8-bit field. -/
def Wire.length8 (length : Nat) : Except WireError UInt8 :=
  if length < 256 then .ok (UInt8.ofNat length) else .error (.valueTooLong length 255)

end OnDemand
