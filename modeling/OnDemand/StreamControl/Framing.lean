import OnDemand.StreamControl.Message

/-!
# Frames of a byte stream

Stream messages follow each other without marks between them: the first bytes of
a message tell its length. Bytes that cannot begin a message leave no place at
which the next one could be found, so all of them are dropped.
-/

namespace OnDemand.StreamMessage

theorem length_le_frameLength {input : Bytes} {length : Nat}
    (framed : frameLength input = .ok length) : StreamHeader.length ≤ length := by
  match input with
  | [] | [_] | [_, _] => simp [frameLength] at framed
  | version :: _ :: opcode :: _ =>
    simp only [frameLength] at framed
    split at framed
    · cases framed
    · simp only [bind, Except.bind, pure, Except.pure] at framed
      split at framed
      · cases framed
      · cases framed
        exact Nat.le_add_right _ _

/-- The messages at the front of a buffer, and the bytes that may be the beginning of
another. A frame that is no message is passed over. -/
def splitFrames (buffer : Bytes) : List StreamMessage × Bytes :=
  if (buffer.drop 2).isEmpty then ([], buffer)
  else
    match _framed : frameLength buffer with
    | .error _ => ([], [])
    | .ok length =>
        let frame := buffer.take length
        if frame.length < length then ([], buffer)
        else
          let (messages, rest) := splitFrames (buffer.drop length)
          match decode frame with
          | .ok message => (message :: messages, rest)
          | .error _ => (messages, rest)
termination_by buffer.length
decreasing_by
  have least := length_le_frameLength _framed
  simp only [StreamHeader.length] at least
  simp only [List.isEmpty_iff, List.drop_eq_nil_iff] at *
  simp only [List.length_drop]
  omega

end OnDemand.StreamMessage
