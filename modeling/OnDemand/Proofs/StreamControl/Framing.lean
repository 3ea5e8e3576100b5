import OnDemand.Proofs.StreamControl.RoundTrip
import OnDemand.StreamControl.Framing

/-!
# Messages and the cuts of a byte stream

Reading takes the messages off the front of what was read so far and keeps the rest.  The
rest is never more than the beginning of one message, and every frame that is taken off is
a message.  So it makes no difference into which reads the bytes of messages are cut: each
of them is found once, in order, before anything that comes of the bytes behind them.
-/

namespace OnDemand.StreamMessage

variable {message : StreamMessage} {frame buffer rest : Bytes} {length : Nat}

/-- The bytes are too few to tell a length, or they are the beginning of a message whose
last bytes are missing. -/
def IsPartial (bytes : Bytes) : Prop :=
  bytes.length < 3 ∨
    ∃ frame message, decode frame = .ok message ∧ bytes <+: frame ∧ bytes.length < frame.length

theorem IsPartial.length_le (isPartial : IsPartial buffer) : buffer.length ≤ 19 := by
  obtain short | ⟨frame, message, found, _, less⟩ := isPartial
  · omega
  · have bound := length_le_of_encode (decode_eq_ok_iff.mp found).1
    omega

theorem isPartial_nil : IsPartial [] := .inl (by decide)

/-! ## One step of taking frames off -/

theorem splitFrames_of_length_lt (short : buffer.length < 3) :
    splitFrames buffer = ([], buffer) := by
  rw [splitFrames, if_pos]
  rw [List.isEmpty_iff, List.drop_eq_nil_iff]
  omega

theorem drop_two_isEmpty (long : 3 ≤ buffer.length) : ¬ (buffer.drop 2).isEmpty := by
  rw [List.isEmpty_iff, List.drop_eq_nil_iff]
  omega

theorem splitFrames_of_error {fault : WireError} (long : 3 ≤ buffer.length)
    (lost : frameLength buffer = .error fault) : splitFrames buffer = ([], []) := by
  rw [splitFrames, if_neg (drop_two_isEmpty long)]
  split
  · rfl
  · next told =>
      rw [lost] at told
      cases told

theorem splitFrames_of_lt (told : frameLength buffer = .ok length)
    (short : buffer.length < length) :
    splitFrames buffer = ([], buffer) := by
  rw [splitFrames, if_neg (drop_two_isEmpty (three_le_of_frameLength told))]
  split
  · next lost =>
      rw [told] at lost
      cases lost
  · next other =>
      rw [told] at other
      cases other
      rw [if_pos]
      rw [List.length_take]
      omega

/-- A message at the front of the buffer is taken off. -/
theorem splitFrames_append (found : decode frame = .ok message) (rest : Bytes) :
    splitFrames (frame ++ rest) = (message :: (splitFrames rest).1, (splitFrames rest).2) := by
  have told : frameLength (frame ++ rest) = .ok frame.length :=
    frameLength_append (frameLength_of_decode found) rest
  conv => lhs; rw [splitFrames, if_neg (drop_two_isEmpty (three_le_of_frameLength told))]
  split
  · next lost =>
      rw [told] at lost
      cases lost
  · next other =>
      rw [told] at other
      cases other
      simp only [List.take_left, List.drop_left, Nat.lt_irrefl, if_false, found]

/-- A buffer holds the beginning of one message, or bytes that begin none, or a message at its
front. -/
theorem splitFrames_cases (buffer : Bytes) :
    IsPartial buffer ∧ splitFrames buffer = ([], buffer) ∨
      splitFrames buffer = ([], []) ∨
        ∃ frame message rest, decode frame = .ok message ∧ buffer = frame ++ rest := by
  by_cases short : buffer.length < 3
  · exact .inl ⟨.inl short, splitFrames_of_length_lt short⟩
  · cases told : frameLength buffer with
    | error fault => exact .inr (.inl (splitFrames_of_error (Nat.le_of_not_lt short) told))
    | ok length =>
        by_cases missing : buffer.length < length
        · refine .inl ⟨.inr ?_, splitFrames_of_lt told missing⟩
          -- any bytes in place of the missing ones make a message
          let filled := buffer ++ List.replicate (length - buffer.length) 0
          have size : filled.length = length := by
            simp only [filled, List.length_append, List.length_replicate]
            omega
          obtain ⟨message, found⟩ := exists_decode_take (frameLength_append told _)
            (Nat.le_of_eq size.symm)
          rw [List.take_of_length_le (Nat.le_of_eq size)] at found
          exact ⟨filled, message, found, List.prefix_append _ _, size ▸ missing⟩
        · obtain ⟨message, found⟩ := exists_decode_take told (Nat.le_of_not_lt missing)
          exact .inr (.inr ⟨_, message, _, found, (List.take_append_drop length buffer).symm⟩)

theorem splitFrames_of_isPartial (isPartial : IsPartial buffer) :
    splitFrames buffer = ([], buffer) := by
  obtain short | ⟨frame, message, found, starts, less⟩ := isPartial
  · exact splitFrames_of_length_lt short
  · by_cases short : buffer.length < 3
    · exact splitFrames_of_length_lt short
    · exact splitFrames_of_lt (frameLength_of_begins found starts (Nat.le_of_not_lt short)) less

/-- What is kept is never more than the beginning of one message. -/
theorem isPartial_splitFrames (buffer : Bytes) : IsPartial (splitFrames buffer).2 := by
  induction length : buffer.length using Nat.strongRecOn generalizing buffer with
  | ind length ih =>
      obtain ⟨isPartial, kept⟩ | lost | ⟨frame, message, rest, found, rfl⟩ :=
        splitFrames_cases buffer
      · rw [kept]
        exact isPartial
      · rw [lost]
        exact isPartial_nil
      · rw [splitFrames_append found]
        have long := length_pos_of_decode found
        exact ih rest.length (by rw [← length, List.length_append]; omega) rest rfl

/-! ## Reads one after another -/

/-- The messages found while bytes are read piece by piece, and what is kept at the end. -/
def reassemble (buffer : Bytes) : List Bytes → List StreamMessage × Bytes
  | [] => ([], buffer)
  | bytes :: reads =>
      let found := splitFrames (buffer ++ bytes)
      let later := reassemble found.2 reads
      (found.1 ++ later.1, later.2)

variable {messages : List StreamMessage} {frames reads : List Bytes} {more tail : Bytes}

theorem reassemble_of_flatten_eq_nil (none : reads.flatten = []) :
    reassemble [] reads = ([], []) := by
  induction reads with
  | nil => rfl
  | cons bytes reads ih =>
      obtain ⟨rfl, later⟩ := List.append_eq_nil_iff.mp none
      simp only [reassemble, List.append_nil, splitFrames_of_isPartial isPartial_nil, ih later]

theorem mapM_encode_cons_iff :
    (message :: messages).mapM encode = .ok frames ↔
      ∃ frame later, message.encode = .ok frame ∧ messages.mapM encode = .ok later ∧
        frames = frame :: later := by
  rw [List.mapM_cons, bind_eq_ok_iff]
  simp only [bind_eq_ok_iff, pure, Except.pure, Except.ok.injEq, eq_comm (a := frames),
    exists_and_left]

/-- Of the messages that are on their way, some have been read in full.  Either more are to
come, with the beginning of the next one kept, or all have been read and whatever follows
them is taken as if nothing had come before it. -/
theorem splitFrames_of_encode (canonical : ∀ message ∈ messages, message.IsCanonical)
    (encodable : messages.mapM encode = .ok frames)
    (whole : buffer ++ more = frames.flatten ++ tail) :
    (∃ done waiting left kept, messages = done ++ waiting ∧ waiting.mapM encode = .ok left ∧
        splitFrames buffer = (done, kept) ∧ kept ++ more = left.flatten ++ tail) ∨
      ∃ behind, splitFrames buffer = (messages ++ (splitFrames behind).1, (splitFrames behind).2) ∧
        behind ++ more = tail := by
  induction messages generalizing frames buffer with
  | nil =>
      cases encodable
      exact .inr ⟨buffer, rfl, whole⟩
  | cons message messages ih =>
      obtain ⟨frame, later, written, rest, rfl⟩ := mapM_encode_cons_iff.mp encodable
      have found : decode frame = .ok message :=
        decode_eq_ok_iff.mpr ⟨written, canonical message List.mem_cons_self⟩
      rw [List.flatten_cons, List.append_assoc] at whole
      by_cases short : buffer.length < frame.length
      · have starts : buffer <+: frame :=
          List.prefix_of_prefix_length_le ⟨more, whole⟩ (List.prefix_append _ _)
            (Nat.le_of_lt short)
        have isPartial : IsPartial buffer := .inr ⟨frame, message, found, starts, short⟩
        refine .inl ⟨[], message :: messages, frame :: later, buffer, rfl, encodable,
          splitFrames_of_isPartial isPartial, ?_⟩
        rw [List.flatten_cons, List.append_assoc, whole]
      · obtain ⟨back, rfl⟩ : frame <+: buffer :=
          List.prefix_of_prefix_length_le (List.prefix_append _ _) ⟨more, whole⟩
            (Nat.le_of_not_lt short)
        rw [List.append_assoc, List.append_cancel_left_eq] at whole
        rw [splitFrames_append found]
        obtain ⟨done, waiting, left, kept, rfl, onTheWay, taken, follows⟩ |
            ⟨behind, taken, follows⟩ :=
          ih (fun each member => canonical each (List.mem_cons_of_mem _ member)) rest whole
        · exact .inl ⟨message :: done, waiting, left, kept, rfl, onTheWay, by rw [taken], follows⟩
        · exact .inr ⟨behind, by rw [taken]; rfl, follows⟩

/-- However the bytes of messages and the bytes behind them are cut, the messages are found
once each and in order.  What is found after them is found in the bytes behind them alone. -/
theorem reassemble_of_encode (canonical : ∀ message ∈ messages, message.IsCanonical)
    (encodable : messages.mapM encode = .ok frames) (drained : IsPartial buffer)
    (cut : buffer ++ reads.flatten = frames.flatten ++ tail) :
    ∃ behind : List Bytes, behind.flatten = tail ∧
      reassemble buffer reads =
        (messages ++ (reassemble [] behind).1, (reassemble [] behind).2) := by
  induction reads generalizing buffer messages frames with
  | nil =>
      rw [List.flatten_nil, List.append_nil] at cut
      cases messages with
      | nil =>
          cases encodable
          change buffer = tail at cut
          subst cut
          refine ⟨[buffer], List.append_nil buffer, ?_⟩
          simp only [reassemble, List.nil_append, splitFrames_of_isPartial drained]
      | cons message messages =>
          obtain ⟨frame, later, written, _, rfl⟩ := mapM_encode_cons_iff.mp encodable
          have found : decode frame = .ok message :=
            decode_eq_ok_iff.mpr ⟨written, canonical message List.mem_cons_self⟩
          have kept := splitFrames_of_isPartial drained
          rw [cut, List.flatten_cons, List.append_assoc, splitFrames_append found] at kept
          cases kept
  | cons bytes reads ih =>
      rw [List.flatten_cons, ← List.append_assoc] at cut
      obtain ⟨done, waiting, left, kept, rfl, onTheWay, taken, follows⟩ |
          ⟨behind, taken, follows⟩ := splitFrames_of_encode canonical encodable cut
      · have isPartial : IsPartial kept := by
          have := isPartial_splitFrames (buffer ++ bytes)
          rwa [taken] at this
        obtain ⟨behind, same, rest⟩ :=
          ih (fun each member => canonical each (List.mem_append_right _ member)) onTheWay isPartial
            follows
        refine ⟨behind, same, ?_⟩
        simp only [reassemble, taken, rest, List.append_assoc]
      · refine ⟨behind :: reads, follows, ?_⟩
        simp only [reassemble, taken, List.nil_append, List.append_assoc]

end OnDemand.StreamMessage
