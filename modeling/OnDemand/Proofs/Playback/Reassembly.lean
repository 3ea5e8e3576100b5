import OnDemand.Playback.Stream
import OnDemand.Proofs.StreamControl.Framing

/-!
# What a stream handles does not depend on the cuts

A stream handles the messages that are found in what it reads, in the order in which they
are found, and what it does with a message depends neither on the bytes that it keeps nor
on the reads that failed.  So reading is reassembling, and then handling.
-/

namespace OnDemand.Stream

/-! ## Handling does not touch what is kept -/

/-- The stream with other bytes kept, and another number of reads that failed. -/
def keeping (failures : Nat) (buffer : Bytes) (stream : Stream) : Stream :=
  { stream with readFailures := failures, buffer := buffer }

section

variable (failures : Nat) (buffer : Bytes) (stream : Stream)

theorem accept_keeping (request : StreamRequest) (position : Int32) (scale : Scale) :
    (stream.keeping failures buffer).accept request position scale =
      (stream.accept request position scale).keeping failures buffer := by
  cases request <;> rfl

theorem settle_keeping (reply : StatusReply) :
    (stream.keeping failures buffer).settle reply =
      (stream.settle reply).keeping failures buffer := by
  simp only [settle, apply_ite (keeping failures buffer)]
  rfl

theorem onReply_keeping (request : StreamRequest) (header : StreamHeader) (position : Int32)
    (scale : Scale) :
    (stream.keeping failures buffer).onReply request header position scale =
      (stream.onReply request header position scale).keeping failures buffer := by
  have accepted : (if header.status.isOk then
        (stream.keeping failures buffer).accept request position scale
      else stream.keeping failures buffer) =
      (if header.status.isOk then stream.accept request position scale
        else stream).keeping failures buffer := by
    rw [accept_keeping, apply_ite (keeping failures buffer)]
  simp only [onReply, accepted]
  cases request <;> first | rfl | exact settle_keeping ..

theorem onDone_keeping (position : Int32) (scale : Scale) (mode : StreamMode) :
    (stream.keeping failures buffer).onDone position scale mode =
      (stream.onDone position scale mode).keeping failures buffer := by
  simp only [onDone, apply_ite (keeping failures buffer)]
  rfl

theorem onMessage_keeping (message : StreamMessage) :
    (stream.keeping failures buffer).onMessage message =
      (stream.onMessage message).keeping failures buffer := by
  simp only [onMessage]
  split
  · exact onDone_keeping ..
  · exact onReply_keeping ..
  · rfl

theorem isReading_onMessage (message : StreamMessage) :
    (stream.onMessage message).isReading = stream.isReading := by
  simp only [onMessage]
  split
  · simp only [onDone, tell, apply_ite isReading, ite_self]
  · next request _ _ =>
      simp only [onReply, settle, accept]
      cases request <;> simp only [eventOf, tell, apply_ite isReading, ite_self]
  · rfl

theorem foldl_onMessage_keeping (messages : List StreamMessage) :
    messages.foldl onMessage (stream.keeping failures buffer) =
      (messages.foldl onMessage stream).keeping failures buffer := by
  induction messages generalizing stream with
  | nil => rfl
  | cons message messages ih => rw [List.foldl_cons, onMessage_keeping, ih, List.foldl_cons]

theorem isReading_foldl_onMessage (messages : List StreamMessage) :
    (messages.foldl onMessage stream).isReading = stream.isReading := by
  induction messages generalizing stream with
  | nil => rfl
  | cons message messages ih => rw [List.foldl_cons, ih, isReading_onMessage]

end

/-! ## Reading is reassembling and handling -/

/-- Several reads, one after another. -/
def readAll (reads : List Bytes) (stream : Stream) : Stream :=
  reads.foldl (fun stream bytes => stream.read bytes) stream

variable {stream : Stream} {reads : List Bytes}

theorem read_eq (reading : stream.isReading) (bytes : Bytes) :
    stream.read bytes =
      ((StreamMessage.splitFrames (stream.buffer ++ bytes)).1.foldl onMessage stream).keeping 0
        (StreamMessage.splitFrames (stream.buffer ++ bytes)).2 := by
  rw [← foldl_onMessage_keeping, read, if_pos reading]
  rfl

/-- What is read is reassembled, and what is found is handled in order. -/
theorem readAll_eq (reading : stream.isReading) :
    stream.readAll reads =
      ((StreamMessage.reassemble stream.buffer reads).1.foldl onMessage stream).keeping
        (if reads = [] then stream.readFailures else 0)
        (StreamMessage.reassemble stream.buffer reads).2 := by
  induction reads generalizing stream with
  | nil => rfl
  | cons bytes reads ih =>
      let found := StreamMessage.splitFrames (stream.buffer ++ bytes)
      let next := (found.1.foldl onMessage stream).keeping 0 found.2
      have reads_on : next.isReading := by
        change (found.1.foldl onMessage stream).isReading
        rw [isReading_foldl_onMessage, reading]
      calc stream.readAll (bytes :: reads)
        _ = next.readAll reads := congrArg (readAll reads) (read_eq reading bytes)
        _ = ((StreamMessage.reassemble found.2 reads).1.foldl onMessage next).keeping 0
              (StreamMessage.reassemble found.2 reads).2 := by
          rw [ih reads_on]
          exact congrArg (keeping · _ _) (ite_self _)
        _ = ((found.1 ++ (StreamMessage.reassemble found.2 reads).1).foldl onMessage
              stream).keeping 0 (StreamMessage.reassemble found.2 reads).2 := by
          rw [foldl_onMessage_keeping, List.foldl_append]
          rfl

theorem isPartial_buffer_read (reading : stream.isReading) (bytes : Bytes) :
    StreamMessage.IsPartial (stream.read bytes).buffer := by
  rw [read_eq reading]
  exact StreamMessage.isPartial_splitFrames _

/-- **Reading does not depend on the cuts.**  However the bytes of messages, and whatever
bytes follow them, are cut into reads, the messages are handled once each and in order; what
is handled after them is found in the following bytes alone, and nothing is if there are
none.  After every read fewer bytes are kept than one message has, and bytes that are taken
for a message always are one. -/
theorem readAll_of_encode :
    (∀ (stream : Stream) (messages : List StreamMessage) (frames reads : List Bytes)
        (tail : Bytes), stream.isReading → stream.buffer = [] →
      (∀ message ∈ messages, message.IsCanonical) →
      messages.mapM StreamMessage.encode = .ok frames → reads.flatten = frames.flatten ++ tail →
      ∃ behind : List Bytes, behind.flatten = tail ∧
        let found := StreamMessage.reassemble [] behind
        (tail = [] → found = ([], [])) ∧
          StreamMessage.reassemble [] reads = (messages ++ found.1, found.2) ∧
          stream.readAll reads =
            (found.1.foldl onMessage (messages.foldl onMessage stream)).keeping
              (if reads = [] then stream.readFailures else 0) found.2) ∧
    (∀ (stream : Stream) (bytes : Bytes), stream.isReading →
      StreamMessage.IsPartial (stream.read bytes).buffer ∧
        (stream.read bytes).buffer.length ≤ 19) ∧
    ∀ (input : Bytes) (length : Nat), StreamMessage.frameLength input = .ok length →
      length ≤ input.length →
        ∃ message, StreamMessage.decode (input.take length) = .ok message := by
  refine ⟨?_, ?_, fun input length => StreamMessage.exists_decode_take⟩
  · intro stream messages frames reads tail reading fresh canonical encodable cut
    obtain ⟨behind, same, whole⟩ := StreamMessage.reassemble_of_encode canonical encodable
      StreamMessage.isPartial_nil cut
    refine ⟨behind, same, ?_, whole, ?_⟩
    · intro none
      rw [none] at same
      exact StreamMessage.reassemble_of_flatten_eq_nil same
    · rw [readAll_eq reading, fresh, whole, List.foldl_append]
  · intro stream bytes reading
    have isPartial := isPartial_buffer_read reading bytes
    exact ⟨isPartial, isPartial.length_le⟩

/-- A stream that is read from. -/
def sampleReading : Stream := { initial 7 {} with state := .connected, isReading := true }

/-- The reply to a request to play, and the end of the playback. -/
def sampleTold : List StreamMessage :=
  [⟨⟨1, .reply .play, .ok, 7⟩, .reply 10 .normal⟩, .done 7 0 .stopped .endOfStream]

/-- The bytes of both and a byte more, cut after two bytes of the first, and after the first
and before the last byte of the second. -/
def sampleReads : List Bytes :=
  [[0x01, 0x01], [0x86, 0, 0, 0, 0, 7, 0, 0, 0, 10, 0, 1, 0, 1, 0x01],
    [0, 0x40, 0, 0, 0, 0, 7, 0, 0, 0, 0, 0, 0, 0, 1], [7, 0xFF]]

theorem readAll_of_encode_sampleReads :
    (∃ behind : List Bytes, behind.flatten = [0xFF] ∧
      StreamMessage.reassemble [] sampleReads =
        (sampleTold ++ (StreamMessage.reassemble [] behind).1,
          (StreamMessage.reassemble [] behind).2)) ∧
      (sampleReading.read [0x01, 0x01]).buffer.length ≤ 19 ∧
      ∃ message, StreamMessage.decode (sampleReads.flatten.take 16) = .ok message := by
  have canonical : ∀ message ∈ sampleTold, message.IsCanonical :=
    List.forall_mem_cons.mpr ⟨trivial, List.forall_mem_singleton.mpr trivial⟩
  obtain ⟨reassembled, kept, framed⟩ := readAll_of_encode
  obtain ⟨behind, same, _, whole, _⟩ :=
    reassembled sampleReading sampleTold _ sampleReads [0xFF] rfl rfl canonical rfl rfl
  exact ⟨⟨behind, same, whole⟩, (kept sampleReading [0x01, 0x01] rfl).2,
    framed sampleReads.flatten 16 rfl (by decide)⟩

end OnDemand.Stream
