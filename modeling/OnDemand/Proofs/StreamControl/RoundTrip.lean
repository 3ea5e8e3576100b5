import OnDemand.Proofs.Wire.Accepts
import OnDemand.StreamControl.Message

/-!
# Stream messages and their bytes

A stream message is read from exactly the bytes that are written for it, unless it is a
known one in disguise: an announcement whose mode is kept as a number that has a name.
The first three bytes of a message tell how many bytes it has.
-/

namespace OnDemand

theorem Reader.signed16_eq_ok_iff {input rest : Bytes} {value : Int16} :
    signed16 input = .ok (value, rest) ↔ input = Wire.signed16 value ++ rest := by
  simp only [signed16, bind_eq_ok_iff, word16_eq_ok_iff, pure_eq_ok_iff, Wire.signed16]
  constructor
  · rintro ⟨word, _, starts, rfl, rfl⟩
    exact starts
  · intro starts
    exact ⟨_, _, starts, rfl, rfl⟩

theorem Reader.signed32_eq_ok_iff {input rest : Bytes} {value : Int32} :
    signed32 input = .ok (value, rest) ↔ input = Wire.signed32 value ++ rest := by
  simp only [signed32, bind_eq_ok_iff, word32_eq_ok_iff, pure_eq_ok_iff, Wire.signed32]
  constructor
  · rintro ⟨word, _, starts, rfl, rfl⟩
    exact starts
  · intro starts
    exact ⟨_, _, starts, rfl, rfl⟩

namespace StreamMode

/-- The number of a mode without a name is not that of a named one. -/
def IsCanonical : StreamMode → Prop
  | other value => endOfStream.toByte < value
  | _ => True

theorem ofByte_toByte {mode : StreamMode} (canonical : mode.IsCanonical) :
    ofByte mode.toByte = mode := by
  cases mode with
  | other value =>
      have unnamed : 7 < value.toNat := UInt8.lt_iff_toNat_lt.mp canonical
      simp only [toByte, ofByte]
      split <;> first | rfl | omega
  | _ => rfl

theorem ofByte_eq_iff {byte : UInt8} {mode : StreamMode} :
    ofByte byte = mode ↔ mode.IsCanonical ∧ byte = mode.toByte := by
  constructor
  · intro named
    subst named
    simp only [ofByte]
    split
    case h_9 =>
      refine ⟨UInt8.lt_iff_toNat_lt.mpr ?_, rfl⟩
      simp only [imp_false] at *
      change 7 < byte.toNat
      omega
    all_goals
      next number => exact ⟨trivial, UInt8.toNat_inj.mp number⟩
  · intro ⟨canonical, same⟩
    rw [same, ofByte_toByte canonical]

end StreamMode

theorem StreamRequest.ofByte?_eq_some_iff {byte : UInt8} {request : StreamRequest} :
    ofByte? byte = some request ↔ byte = request.toByte := by
  constructor
  · intro named
    simp only [ofByte?] at named
    split at named
    case h_7 => cases named
    all_goals
      next number =>
        cases named
        exact UInt8.toNat_inj.mp number
  · intro same
    subst same
    cases request <;> rfl

namespace StreamOpcode

theorem ofByte?_toByte (opcode : StreamOpcode) : ofByte? opcode.toByte = some opcode := by
  cases opcode with
  | request operation | reply operation => cases operation <;> rfl
  | done => rfl

theorem ofByte?_eq_some_iff {byte : UInt8} {opcode : StreamOpcode} :
    ofByte? byte = some opcode ↔ byte = opcode.toByte := by
  constructor
  · intro named
    simp only [ofByte?] at named
    split at named
    · next isDone =>
        cases named
        exact isDone
    · split at named
      · obtain ⟨operation, known, rfl⟩ := Option.map_eq_some_iff.mp named
        exact StreamRequest.ofByte?_eq_some_iff.mp known
      · obtain ⟨operation, known, rfl⟩ := Option.map_eq_some_iff.mp named
        have low := StreamRequest.ofByte?_eq_some_iff.mp known
        rw [toByte, ← low, UInt8.sub_add_cancel]
  · intro same
    rw [same, ofByte?_toByte]

/-- The longest messages are requests to play or to jump. -/
theorem bodyLength_le (opcode : StreamOpcode) : opcode.bodyLength ≤ 12 := by
  match opcode with
  | .request operation => cases operation <;> decide
  | .reply _ | .done => exact Nat.le_of_ble_eq_true rfl

end StreamOpcode

namespace StreamHeader

@[simp] theorem length_bytes (header : StreamHeader) : header.bytes.length = length := rfl

theorem opcodeOf_eq_ok_iff {byte : UInt8} {opcode : StreamOpcode} :
    opcodeOf byte = .ok opcode ↔ byte = opcode.toByte := by
  rw [← StreamOpcode.ofByte?_eq_some_iff, opcodeOf]
  cases StreamOpcode.ofByte? byte with
  | none => exact iff_of_false nofun nofun
  | some known => rw [Except.ok.injEq, Option.some.injEq]

theorem read_eq_ok_iff {header : StreamHeader} {input rest : Bytes} :
    read input = .ok (header, rest) ↔ input = header.bytes ++ rest := by
  simp only [read, Reader.bind_eq_ok_iff, Reader.need_eq_ok_iff, Reader.refusing_eq_ok_iff,
    Reader.byte_eq_ok_iff, Reader.lift_eq_ok_iff, opcodeOf_eq_ok_iff, Reader.word32_eq_ok_iff,
    Reader.pure_eq_ok_iff]
  constructor
  · intro ⟨_, _, ⟨_, first⟩, found, _, second, known, transaction, _, third, byte, _, fourth,
      opcode, _, ⟨named, fifth⟩, status, _, sixth, handle, _, seventh, built, last⟩
    replace known := Decidable.of_not_not known
    subst first second third fourth fifth sixth seventh built last known named
    rfl
  · intro starts
    have long : length ≤ input.length := by
      rw [starts, List.length_append, length_bytes]
      exact Nat.le_add_right _ _
    exact ⟨(), _, ⟨long, rfl⟩, version, _, starts, not_not_intro rfl, header.transaction, _, rfl,
      header.opcode.toByte, _, rfl, header.opcode, _, ⟨rfl, rfl⟩, header.status.value, _, rfl,
      header.handle, _, rfl, rfl, rfl⟩

end StreamHeader

theorem StreamBody.readScale_eq_ok_iff {scale : Scale} {input rest : Bytes} :
    readScale input = .ok (scale, rest) ↔ input = scaleBytes scale ++ rest := by
  simp only [readScale, Reader.bind_eq_ok_iff, Reader.signed16_eq_ok_iff, Reader.word16_eq_ok_iff,
    Reader.pure_eq_ok_iff]
  constructor
  · rintro ⟨num, _, rfl, den, _, rfl, rfl, rfl⟩
    rw [scaleBytes, List.append_assoc]
  · intro starts
    rw [scaleBytes, List.append_assoc] at starts
    exact ⟨scale.num, _, starts, scale.den, _, rfl, rfl, rfl⟩

namespace StreamBody

variable {body : StreamBody} {opcode : StreamOpcode} {input rest : Bytes}

/-- The body is not an announcement in disguise. -/
def IsCanonical : StreamBody → Prop
  | done _ _ mode => mode.IsCanonical
  | _ => True

/-- The length that an operation announces is that of the bodies that belong to it. -/
theorem length_bytes (fits : body.fits opcode) : body.bytes.length = opcode.bodyLength := by
  cases body with
  | reply _ _ =>
      match opcode with
      | .reply _ => rfl
      | .request _ | .done => cases fits
  | _ =>
      match opcode with
      | .request operation => cases operation <;> first | rfl | cases fits
      | .done | .reply _ => first | rfl | cases fits

theorem reads (fits : body.fits opcode) (canonical : body.IsCanonical) :
    (read opcode).Reads body.bytes body := by
  have enough : opcode.bodyLength ≤ body.bytes.length := Nat.le_of_eq (length_bytes fits).symm
  have position (value : Int32) : Reader.signed32.Reads (Wire.signed32 value) value :=
    fun _ => Reader.signed32_eq_ok_iff.mpr rfl
  have speed (value : Scale) : readScale.Reads (scaleBytes value) value :=
    fun _ => readScale_eq_ok_iff.mpr rfl
  cases body <;> simp only [bytes, List.append_assoc] at enough ⊢
  case play start stop scale =>
    match opcode with
    | .request .play =>
        exact .need enough (.bind (position start) (.bind (position stop) (.last (speed scale))))
  case jump start stop scale =>
    match opcode with
    | .request .jump =>
        exact .need enough (.bind (position start) (.bind (position stop) (.last (speed scale))))
  case pause stop =>
    match opcode with
    | .request .pause => exact .need enough (.last (position stop))
  case resume start scale =>
    match opcode with
    | .request .resume => exact .need enough (.bind (position start) (.last (speed scale)))
  case empty =>
    match opcode with
    | .request .status | .request .reset => exact .need enough (.pure empty)
  case reply told scale =>
    match opcode with
    | .reply _ => exact .need enough (.bind (position told) (.last (speed scale)))
  case done told scale mode =>
    match opcode with
    | .done =>
        refine .need enough (.bind (position told) (.bind (speed scale) (.byte ?_)))
        rw [StreamMode.ofByte_toByte canonical]
        exact .pure _

theorem of_read (found : read opcode input = .ok (body, rest)) :
    body.fits opcode ∧ body.IsCanonical ∧ input = body.bytes ++ rest := by
  match opcode with
  | .request .play | .request .jump =>
      simp only [read, Reader.bind_eq_ok_iff, Reader.need_eq_ok_iff, Reader.signed32_eq_ok_iff,
        readScale_eq_ok_iff, Reader.pure_eq_ok_iff] at found
      obtain ⟨_, _, ⟨_, rfl⟩, start, _, rfl, stop, _, rfl, scale, _, rfl, rfl, rfl⟩ := found
      exact ⟨rfl, trivial, by simp only [bytes, List.append_assoc]⟩
  | .request .pause =>
      simp only [read, Reader.bind_eq_ok_iff, Reader.need_eq_ok_iff, Reader.signed32_eq_ok_iff,
        Reader.pure_eq_ok_iff] at found
      obtain ⟨_, _, ⟨_, rfl⟩, stop, _, rfl, rfl, rfl⟩ := found
      exact ⟨rfl, trivial, rfl⟩
  | .request .resume | .reply _ =>
      simp only [read, Reader.bind_eq_ok_iff, Reader.need_eq_ok_iff, Reader.signed32_eq_ok_iff,
        readScale_eq_ok_iff, Reader.pure_eq_ok_iff] at found
      obtain ⟨_, _, ⟨_, rfl⟩, position, _, rfl, scale, _, rfl, rfl, rfl⟩ := found
      exact ⟨rfl, trivial, by simp only [bytes, List.append_assoc]⟩
  | .request .status | .request .reset =>
      simp only [read, Reader.bind_eq_ok_iff, Reader.need_eq_ok_iff, Reader.pure_eq_ok_iff] at found
      obtain ⟨_, _, ⟨_, rfl⟩, rfl, rfl⟩ := found
      exact ⟨rfl, trivial, rfl⟩
  | .done =>
      simp only [read, Reader.bind_eq_ok_iff, Reader.need_eq_ok_iff, Reader.signed32_eq_ok_iff,
        readScale_eq_ok_iff, Reader.byte_eq_ok_iff, Reader.pure_eq_ok_iff] at found
      obtain ⟨_, _, ⟨_, rfl⟩, position, _, rfl, scale, _, rfl, byte, _, rfl, rfl, rfl⟩ := found
      obtain ⟨canonical, named⟩ := StreamMode.ofByte_eq_iff.mp (rfl : StreamMode.ofByte byte = _)
      refine ⟨rfl, canonical, ?_⟩
      simp only [bytes, ← named, List.append_assoc, List.cons_append, List.nil_append]

/-- A body is read from exactly the bytes that are written for it. -/
theorem read_eq_ok_iff :
    read opcode input = .ok (body, rest) ↔
      body.fits opcode ∧ body.IsCanonical ∧ input = body.bytes ++ rest := by
  constructor
  · exact of_read
  · intro ⟨fits, canonical, starts⟩
    rw [starts]
    exact reads fits canonical rest

end StreamBody

namespace StreamMessage

variable {message : StreamMessage} {input frame : Bytes}

/-- The message is not an announcement in disguise. -/
def IsCanonical (message : StreamMessage) : Prop := message.body.IsCanonical

theorem encode_eq_ok_iff :
    message.encode = .ok frame ↔
      message.body.fits message.header.opcode ∧
        frame = message.header.bytes ++ message.body.bytes := by
  by_cases fits : message.body.fits message.header.opcode <;> simp [encode, fits, eq_comm]

theorem length_of_encode (written : message.encode = .ok frame) :
    frame.length = message.encodedLength := by
  obtain ⟨fits, rfl⟩ := encode_eq_ok_iff.mp written
  rw [List.length_append, StreamHeader.length_bytes, StreamBody.length_bytes fits, encodedLength]

theorem length_le_of_encode (written : message.encode = .ok frame) : frame.length ≤ 20 := by
  rw [length_of_encode written, encodedLength, StreamHeader.length]
  exact Nat.add_le_add_left (StreamOpcode.bodyLength_le _) 8

/-- A message is read from exactly the bytes that are written for it. -/
theorem decode_eq_ok_iff :
    decode frame = .ok message ↔ message.encode = .ok frame ∧ message.IsCanonical := by
  rw [encode_eq_ok_iff]
  constructor
  · intro found
    simp only [decode, bind_eq_ok_iff, Prod.exists] at found
    obtain ⟨header, payload, starts, found⟩ := found
    rw [StreamHeader.read_eq_ok_iff] at starts
    split at found
    · cases found
    · next short =>
        simp only [bind_eq_ok_iff, Prod.exists, pure, Except.pure, Except.ok.injEq] at found
        obtain ⟨body, rest, read, rfl⟩ := found
        obtain ⟨fits, canonical, rfl⟩ := StreamBody.read_eq_ok_iff.mp read
        have none : rest = [] := by
          rw [List.length_append, StreamBody.length_bytes fits] at short
          exact List.eq_nil_of_length_eq_zero (by omega)
        subst none
        rw [List.append_nil] at starts
        exact ⟨⟨fits, starts⟩, canonical⟩
  · intro ⟨⟨fits, same⟩, canonical⟩
    have header : StreamHeader.read frame = .ok (message.header, message.body.bytes) :=
      StreamHeader.read_eq_ok_iff.mpr same
    have body : StreamBody.read message.header.opcode message.body.bytes = .ok (message.body, []) :=
      StreamBody.read_eq_ok_iff.mpr ⟨fits, canonical, (List.append_nil _).symm⟩
    have short : ¬ message.header.opcode.bodyLength < message.body.bytes.length :=
      Nat.not_lt.mpr (Nat.le_of_eq (StreamBody.length_bytes fits))
    simp only [decode, header, body, short, bind, Except.bind, if_false, pure, Except.pure]

/-! ## The length of a frame -/

/-- Three bytes tell the length of the message that begins with them. -/
theorem frameLength_eq_ok_iff {length : Nat} :
    frameLength input = .ok length ↔
      ∃ transaction opcode rest,
        input = StreamHeader.version :: transaction :: StreamOpcode.toByte opcode :: rest ∧
          length = StreamHeader.length + opcode.bodyLength := by
  match input with
  | [] => exact iff_of_false nofun nofun
  | [_] => exact iff_of_false nofun nofun
  | [_, _] => exact iff_of_false nofun nofun
  | version :: transaction :: byte :: rest =>
      simp only [frameLength]
      split
      · next foreign =>
          refine iff_of_false nofun ?_
          rintro ⟨_, _, _, same, _⟩
          exact foreign (List.cons.inj same).1
      · next known =>
          rw [bind_eq_ok_iff]
          constructor
          · rintro ⟨opcode, named, told⟩
            rw [StreamHeader.opcodeOf_eq_ok_iff] at named
            subst named
            exact ⟨transaction, opcode, rest, by rw [Decidable.of_not_not known],
              (Except.ok.inj told).symm⟩
          · rintro ⟨_, opcode, _, same, rfl⟩
            simp only [List.cons.injEq] at same
            exact ⟨opcode, StreamHeader.opcodeOf_eq_ok_iff.mpr same.2.2.1, rfl⟩

/-- What follows the first bytes says nothing about the length. -/
theorem frameLength_append {length : Nat} (told : frameLength input = .ok length) (more : Bytes) :
    frameLength (input ++ more) = .ok length := by
  obtain ⟨transaction, opcode, rest, rfl, rfl⟩ := frameLength_eq_ok_iff.mp told
  exact frameLength_eq_ok_iff.mpr ⟨transaction, opcode, rest ++ more, rfl, rfl⟩

theorem three_le_of_frameLength {length : Nat} (told : frameLength input = .ok length) :
    3 ≤ input.length := by
  obtain ⟨_, _, rest, rfl, _⟩ := frameLength_eq_ok_iff.mp told
  exact Nat.le_add_left 3 rest.length

theorem frameLength_of_decode (found : decode frame = .ok message) :
    frameLength frame = .ok frame.length := by
  obtain ⟨written, canonical⟩ := decode_eq_ok_iff.mp found
  rw [length_of_encode written, frameLength_eq_ok_iff]
  obtain ⟨fits, rfl⟩ := encode_eq_ok_iff.mp written
  exact ⟨message.header.transaction, message.header.opcode, _, rfl, rfl⟩

theorem length_pos_of_decode (found : decode frame = .ok message) : 0 < frame.length := by
  have three := three_le_of_frameLength (frameLength_of_decode found)
  omega

/-- Any three or more bytes at the front of a message tell its length. -/
theorem frameLength_of_begins (found : decode frame = .ok message) (starts : input <+: frame)
    (three : 3 ≤ input.length) : frameLength input = .ok frame.length := by
  obtain ⟨more, rfl⟩ := starts
  obtain ⟨transaction, opcode, rest, same, length⟩ :=
    frameLength_eq_ok_iff.mp (frameLength_of_decode found)
  match input with
  | version :: _ :: byte :: left =>
      simp only [List.cons_append, List.cons.injEq] at same
      obtain ⟨rfl, rfl, rfl, -⟩ := same
      exact frameLength_eq_ok_iff.mpr ⟨_, opcode, left, rfl, length⟩

end StreamMessage

/-! ## Every frame is a message -/

namespace StreamBody

theorem takes_readScale : readScale.Takes 4 :=
  Reader.Takes.signed16.bind fun num => Reader.Takes.word16.bind fun den =>
    .pure (Scale.mk num den)

/-- Any bytes can be read as the body of an operation if they are enough. -/
theorem takes_read (opcode : StreamOpcode) : (read opcode).Takes opcode.bodyLength := by
  have position := Reader.Takes.signed32
  have speed := takes_readScale
  match opcode with
  | .request .play =>
      exact .need (position.bind fun start => position.bind fun stop => speed.bind fun scale =>
        .pure (play start stop scale))
  | .request .jump =>
      exact .need (position.bind fun start => position.bind fun stop => speed.bind fun scale =>
        .pure (jump start stop scale))
  | .request .pause => exact .need (position.bind fun stop => .pure (pause stop))
  | .request .resume =>
      exact .need (position.bind fun start => speed.bind fun scale => .pure (resume start scale))
  | .request .status | .request .reset => exact .need (.pure empty)
  | .reply _ =>
      exact .need (position.bind fun told => speed.bind fun scale => .pure (reply told scale))
  | .done =>
      exact .need (position.bind fun told => speed.bind fun scale => Reader.Takes.byte.bind
        fun byte => .pure (done told scale (.ofByte byte)))

end StreamBody

namespace StreamMessage

/-- As many bytes as the length of a frame says are a message, whatever they are. -/
theorem exists_decode_take {input : Bytes} {length : Nat} (told : frameLength input = .ok length)
    (enough : length ≤ input.length) : ∃ message, decode (input.take length) = .ok message := by
  obtain ⟨transaction, opcode, rest, rfl, rfl⟩ := frameLength_eq_ok_iff.mp told
  simp only [StreamHeader.length, List.length_cons] at enough
  have many : 5 ≤ rest.length := by omega
  match rest with
  | status :: a :: b :: c :: d :: payload =>
      have long : opcode.bodyLength ≤ payload.length := by
        simp only [List.length_cons] at enough
        omega
      have exact : (payload.take opcode.bodyLength).length = opcode.bodyLength :=
        List.length_take_of_le long
      obtain ⟨body, left, read, length⟩ :=
        StreamBody.takes_read opcode (payload.take opcode.bodyLength) (Nat.le_of_eq exact.symm)
      have none : left = [] := List.eq_nil_of_length_eq_zero (by omega)
      subst none
      obtain ⟨fits, canonical, same⟩ := StreamBody.read_eq_ok_iff.mp read
      rw [List.append_nil] at same
      let header : StreamHeader := ⟨transaction, opcode, ⟨status⟩, Wire.ofWord32 a b c d⟩
      have whole : (StreamHeader.version :: transaction :: opcode.toByte :: status :: a :: b :: c
          :: d :: payload).take (StreamHeader.length + opcode.bodyLength) =
          header.bytes ++ body.bytes := by
        rw [StreamHeader.length, Nat.add_comm, ← same]
        simp only [List.take_succ_cons, header, StreamHeader.bytes, Wire.word32_ofWord32]
        rfl
      exact ⟨⟨header, body⟩, decode_eq_ok_iff.mpr ⟨encode_eq_ok_iff.mpr ⟨fits, whole⟩, canonical⟩⟩

end StreamMessage

/-! ## One frame for each message -/

/-- The body is one with which messages of the operation are sent. -/
inductive StreamBody.Suits : StreamOpcode → StreamBody → Prop where
  | play (start stop : Int32) (scale : Scale) : Suits (.request .play) (.play start stop scale)
  | jump (start stop : Int32) (scale : Scale) : Suits (.request .jump) (.jump start stop scale)
  | pause (stop : Int32) : Suits (.request .pause) (.pause stop)
  | resume (start : Int32) (scale : Scale) : Suits (.request .resume) (.resume start scale)
  | status : Suits (.request .status) .empty
  | reset : Suits (.request .reset) .empty
  | reply (operation : StreamRequest) (position : Int32) (scale : Scale) :
      Suits (.reply operation) (.reply position scale)
  | done (position : Int32) (scale : Scale) (mode : StreamMode) :
      Suits .done (.done position scale mode)

theorem StreamBody.fits_iff_suits {body : StreamBody} {opcode : StreamOpcode} :
    body.fits opcode = true ↔ Suits opcode body := by
  constructor
  · intro fits
    match opcode, body with
    | .request .play, .play _ _ _ => exact .play _ _ _
    | .request .jump, .jump _ _ _ => exact .jump _ _ _
    | .request .pause, .pause _ => exact .pause _
    | .request .resume, .resume _ _ => exact .resume _ _
    | .request .status, .empty => exact .status
    | .request .reset, .empty => exact .reset
    | .reply _, .reply _ _ => exact .reply _ _ _
    | .done, .done _ _ _ => exact .done _ _ _
  · intro suits
    cases suits <;> rfl

namespace StreamMessage

variable {message : StreamMessage} {frame other : Bytes}

theorem encode_eq_error_iff :
    (∃ fault, message.encode = .error fault) ↔
      ¬ StreamBody.Suits message.header.opcode message.body := by
  rw [← StreamBody.fits_iff_suits]
  by_cases fits : message.body.fits message.header.opcode = true
  · rw [encode, if_pos fits]
    exact iff_of_false nofun (not_not_intro fits)
  · rw [encode, if_neg fits]
    exact iff_of_true ⟨_, rfl⟩ fits

/-- A frame that begins a frame is all of it, since both tell their lengths in the same bytes. -/
theorem eq_of_isPrefix {one another : StreamMessage} (starts : other <+: frame)
    (found : decode other = .ok one) (foundWhole : decode frame = .ok another) : other = frame := by
  have told := frameLength_of_decode found
  have toldWhole := frameLength_of_begins foundWhole starts (three_le_of_frameLength told)
  exact starts.eq_of_length (Except.ok.inj (told.symm.trans toldWhole))

/-- A frame is read as a message exactly when it is what is written for the message, unless the
message is an announcement in disguise.  Then it has the length that the message announces, any
three or more bytes at its front tell this length, and nothing that begins with it or that it
begins with is a frame.  Only messages whose body is none of their operation have no frame. -/
theorem decode_iff_encode (frame : Bytes) (message : StreamMessage) :
    (decode frame = .ok message ↔ message.encode = .ok frame ∧ message.IsCanonical) ∧
    (decode frame = .ok message →
      frame.length = message.encodedLength ∧
      (∀ front, front <+: frame → 3 ≤ front.length → frameLength front = .ok frame.length) ∧
      ∀ other, other <+: frame ∨ frame <+: other → other ≠ frame →
        ∃ fault, decode other = .error fault) ∧
    ((∃ fault, message.encode = .error fault) ↔
      ¬ StreamBody.Suits message.header.opcode message.body) := by
  refine ⟨decode_eq_ok_iff, fun found => ?_, encode_eq_error_iff⟩
  refine ⟨length_of_encode (decode_eq_ok_iff.mp found).1, ?_, ?_⟩
  · exact fun front starts three => frameLength_of_begins found starts three
  · intro other overlaps differs
    cases foundOther : decode other with
    | error fault => exact ⟨fault, rfl⟩
    | ok message =>
        rcases overlaps with starts | starts
        · exact absurd (eq_of_isPrefix starts foundOther found) differs
        · exact absurd (eq_of_isPrefix starts found foundOther).symm differs

/-- A refusal to jump, and its frame. -/
def refusedJump : StreamMessage := ⟨⟨7, .reply .jump, ⟨0x32⟩, 0x99⟩, .reply (-5) ⟨-15, 2⟩⟩

def refusedJumpFrame : Bytes :=
  [1, 7, 0x85, 0x32, 0, 0, 0, 0x99, 0xFF, 0xFF, 0xFF, 0xFB, 0xFF, 0xF1, 0, 2]

theorem decode_iff_encode_refusedJump :
    decode refusedJumpFrame = .ok refusedJump ∧ frameLength [1, 7, 0x85] = .ok 16 ∧
      (∃ fault, decode (refusedJumpFrame.take 8) = .error fault) ∧
      ∃ fault, decode (refusedJumpFrame ++ [0]) = .error fault := by
  have found : decode refusedJumpFrame = .ok refusedJump := rfl
  obtain ⟨_, tells, alone⟩ := (decode_iff_encode refusedJumpFrame refusedJump).2.1 found
  refine ⟨found, tells [1, 7, 0x85] ⟨_, rfl⟩ (by decide), ?_, ?_⟩
  · exact alone _ (.inl (List.take_prefix _ _)) (by decide)
  · exact alone _ (.inr (List.prefix_append _ _)) (by decide)

end StreamMessage

end OnDemand
