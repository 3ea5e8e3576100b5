import OnDemand.Proofs.Playback.Callers
import OnDemand.Proofs.Playback.Parts

/-!
# State and position of a stream agree

What the server tells moves the state of a stream and what is known about its position, each by
itself.  They stay in accord: a stream that plays or is paused knows where it stands, and one that
plays does not count as paused.  A paused stream need not count as paused: the owner who sets a
position takes that mark away at once, and the state follows only when the server replies.
-/

namespace OnDemand

namespace PlayPosition

variable {position : PlayPosition} {now : Time}

/-- An estimate raises alarms, and changes nothing else. -/
theorem estimate_snd (now : Time) (position : PlayPosition) :
    ∃ nearBoundary pastMidpoint midpointLatched, (position.estimate now).2 =
      { position with nearBoundary, pastMidpoint, midpointLatched } := by
  simp only [estimate]
  repeat' split
  all_goals exact ⟨_, _, _, rfl⟩

/-- A position that is known may have to be asked for, but not because nothing is known. -/
theorem estimate_ne_notStreaming (streams : position.isStreaming = true)
    (dated : position.updatedAt.isSome = true) (now : Time) :
    (position.estimate now).1 ≠ .ok (.resync .notStreaming) := by
  obtain ⟨told, toldAt⟩ := Option.isSome_iff_exists.mp dated
  have known : (position.updatedAt.filter fun _ => position.isStreaming) = some told := by
    rw [toldAt]
    exact Option.filter_some_pos streams
  simp only [estimate, known]
  repeat' split
  all_goals simp only [ne_eq, Except.ok.injEq, Estimate.resync.injEq, reduceCtorEq,
    not_false_eq_true]

theorem speed_ne_notStreaming (streams : position.isStreaming = true) :
    position.speed ≠ .error .notStreaming := by
  simp only [speed, streams, not_true_eq_false, if_false]
  repeat' split
  all_goals simp only [ne_eq, Except.error.injEq, reduceCtorEq, not_false_eq_true]

end PlayPosition

namespace Stream

/-- The state of a stream agrees with what is known about its position. -/
structure Accords (stream : Stream) : Prop where
  dated : stream.position.isStreaming = true ↔ stream.position.updatedAt.isSome = true
  playing : stream.state = .playing →
    stream.position.isStreaming = true ∧ stream.position.isPaused = false
  paused : stream.state = .paused → stream.position.isStreaming = true

variable {stream next : Stream}

namespace Accords

theorem initial (handle : UInt32) (settings : StreamSettings) :
    (Stream.initial handle settings).Accords :=
  ⟨Iff.rfl, by rintro ⟨⟩, by rintro ⟨⟩⟩

/-- What leaves the state alone, and of the position what streams, what is paused and when it was
told. -/
theorem of_eq (accords : stream.Accords) (state : next.state = stream.state)
    (streams : next.position.isStreaming = stream.position.isStreaming)
    (isPaused : next.position.isPaused = stream.position.isPaused)
    (updatedAt : next.position.updatedAt = stream.position.updatedAt) : next.Accords := by
  obtain ⟨dated, playing, paused⟩ := accords
  constructor <;> simpa only [state, streams, isPaused, updatedAt]

/-- A stream that neither plays nor is paused. -/
theorem of_idle (dated : next.position.isStreaming = true ↔ next.position.updatedAt.isSome = true)
    (unplayed : next.state ≠ .playing) (unpaused : next.state ≠ .paused) : next.Accords :=
  ⟨dated, fun playing => absurd playing unplayed, fun paused => absurd paused unpaused⟩

/-- A position that was just told leaves it to the state whether it counts as paused. -/
theorem of_told (streams : next.position.isStreaming = true)
    (dated : next.position.updatedAt.isSome = true)
    (playing : next.state = .playing → next.position.isPaused = false) : next.Accords :=
  ⟨iff_of_true streams dated, fun plays => ⟨streams, playing plays⟩, fun _ => streams⟩

/-! ## What the server tells -/

theorem accept (accords : stream.Accords) (request : StreamRequest) (position : Int32)
    (scale : Scale) : (stream.accept request position scale).Accords := by
  cases request with
  | play | jump | resume =>
      refine of_told rfl rfl fun plays => ?_
      simp only [Stream.accept, stateAt] at plays ⊢
      split at plays
      · cases plays
      · next moves => exact Bool.eq_false_iff.mpr moves
  | pause => exact of_told rfl rfl (by rintro ⟨⟩)
  | status => exact of_told rfl rfl fun plays => (accords.playing plays).2
  | reset => exact of_idle Iff.rfl (by rintro ⟨⟩) (by rintro ⟨⟩)

theorem settle (accords : stream.Accords) (reply : StatusReply) :
    (stream.settle reply).Accords := by
  rw [Stream.settle]
  split
  · exact accords.of_eq rfl rfl rfl rfl
  · exact accords

theorem onReply (accords : stream.Accords) (request : StreamRequest) (header : StreamHeader)
    (position : Int32) (scale : Scale) :
    (stream.onReply request header position scale).Accords := by
  have accepted : (if header.status.isOk then stream.accept request position scale
      else stream).Accords := by
    split
    · exact accords.accept request position scale
    · exact accords
  rw [Stream.onReply]
  cases request with
  | status => exact accepted.settle _
  | _ => exact accepted.of_eq rfl rfl rfl rfl

theorem onDone (accords : stream.Accords) (position : Int32) (scale : Scale) (mode : StreamMode) :
    (stream.onDone position scale mode).Accords := by
  have unpaused := fun plays => (accords.playing plays).2
  simp only [Stream.onDone]
  split_ifs
  · exact of_told rfl rfl (by rintro ⟨⟩)
  · exact of_told rfl rfl (by rintro ⟨⟩)
  all_goals exact of_told rfl rfl unpaused

theorem onMessage (accords : stream.Accords) (message : StreamMessage) :
    (stream.onMessage message).Accords := by
  rw [Stream.onMessage]
  split
  · exact accords.onDone _ _ _
  · exact accords.onReply _ _ _ _
  · exact accords

/-! ## Parts -/

theorem readFails (accords : stream.Accords) : stream.readFails.Accords := by
  simp only [Stream.readFails]
  split_ifs
  · exact accords.of_eq rfl rfl rfl rfl
  · exact of_idle Iff.rfl (by rintro ⟨⟩) (by rintro ⟨⟩)
  · exact accords

theorem estimate (accords : stream.Accords) :
    { stream with position := (stream.position.estimate stream.now).2 : Stream }.Accords := by
  obtain ⟨_, _, _, estimated⟩ := stream.position.estimate_snd stream.now
  rw [estimated]
  exact accords.of_eq rfl rfl rfl rfl

theorem startPosition (accords : stream.Accords) : stream.startPosition.2.Accords := by
  have estimated := accords.estimate
  rw [Stream.startPosition]
  split
  · exact accords.of_eq rfl rfl rfl rfl
  · split <;> next outcome => rwa [outcome] at estimated

/-- Whatever part comes next, state and position stay in accord. -/
theorem undergo (accords : stream.Accords) (part : StreamPart) : (stream.undergo part).Accords := by
  cases part with
  | setConnection _ | setReading _ | choose _ | draw | keep _ | setAssetEnd _ | passTime _
  | setLink _ => exact accords.of_eq rfl rfl rfl rfl
  | markConnected => exact of_idle accords.dated (by rintro ⟨⟩) (by rintro ⟨⟩)
  | markClosed => exact of_idle accords.dated (by rintro ⟨⟩) (by rintro ⟨⟩)
  | aim milliseconds =>
      exact ⟨accords.dated, fun plays => ⟨(accords.playing plays).1, rfl⟩, accords.paused⟩
  | locate => exact accords.startPosition
  | estimate => exact accords.estimate
  | write message =>
      rcases stream.write_cases message with ⟨written, writes⟩ | ⟨fault, fails⟩
      · rw [Stream.undergo, writes]
        exact accords.of_eq rfl rfl rfl rfl
      · rw [Stream.undergo, fails]
        exact accords
  | arm =>
      simp only [Stream.undergo, Stream.arm]
      split
      · exact accords
      · exact accords.of_eq rfl rfl rfl rfl
  | disarm transaction =>
      simp only [Stream.undergo, Stream.disarm]
      split
      · exact accords.of_eq rfl rfl rfl rfl
      · exact accords
  | look transaction =>
      rw [Stream.undergo, look_snd]
      exact accords.of_eq rfl rfl rfl rfl
  | tell message => exact accords.onMessage message
  | fail => exact accords.readFails

theorem undergoAll (accords : stream.Accords) (parts : List StreamPart) :
    (stream.undergoAll parts).Accords := by
  induction parts generalizing stream with
  | nil => exact accords
  | cons part rest ih => exact ih (accords.undergo part)

/-- A stream that plays or is paused knows where it stands. -/
theorem streams (accords : stream.Accords) (known : stream.state = .playing ∨
    stream.state = .paused) : stream.position.isStreaming = true := by
  rcases known with plays | paused
  · exact (accords.playing plays).1
  · exact accords.paused paused

end Accords

/-! ## Messages that tell nothing -/

/-- The state stays as it is, and the position, and whether the stream was already done once while
it moved backwards. -/
structure StandsStill (before after : Stream) : Prop where
  state : after.state = before.state
  position : after.position = before.position
  reverseDoneSeen : after.reverseDoneSeen = before.reverseDoneSeen

theorem onReply_standsStill {request : StreamRequest} {header : StreamHeader}
    (refused : header.status.isOk = false) (position : Int32) (scale : Scale) :
    StandsStill stream (stream.onReply request header position scale) := by
  simp only [onReply, refused, Bool.false_eq_true, if_false, settle]
  cases request <;> simp only [eventOf, tell]
  case status => split <;> exact ⟨rfl, rfl, rfl⟩
  all_goals exact ⟨rfl, rfl, rfl⟩

/-- A refusal and a request tell nothing about the stream. -/
theorem onMessage_standsStill {message : StreamMessage}
    (fits : message.body.fits message.header.opcode = true)
    (idle : message.header.opcode.isReply = true ∧ message.header.status.isOk = false ∨
      ∃ operation, message.header.opcode = .request operation) :
    StandsStill stream (stream.onMessage message) := by
  obtain ⟨⟨transaction, opcode, status, handle⟩, body⟩ := message
  rcases idle with ⟨isReply, refused⟩ | ⟨operation, rfl⟩
  · cases opcode with
    | reply request =>
        cases body with
        | reply position scale => exact onReply_standsStill refused position scale
        | _ => cases fits
    | _ => cases isReply
  · cases body with
    | done position scale mode => cases operation <;> cases fits
    | _ => exact ⟨rfl, rfl, rfl⟩

/-! ## Runs -/

/-- Whatever the owner, the callers and the reader do, in whatever order they come by the stream,
a stream streams exactly when it was told a position; one that plays streams and does not count as
paused; one that is paused streams; and neither has to ask the server for want of a position.
Replies by which the server refuses, and requests of the server, change neither the state nor the
position.  Operations one after another are such runs. -/
theorem accords_undergoAll (handle : UInt32) (settings : StreamSettings) :
    (∀ parts, let stream := (initial handle settings).undergoAll parts
      stream.Accords ∧
      (stream.state = .playing ∨ stream.state = .paused →
        (∀ now, (stream.position.estimate now).1 ≠ .ok (.resync .notStreaming)) ∧
        stream.position.speed ≠ .error .notStreaming) ∧
      ∀ frame message, StreamMessage.decode frame = .ok message →
        (message.header.opcode.isReply = true ∧ message.header.status.isOk = false ∨
          ∃ operation, message.header.opcode = .request operation) →
        StandsStill stream (stream.onMessage message)) ∧
    ∀ actions, ∃ parts, (initial handle settings).run actions =
      (initial handle settings).undergoAll parts := by
  refine ⟨fun parts => ?_, fun actions => run_comesOf actions _⟩
  intro stream
  have accords : stream.Accords := (Accords.initial handle settings).undergoAll parts
  refine ⟨accords, fun known => ?_, fun frame message decoded idle => ?_⟩
  · have streams := accords.streams known
    exact ⟨PlayPosition.estimate_ne_notStreaming streams (accords.dated.mp streams),
      PlayPosition.speed_ne_notStreaming streams⟩
  · have fits := (StreamMessage.encode_eq_ok_iff.mp
      (StreamMessage.decode_eq_ok_iff.mp decoded).1).1
    exact onMessage_standsStill fits idle

/-- The server plays a stream, and pauses it. -/
def pausedParts : List StreamPart :=
  [.markConnected, .tell ⟨⟨1, .reply .play, .ok, 7⟩, .reply 1000 .normal⟩,
    .tell ⟨⟨2, .reply .pause, .ok, 7⟩, .reply 2000 .normal⟩]

/-- The server refuses to play on, with a position and a scale all the same. -/
def refusedPlay : StreamMessage := ⟨⟨3, .reply .play, ⟨0x12⟩, 7⟩, .reply 9000 ⟨2, 1⟩⟩

/-- A stream that plays streams.  One that was paused does not count as paused once a position is
set, stays paused, and knows where it stands; when the server then refuses to play on, this remains
so. -/
theorem accords_undergoAll_refusedPlay :
    let playing := (initial 7 {}).undergoAll (pausedParts.take 2)
    let aimed := (initial 7 {}).undergoAll (pausedParts ++ [.aim 5000])
    (playing.state = .playing ∧ playing.position.speed ≠ .error .notStreaming) ∧
      (aimed.state = .paused ∧ aimed.position.isPaused = false ∧
        ∀ now, (aimed.position.estimate now).1 ≠ .ok (.resync .notStreaming)) ∧
      StreamMessage.decode [1, 3, 0x86, 0x12, 0, 0, 0, 7, 0, 0, 0x23, 0x28, 0, 2, 0, 1] =
        .ok refusedPlay ∧
      StandsStill aimed (aimed.onMessage refusedPlay) := by
  intro playing aimed
  obtain ⟨runs, -⟩ := accords_undergoAll 7 {}
  obtain ⟨-, plays, -⟩ := runs (pausedParts.take 2)
  obtain ⟨-, rests, stands⟩ := runs (pausedParts ++ [.aim 5000])
  have decoded : StreamMessage.decode
      [1, 3, 0x86, 0x12, 0, 0, 0, 7, 0, 0, 0x23, 0x28, 0, 2, 0, 1] = .ok refusedPlay := rfl
  exact ⟨⟨rfl, (plays (.inl rfl)).2⟩, ⟨rfl, rfl, (rests (.inr rfl)).1⟩, decoded,
    stands _ refusedPlay decoded (.inl ⟨rfl, rfl⟩)⟩

end Stream

end OnDemand
