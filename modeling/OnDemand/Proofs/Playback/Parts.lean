import Mathlib.Tactic.SplitIfs
import OnDemand.Proofs.Playback.Reassembly
import OnDemand.Proofs.Playback.Run

/-!
# What is done to a stream at one time

An operation takes the lock of a stream more than once, and other callers and the reader come in
between.  A part is what is done while the stream is locked once, or without its lock.  Parts may
follow one another in any order, so that runs of parts are all that operations, callers and the
reader can do when they go on at the same time.  Each operation is such a run by itself.
-/

namespace OnDemand

/-- What is done to a stream at one time. -/
inductive StreamPart where
  /-- The connection is stored, or taken away. -/
  | setConnection (present : Bool)
  /-- The reader is started, or stopped. -/
  | setReading (reading : Bool)
  /-- A stream whose connection was made is connected. -/
  | markConnected
  | markClosed
  /-- The next play request asks for a speed. -/
  | choose (scale : Scale)
  /-- The next play request starts at a position. -/
  | aim (milliseconds : Int32)
  /-- The position where a play request starts is looked up. -/
  | locate
  /-- The position is estimated for a caller. -/
  | estimate
  | draw
  | write (message : StreamMessage)
  | arm
  | disarm (transaction : UInt8)
  | look (transaction : UInt8)
  /-- The reader has read something, and keeps bytes that are not a message yet. -/
  | keep (buffer : Bytes)
  /-- The reader handles a message. -/
  | tell (message : StreamMessage)
  /-- The reader fails. -/
  | fail
  | setAssetEnd (milliseconds : Option UInt32)
  | passTime (duration : Time)
  /-- From now on the connection takes what is written, or does not. -/
  | setLink (up : Bool)
  deriving DecidableEq

namespace Stream

/-- What a part does to a stream. -/
def undergo (stream : Stream) (part : StreamPart) : Stream :=
  match part with
  | .setConnection hasConnection => { stream with hasConnection }
  | .setReading isReading => { stream with isReading }
  | .markConnected => { stream with state := .connected }
  | .markClosed =>
      { stream with
        state := .closed
        awaited := if stream.state = .closed then stream.awaited else none }
  | .choose scale => { stream with requestedScale := scale }
  | .aim milliseconds =>
      { stream with
        target := some milliseconds
        position := stream.position.setPaused false }
  | .locate => stream.startPosition.2
  | .estimate => { stream with position := (stream.position.estimate stream.now).2 }
  | .draw => stream.drawTransaction.2
  | .write message => (stream.write message).2
  | .arm => stream.arm.2
  | .disarm transaction => stream.disarm transaction
  | .look transaction => (stream.look transaction).2
  | .keep buffer => stream.keeping 0 buffer
  | .tell message => stream.onMessage message
  | .fail => stream.readFails
  | .setAssetEnd milliseconds => stream.setAssetEnd milliseconds
  | .passTime duration => stream.passTime duration
  | .setLink linkUp => { stream with linkUp }

/-- What parts do to a stream, one after another. -/
def undergoAll (stream : Stream) (parts : List StreamPart) : Stream := parts.foldl undergo stream

/-- One stream comes of another by parts. -/
def ComesOf (before after : Stream) : Prop := ∃ parts, after = before.undergoAll parts

variable {stream before between after : Stream}

namespace ComesOf

@[refl] theorem refl (stream : Stream) : ComesOf stream stream := ⟨[], rfl⟩

theorem part (stream : Stream) (part : StreamPart) : ComesOf stream (stream.undergo part) :=
  ⟨[part], rfl⟩

theorem trans (first : ComesOf before between) (second : ComesOf between after) :
    ComesOf before after := by
  obtain ⟨earlier, rfl⟩ := first
  obtain ⟨later, rfl⟩ := second
  exact ⟨earlier ++ later, List.foldl_append.symm⟩

end ComesOf

/-! ## Operations -/

theorem connect_comesOf (reachable : Bool) (stream : Stream) :
    ComesOf stream (stream.connect reachable).2 := by
  rw [connect]
  split_ifs
  · exact .refl stream
  · exact .refl stream
  · exact ⟨[.setReading true, .setConnection true, .markConnected], rfl⟩
  · exact .refl stream

theorem send_comesOf (build : UInt8 → StreamMessage) (stream : Stream) :
    ComesOf stream (stream.send build).2 :=
  ⟨[.draw, .write (build stream.nextTransaction)], rfl⟩

theorem request_comesOf (operation : StreamOperation) (build : UInt8 → StreamMessage)
    (stream : Stream) : ComesOf stream (stream.request operation build).2 := by
  rw [request]
  split
  · exact .refl stream
  · exact stream.send_comesOf build

theorem play_comesOf (reachable fromCurrent : Bool) (stream : Stream) :
    ComesOf stream (stream.play reachable fromCurrent).2 := by
  have connects := stream.connect_comesOf reachable
  rw [play]
  generalize stream.connect reachable = outcome at connects ⊢
  rcases outcome with ⟨fault | ⟨⟩, joined⟩
  · exact connects
  · cases accepted : joined.refusal? .play with
    | some fault => simpa only [accepted] using connects
    | none =>
        have located : ComesOf joined (if fromCurrent then (.ok currentPosition, joined)
            else joined.startPosition : Except StreamError Int32 × Stream).2 := by
          split
          · exact .refl joined
          · exact .part joined .locate
        simp only [accepted]
        generalize (if fromCurrent then (.ok currentPosition, joined)
          else joined.startPosition : Except StreamError Int32 × Stream) = start at located ⊢
        rcases start with ⟨fault | start, placed⟩
        · exact connects.trans located
        · exact (connects.trans located).trans (placed.send_comesOf _)

theorem setSpeed_comesOf (reachable : Bool) (scale : Scale) (stream : Stream) :
    ComesOf stream (stream.setSpeed reachable scale).2 := by
  rw [setSpeed]
  split
  · exact .refl stream
  · exact (ComesOf.part stream (.choose scale)).trans (play_comesOf reachable true _)

theorem setPosition_comesOf (reachable : Bool) (milliseconds : Int32) (stream : Stream) :
    ComesOf stream (stream.setPosition reachable milliseconds).2 :=
  (ComesOf.part stream (.aim milliseconds)).trans (play_comesOf reachable false _)

theorem jump_comesOf (reachable : Bool) (start stop : Int32) (scale : Scale) (stream : Stream) :
    ComesOf stream (stream.jump reachable start stop scale).2 := by
  rw [jump]
  split
  · exact .refl stream
  · have connects := stream.connect_comesOf reachable
    generalize stream.connect reachable = outcome at connects ⊢
    rcases outcome with ⟨fault | ⟨⟩, joined⟩
    · exact connects
    · cases accepted : joined.refusal? .jump with
      | some fault => simpa only [accepted] using connects
      | none =>
          simp only [accepted]
          exact (connects.trans (.part joined (.choose scale))).trans (send_comesOf _ _)

theorem close_comesOf (stream : Stream) : ComesOf stream stream.close :=
  ⟨[.setConnection false, .setReading false, .markClosed], rfl⟩

/-! ## Questions -/

theorem ask_comesOf (transaction : UInt8) (stream : Stream) :
    ComesOf stream (stream.ask transaction).2 := by
  have writes := ComesOf.part stream (.write (.status transaction stream.handle))
  simp only [undergo] at writes
  rw [ask]
  generalize stream.write _ = outcome at writes ⊢
  rcases outcome with ⟨fault | ⟨⟩, written⟩
  · exact writes.trans (.part written (.disarm transaction))
  · exact writes

theorem inquire_comesOf (stream : Stream) : ComesOf stream stream.inquire.2 := by
  have arms := ComesOf.part stream .arm
  simp only [undergo] at arms
  rw [inquire]
  generalize stream.arm = outcome at arms ⊢
  rcases outcome with ⟨fault | transaction, armed⟩
  · exact arms
  · have asks := arms.trans (armed.ask_comesOf transaction)
    generalize sent : armed.ask transaction = outcome at asks
    rcases outcome with ⟨fault | ⟨⟩, asked⟩ <;> simpa only [sent] using asks

theorem askPosition_comesOf (stream : Stream) : ComesOf stream stream.askPosition := by
  have estimates := ComesOf.part stream .estimate
  simp only [undergo] at estimates
  rw [askPosition]
  split
  · exact .refl stream
  · split
    · next position estimated =>
        rw [estimated] at estimates
        exact estimates.trans (inquire_comesOf _)
    · next position _ estimated =>
        rw [estimated] at estimates
        exact estimates

theorem askSpeed_comesOf (stream : Stream) : ComesOf stream stream.askSpeed := by
  rw [askSpeed]
  split
  · exact .refl stream
  · split
    · exact .refl stream
    · exact stream.inquire_comesOf

/-! ## The reader -/

theorem foldl_onMessage_comesOf (messages : List StreamMessage) (stream : Stream) :
    ComesOf stream (messages.foldl onMessage stream) :=
  ⟨messages.map .tell, by rw [undergoAll, List.foldl_map]; rfl⟩

theorem hear_comesOf (outcome : ReadOutcome) (stream : Stream) :
    ComesOf stream (stream.hear outcome) := by
  cases outcome with
  | timedOut => exact .refl stream
  | failed => exact .part stream .fail
  | data bytes =>
      by_cases reading : stream.isReading = true
      · rw [hear, read_eq reading]
        exact (foldl_onMessage_comesOf _ stream).trans (.part _ (.keep _))
      · rw [hear, read, if_neg reading]

/-! ## Runs -/

theorem perform_comesOf (stream : Stream) (action : StreamAction) :
    ComesOf stream (stream.perform action) := by
  cases action with
  | connect reachable => exact stream.connect_comesOf reachable
  | play reachable fromCurrent => exact stream.play_comesOf reachable fromCurrent
  | pause => exact stream.request_comesOf _ _
  | resume => exact stream.request_comesOf _ _
  | setSpeed reachable scale => exact stream.setSpeed_comesOf reachable scale
  | setPosition reachable milliseconds => exact stream.setPosition_comesOf reachable milliseconds
  | jump reachable start stop scale => exact stream.jump_comesOf reachable start stop scale
  | reset => exact stream.request_comesOf _ _
  | close => exact stream.close_comesOf
  | askPosition => exact stream.askPosition_comesOf
  | askSpeed => exact stream.askSpeed_comesOf
  | look transaction => exact .part stream (.look transaction)
  | giveUp transaction => exact .part stream (.disarm transaction)
  | setAssetEnd milliseconds => exact .part stream (.setAssetEnd milliseconds)
  | passTime duration => exact .part stream (.passTime duration)
  | setLink linkUp => exact .part stream (.setLink linkUp)
  | hear outcome => exact stream.hear_comesOf outcome

/-- Whole operations, one after another, are a run of parts. -/
theorem run_comesOf (actions : List StreamAction) (stream : Stream) :
    ComesOf stream (stream.run actions) := by
  induction actions generalizing stream with
  | nil => exact .refl stream
  | cons action rest ih => exact (stream.perform_comesOf action).trans (ih _)

end Stream

end OnDemand
