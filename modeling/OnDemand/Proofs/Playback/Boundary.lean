import Mathlib.Data.List.DropRight
import OnDemand.Proofs.Playback.Callers
import OnDemand.Proofs.Playback.Parts

/-!
# The edges of an asset

The server tells that playback is done, and the owner is told which edge of the asset was reached.
At the end of a stream that stands still, the position says which.  A stream that moves backwards
is at the start only when it is done for the second time, and what it remembers of the first time
is one flag.  That flag is whether the number of such messages is odd, counted over all that the
reader has heard since a request to play was last accepted.
-/

namespace OnDemand

/-- A message that the reader handled, and the stream as it was then. -/
structure Hearing where
  found : Stream
  message : StreamMessage

namespace Hearing

/-- The server has accepted a request to play, to jump or to resume. -/
def restarts (hearing : Hearing) : Bool :=
  match hearing.message.body, hearing.message.header.opcode with
  | .reply .., .reply .play | .reply .., .reply .jump | .reply .., .reply .resume =>
      hearing.message.header.status.isOk
  | _, _ => false

/-- The stream is done, though not at an end where it stands still, and it moves backwards or did
so last. -/
def isReversal (hearing : Hearing) : Bool :=
  match hearing.message.body with
  | .done _ scale mode =>
      !(decide (mode = .endOfStream) && scale.isStopped) &&
        (hearing.found.position.scale.isReverse && !hearing.found.position.isPaused ||
          scale.isReverse)
  | _ => false

/-- How often the stream was done while it moved backwards, since it last began to play. -/
def reversals (hearings : List Hearing) : Nat :=
  (hearings.rtakeWhile fun hearing => !hearing.restarts).countP isReversal

variable {hearings : List Hearing} {hearing : Hearing}

theorem reversals_concat_of_restarts (restarts : hearing.restarts = true) :
    reversals (hearings ++ [hearing]) = 0 := by
  rw [reversals, List.rtakeWhile_concat_neg _ _ _ (by simp [restarts]), List.countP_nil]

theorem reversals_concat (goesOn : hearing.restarts = false) :
    reversals (hearings ++ [hearing]) =
      reversals hearings + if hearing.isReversal then 1 else 0 := by
  rw [reversals, List.rtakeWhile_concat_pos _ _ _ (by simp [goesOn]), List.countP_append,
    List.countP_singleton, reversals]

end Hearing

namespace Stream

open Hearing (reversals)

/-- What the reader hears in a part. -/
def heard (stream : Stream) : StreamPart → List Hearing
  | .tell message => [⟨stream, message⟩]
  | _ => []

/-- What the reader hears in one part after another, earliest first. -/
def hearings (stream : Stream) : List StreamPart → List Hearing
  | [] => []
  | part :: rest => stream.heard part ++ (stream.undergo part).hearings rest

/-- The flag counts, up to two, how often the stream was done while it moved backwards. -/
def Remembers (stream : Stream) (hearings : List Hearing) : Prop :=
  stream.reverseDoneSeen = decide (reversals hearings % 2 = 1)

variable {stream : Stream} {hearings : List Hearing}

/-! ## What the server tells -/

/-- The server has said that playback is done at an end, where the stream stands still. -/
theorem onDone_atEnd {mode : StreamMode} {scale : Scale}
    (ends : mode = .endOfStream ∧ scale.isStopped = true) (position : Int32) (stream : Stream) :
    (stream.onDone position scale mode).events =
        stream.events ++ [if position = 0 then .beginOfStream else .endOfStream] ∧
      (stream.onDone position scale mode).state = .paused ∧
      (stream.onDone position scale mode).reverseDoneSeen = stream.reverseDoneSeen := by
  simp only [onDone, if_pos ends]
  exact ⟨rfl, rfl, rfl⟩

/-- The server has said so elsewhere.  Moving backwards turns the flag over, and tells the start
when the flag was set. -/
theorem onDone_onTheWay {mode : StreamMode} {scale : Scale}
    (goesOn : ¬ (mode = .endOfStream ∧ scale.isStopped = true)) (header : StreamHeader)
    (position : Int32) (stream : Stream) :
    let reversal := Hearing.isReversal ⟨stream, ⟨header, .done position scale mode⟩⟩
    (stream.onDone position scale mode).events = stream.events ++
        (if reversal && stream.reverseDoneSeen then [.beginOfStream] else []) ∧
      (stream.onDone position scale mode).reverseDoneSeen =
        (stream.reverseDoneSeen ^^ reversal) := by
  intro reversal
  have reverses : reversal = (stream.position.scale.isReverse && !stream.position.isPaused ||
      scale.isReverse) := by
    have here : (decide (mode = .endOfStream) && scale.isStopped) = false := by
      simpa only [Bool.and_eq_false_imp, decide_eq_true_eq, not_and, Bool.not_eq_true] using goesOn
    simp only [reversal, Hearing.isReversal, here, Bool.not_false, Bool.true_and]
  simp only [onDone, if_neg goesOn, ← reverses]
  cases reversal with
  | false => simp
  | true => cases seen : stream.reverseDoneSeen <;> simp [tell]

theorem accept_reverseDoneSeen (request : StreamRequest) (position : Int32) (scale : Scale)
    (stream : Stream) :
    (stream.accept request position scale).reverseDoneSeen =
      (stream.reverseDoneSeen &&
        !(request = .play || request = .jump || request = .resume)) := by
  cases request <;> simp [accept]

theorem settle_reverseDoneSeen (reply : StatusReply) (stream : Stream) :
    (stream.settle reply).reverseDoneSeen = stream.reverseDoneSeen := by
  rw [settle]
  split <;> rfl

/-- Only the reply that accepts a request to play, to jump or to resume takes the flag away. -/
theorem onReply_reverseDoneSeen {request : StreamRequest} {header : StreamHeader}
    (replies : header.opcode = .reply request) (position : Int32) (scale : Scale)
    (stream : Stream) :
    (stream.onReply request header position scale).reverseDoneSeen =
      (stream.reverseDoneSeen &&
        !Hearing.restarts ⟨stream, ⟨header, .reply position scale⟩⟩) := by
  have answered : (stream.onReply request header position scale).reverseDoneSeen =
      (if header.status.isOk then stream.accept request position scale
        else stream).reverseDoneSeen := by
    rw [onReply]
    cases request with
    | status => exact settle_reverseDoneSeen _ _
    | _ => rfl
  rw [answered]
  cases accepted : header.status.isOk with
  | false => cases request <;> simp [Hearing.restarts, replies, accepted]
  | true =>
      simp only [if_true, accept_reverseDoneSeen]
      cases request <;> simp [Hearing.restarts, replies, accepted]

/-! ## Parts -/

theorem readFails_reverseDoneSeen (stream : Stream) :
    stream.readFails.reverseDoneSeen = stream.reverseDoneSeen := by
  simp only [readFails]
  split_ifs <;> rfl

theorem startPosition_reverseDoneSeen (stream : Stream) :
    stream.startPosition.2.reverseDoneSeen = stream.reverseDoneSeen := by
  rw [startPosition]
  split
  · rfl
  · split <;> rfl

/-- A part in which the reader hears nothing leaves the flag alone. -/
theorem undergo_reverseDoneSeen {part : StreamPart} (silent : stream.heard part = []) :
    (stream.undergo part).reverseDoneSeen = stream.reverseDoneSeen := by
  cases part with
  | tell message => cases silent
  | locate => exact stream.startPosition_reverseDoneSeen
  | fail => exact stream.readFails_reverseDoneSeen
  | look transaction => rw [undergo, look_snd]
  | write message =>
      rw [undergo]
      cases stream.write_cases message with
      | inl sent =>
          obtain ⟨_, writes⟩ := sent
          rw [writes]
      | inr refused =>
          obtain ⟨_, fails⟩ := refused
          rw [fails]
  | arm =>
      simp only [undergo, arm]
      split <;> rfl
  | disarm transaction =>
      simp only [undergo, disarm]
      split <;> rfl
  | _ => rfl

namespace Remembers

theorem initial (handle : UInt32) (settings : StreamSettings) :
    (Stream.initial handle settings).Remembers [] := rfl

/-- What the flag has to do when one more message has been heard. -/
theorem concat {next : Stream} {hearing : Hearing} (remembers : stream.Remembers hearings)
    (turned : next.reverseDoneSeen =
      ((stream.reverseDoneSeen ^^ hearing.isReversal) && !hearing.restarts)) :
    next.Remembers (hearings ++ [hearing]) := by
  rw [Remembers] at remembers ⊢
  rw [turned, remembers]
  cases goesOn : hearing.restarts with
  | true => simp [Hearing.reversals_concat_of_restarts goesOn]
  | false =>
      rw [Hearing.reversals_concat goesOn]
      cases hearing.isReversal with
      | false => simp
      | true =>
          simp only [Bool.xor_true, Bool.not_false, Bool.and_true, if_true, ← decide_not]
          exact decide_eq_decide.mpr (by omega)

theorem onDone (remembers : stream.Remembers hearings) (header : StreamHeader) (position : Int32)
    (scale : Scale) (mode : StreamMode) :
    (stream.onDone position scale mode).Remembers
      (hearings ++ [⟨stream, ⟨header, .done position scale mode⟩⟩]) := by
  apply remembers.concat
  by_cases ends : mode = .endOfStream ∧ scale.isStopped = true
  · rw [(onDone_atEnd ends position stream).2.2]
    simp [Hearing.isReversal, Hearing.restarts, ends.1, ends.2]
  · rw [(onDone_onTheWay ends header position stream).2]
    simp [Hearing.restarts]

theorem onReply {request : StreamRequest} {header : StreamHeader}
    (remembers : stream.Remembers hearings) (replies : header.opcode = .reply request)
    (position : Int32) (scale : Scale) :
    (stream.onReply request header position scale).Remembers
      (hearings ++ [⟨stream, ⟨header, .reply position scale⟩⟩]) := by
  apply remembers.concat
  rw [onReply_reverseDoneSeen replies]
  simp [Hearing.isReversal]

theorem onMessage (remembers : stream.Remembers hearings) (message : StreamMessage) :
    (stream.onMessage message).Remembers (hearings ++ [⟨stream, message⟩]) := by
  obtain ⟨header, body⟩ := message
  cases body with
  | done position scale mode => exact remembers.onDone header position scale mode
  | reply position scale =>
      cases replies : header.opcode with
      | reply request =>
          simp only [Stream.onMessage, replies]
          exact remembers.onReply replies position scale
      | _ =>
          apply remembers.concat
          simp [Stream.onMessage, Hearing.isReversal, Hearing.restarts, replies]
  | _ =>
      apply remembers.concat
      simp [Stream.onMessage, Hearing.isReversal, Hearing.restarts]

theorem undergo (remembers : stream.Remembers hearings) (part : StreamPart) :
    (stream.undergo part).Remembers (hearings ++ stream.heard part) := by
  by_cases silent : stream.heard part = []
  · rw [silent, List.append_nil, Remembers, undergo_reverseDoneSeen silent]
    exact remembers
  · cases part with
    | tell message => exact remembers.onMessage message
    | _ => exact absurd rfl silent

/-- The flag counts along every run of parts. -/
theorem undergoAll (remembers : stream.Remembers hearings) (parts : List StreamPart) :
    (stream.undergoAll parts).Remembers (hearings ++ stream.hearings parts) := by
  induction parts generalizing stream hearings with
  | nil =>
      rw [Stream.hearings, List.append_nil]
      exact remembers
  | cons part rest ih =>
      rw [Stream.hearings, ← List.append_assoc]
      exact ih (remembers.undergo part)

end Remembers

/-- Whatever the owner, the callers and the reader have done with a stream, in whatever order they
come by it, when the server tells that playback is done.  At the end of the stream and with a scale
of zero, the owner is told exactly one edge, the start if the position is zero and the end
otherwise, and the stream is paused.  Otherwise the owner is told nothing but the start, and that
exactly when the stream moves backwards, or did so last without being paused, and the number of
such messages, counted since a request to play, to jump or to resume was last accepted, or else
since the beginning, was odd before. -/
theorem edges_of_done (handle : UInt32) (settings : StreamSettings) (parts : List StreamPart)
    (header : StreamHeader) (position : Int32) (scale : Scale) (mode : StreamMode) :
    let stream := (initial handle settings).undergoAll parts
    let hearing : Hearing := ⟨stream, ⟨header, .done position scale mode⟩⟩
    let earlier := reversals ((initial handle settings).hearings parts)
    let after := stream.onMessage hearing.message
    (mode = .endOfStream ∧ scale.isStopped = true →
      after.events = stream.events ++ [if position = 0 then .beginOfStream else .endOfStream] ∧
        after.state = .paused) ∧
    (¬ (mode = .endOfStream ∧ scale.isStopped = true) →
      after.events = stream.events ++
        if hearing.isReversal = true ∧ earlier % 2 = 1 then [.beginOfStream] else []) := by
  intro stream hearing earlier after
  constructor
  · intro ends
    have told := onDone_atEnd ends position stream
    exact ⟨told.1, told.2.1⟩
  · intro goesOn
    have remembers : stream.reverseDoneSeen = decide (earlier % 2 = 1) :=
      (Remembers.initial handle settings).undergoAll parts
    have told := (onDone_onTheWay goesOn header position stream).1
    simp only [remembers, Bool.and_eq_true, decide_eq_true_eq] at told
    exact told

/-- A stream that was done while it moved backwards no longer does so when it is done again, and is
at the start; or else it stands still at the end. -/
theorem edges_of_done_again :
    let stream := (initial 7 {}).undergoAll [.tell (.done 7 400 ⟨-15, 2⟩ .transport)]
    let stopped := stream.onMessage (.done 7 900 ⟨0, 1⟩ .endOfStream)
    (stream.onMessage (.done 7 0 .normal .transport)).events = [.beginOfStream] ∧
      stopped.events = [.endOfStream] ∧ stopped.state = .paused := by
  have edges := edges_of_done 7 {} [.tell (.done 7 400 ⟨-15, 2⟩ .transport)] ⟨0, .done, .ok, 7⟩
  have again := (edges 0 .normal .transport).2 (by decide)
  have stopped := (edges 900 ⟨0, 1⟩ .endOfStream).1 (by decide)
  exact ⟨again, stopped.1, stopped.2⟩

end Stream
end OnDemand
