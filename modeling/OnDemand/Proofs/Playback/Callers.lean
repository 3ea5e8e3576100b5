import Mathlib.Logic.Function.Basic
import Mathlib.Tactic.SplitIfs
import OnDemand.Playback.Query
import OnDemand.Proofs.Playback.Reassembly

/-!
# Callers that wait at the same time

Several callers may ask a server where a stream stands, and wait.  Each of them arms its request
and then sends it, looks for its reply whenever it wakes up, and gives up in the end; the reader
hands on what the server tells.  A stream expects one reply and keeps one reply only.  So a caller
that arms displaces the one that waits before it, and a caller that looks takes away what is
there, whoever it is for.
-/

namespace OnDemand

/-- Where the question of a caller stands. -/
inductive Question where
  | idle
  /-- The request has its transaction and has not been written. -/
  | armed (transaction : UInt8)
  | waiting (transaction : UInt8)
  | answered (answer : Except StreamError (Int32 × Scale))

/-- The transaction that a caller holds. -/
def Question.held? : Question → Option UInt8
  | armed transaction | waiting transaction => some transaction
  | _ => none

/-- A stream and those who ask about it. -/
structure Callers where
  stream : Stream
  question : Nat → Question := fun _ => .idle

/-- What a caller, the reader or the owner does while it has the stream to itself. -/
inductive CallerStep where
  | arm (caller : Nat)
  /-- A caller is told that nothing can be asked of the stream as it is. -/
  | turnAway (caller : Nat)
  | ask (caller : Nat)
  | look (caller : Nat)
  | giveUp (caller : Nat)
  /-- The reader handles a message. -/
  | tell (message : StreamMessage)
  /-- The reader has read something, and keeps bytes that are not a message yet. -/
  | keep (buffer : Bytes)
  /-- The reader fails. -/
  | fail
  | close
  /-- From now on the connection takes what is written, or does not. -/
  | setLink (up : Bool)
  deriving DecidableEq

namespace CallerStep

/-- Whether a step draws a transaction. -/
def arms : CallerStep → Bool
  | arm _ => true
  | _ => false

/-- Whether a step takes away the reply that is kept for a caller. -/
def disturbs (caller : Nat) : CallerStep → Bool
  | arm _ => true
  | look looker => looker ≠ caller
  | _ => false

end CallerStep

/-- The reply to a status request that a message is. -/
def StreamMessage.statusReply? (message : StreamMessage) : Option StatusReply :=
  match message.body, message.header.opcode with
  | .reply position scale, .reply .status =>
      some ⟨message.header.transaction, message.header.status, position, scale⟩
  | _, _ => none

/-! ## What the steps do to the two places -/

namespace Stream

/-- What the end of a stream answers to those who wait. -/
def end? (stream : Stream) : Option (Except StreamError (Int32 × Scale)) :=
  match stream.state with
  | .lost => some (.error .lost)
  | .closed => some (.error (.invalidState .queryStatus .closed))
  | _ => none

theorem end?_ne_answerOf (stream : Stream) (reply : StatusReply) :
    stream.end? ≠ some (answerOf reply) := by
  simp only [end?, answerOf]
  split <;> split <;> nofun

variable {stream : Stream} {transaction : UInt8}

theorem arm_eq (accepted : stream.refusal? .queryStatus = none) :
    stream.arm = (.ok stream.nextTransaction,
      { stream.drawTransaction.2 with
        awaited := some stream.nextTransaction, statusReply := none }) := by
  rw [arm, accepted]
  rfl

theorem write_cases (message : StreamMessage) (stream : Stream) :
    (∃ written, stream.write message = (.ok (), { stream with written })) ∨
      ∃ fault, stream.write message = (.error fault, stream) := by
  rw [write]
  split
  · exact .inr ⟨_, rfl⟩
  · split_ifs
    · exact .inl ⟨_, rfl⟩
    · exact .inr ⟨_, rfl⟩
    · exact .inr ⟨_, rfl⟩

/-- A request that cannot be written is not waited for. -/
theorem ask_cases (transaction : UInt8) (stream : Stream) :
    (∃ written, stream.ask transaction = (.ok (), { stream with written })) ∨
      ∃ fault, stream.ask transaction = (.error fault, stream.disarm transaction) := by
  rcases stream.write_cases (.status transaction stream.handle) with
    ⟨written, writes⟩ | ⟨fault, fails⟩
  · exact .inl ⟨written, by rw [ask, writes]⟩
  · exact .inr ⟨fault, by rw [ask, fails]⟩

theorem look_snd (transaction : UInt8) (stream : Stream) :
    (stream.look transaction).2 = { stream with statusReply := none } := by
  simp only [look]
  split
  · rfl
  · split <;> rfl

theorem look_of_kept {reply : StatusReply} (kept : stream.statusReply = some reply)
    (own : reply.transaction = transaction) :
    (stream.look transaction).1 = some (answerOf reply) := by
  have mine : (stream.statusReply.filter fun reply => reply.transaction = transaction) =
      some reply := by
    rw [kept]
    exact Option.filter_some_pos (decide_eq_true own)
  simp only [look, mine]

theorem look_of_foreign
    (foreign : ∀ reply, stream.statusReply = some reply → reply.transaction ≠ transaction) :
    (stream.look transaction).1 = stream.end? := by
  have nothing : (stream.statusReply.filter fun reply => reply.transaction = transaction) =
      none := by
    rw [Option.filter_eq_none_iff]
    exact fun reply kept => mt of_decide_eq_true (foreign reply kept)
  simp only [look, nothing, end?]
  cases stream.state <;> rfl

/-- A message has nothing to do with what is expected and what is kept, unless it is the reply
that is expected. -/
theorem onMessage_places (message : StreamMessage) (stream : Stream) :
    let next := stream.onMessage message
    next.nextTransaction = stream.nextTransaction ∧
      ((∃ reply, message.statusReply? = some reply ∧ stream.awaited = some reply.transaction ∧
          next.awaited = none ∧ next.statusReply = some reply) ∨
        next.awaited = stream.awaited ∧ next.statusReply = stream.statusReply ∧
          ∀ reply, message.statusReply? = some reply →
            stream.awaited ≠ some reply.transaction) := by
  obtain ⟨⟨transaction, opcode, status, handle⟩, body⟩ := message
  have accepts (request : StreamRequest) (position : Int32) (scale : Scale) :
      ∃ (updated : PlayPosition) (state : StreamState) (seen : Bool),
        (if status.isOk then stream.accept request position scale else stream) =
          { stream with position := updated, state, reverseDoneSeen := seen } := by
    split
    · cases request <;> exact ⟨_, _, _, rfl⟩
    · exact ⟨_, _, _, rfl⟩
  cases body with
  | done position scale mode =>
      have unanswered (reply : StatusReply) :
          StreamMessage.statusReply? ⟨⟨transaction, opcode, status, handle⟩,
            .done position scale mode⟩ ≠ some reply := by rintro ⟨⟩
      refine ⟨?_, .inr ⟨?_, ?_, fun reply told => absurd told (unanswered reply)⟩⟩ <;>
        simp only [onMessage, onDone, apply_ite nextTransaction, apply_ite awaited,
          apply_ite statusReply, tell, ite_self]
  | reply position scale =>
      cases opcode with
      | reply request =>
          obtain ⟨updated, state, seen, accepted⟩ := accepts request position scale
          simp only [onMessage, onReply, accepted]
          cases request with
          | status =>
              simp only [eventOf, settle]
              split
              · next expected =>
                  exact ⟨rfl, .inl ⟨_, rfl, expected, rfl, rfl⟩⟩
              · next stale =>
                  refine ⟨rfl, .inr ⟨rfl, rfl, ?_⟩⟩
                  rintro reply ⟨⟩
                  exact stale
          | _ => exact ⟨rfl, .inr ⟨rfl, rfl, by rintro _ ⟨⟩⟩⟩
      | _ => exact ⟨rfl, .inr ⟨rfl, rfl, by rintro _ ⟨⟩⟩⟩
  | _ => exact ⟨rfl, .inr ⟨rfl, rfl, by rintro _ ⟨⟩⟩⟩

/-- A failure of the reader changes neither, unless the stream is lost, and then nothing is
expected any more. -/
theorem readFails_places (stream : Stream) :
    let next := stream.readFails
    next.nextTransaction = stream.nextTransaction ∧ next.statusReply = stream.statusReply ∧
      (next.awaited = stream.awaited ∧ next.isReading = stream.isReading ∨
        next.awaited = none ∧ next.isReading = false) := by
  simp only [readFails]
  split_ifs
  · exact ⟨rfl, rfl, .inl ⟨rfl, rfl⟩⟩
  · exact ⟨rfl, rfl, .inr ⟨rfl, rfl⟩⟩
  · exact ⟨rfl, rfl, .inl ⟨rfl, rfl⟩⟩

theorem close_places (stream : Stream) :
    stream.close.awaited = stream.awaited ∨ stream.close.awaited = none := by
  by_cases closed : stream.state = .closed
  · exact .inl (if_pos closed)
  · exact .inr (if_neg closed)

theorem disarm_places (transaction : UInt8) (stream : Stream) :
    let next := stream.disarm transaction
    next.nextTransaction = stream.nextTransaction ∧ next.statusReply = stream.statusReply ∧
      next.isReading = stream.isReading ∧
      (next.awaited = stream.awaited ∨
        stream.awaited = some transaction ∧ next.awaited = none) := by
  simp only [disarm]
  split
  · next expected => exact ⟨rfl, rfl, rfl, .inr ⟨expected, rfl⟩⟩
  · exact ⟨rfl, rfl, rfl, .inl rfl⟩

end Stream

namespace Callers

/-- The stream is left like this, and the question of a caller stands there. -/
def leave (callers : Callers) (caller : Nat) (stream : Stream) (question : Question) : Callers :=
  ⟨stream, Function.update callers.question caller question⟩

/-- A caller looks. -/
def look (callers : Callers) (caller : Nat) (transaction : UInt8) : Callers :=
  match callers.stream.look transaction with
  | (some answer, stream) => callers.leave caller stream (.answered answer)
  | (none, stream) => { callers with stream }

/-- What a step comes to, if it can be taken. -/
def step? (callers : Callers) : CallerStep → Option Callers
  | .arm caller =>
      match (callers.question caller).held?, callers.stream.arm with
      | none, (.ok transaction, stream) => some (callers.leave caller stream (.armed transaction))
      | _, _ => none
  | .turnAway caller =>
      match (callers.question caller).held?, callers.stream.arm with
      | none, (.error fault, stream) =>
          some (callers.leave caller stream (.answered (.error fault)))
      | _, _ => none
  | .ask caller =>
      match callers.question caller with
      | .armed transaction =>
          match callers.stream.ask transaction with
          | (.ok (), stream) => some (callers.leave caller stream (.waiting transaction))
          | (.error fault, stream) => some (callers.leave caller stream (.answered (.error fault)))
      | _ => none
  | .look caller =>
      match callers.question caller with
      | .waiting transaction => some (callers.look caller transaction)
      | _ => none
  | .giveUp caller =>
      match callers.question caller with
      | .waiting transaction =>
          let (answer, stream) := callers.stream.giveUp transaction
          some (callers.leave caller stream (.answered answer))
      | _ => none
  | .tell message =>
      if callers.stream.isReading then
        some { callers with stream := callers.stream.onMessage message }
      else none
  | .keep buffer =>
      if callers.stream.isReading then
        some { callers with stream := callers.stream.keeping 0 buffer }
      else none
  | .fail => some { callers with stream := callers.stream.readFails }
  | .close => some { callers with stream := callers.stream.close }
  | .setLink linkUp => some { callers with stream := { callers.stream with linkUp } }

/-- What steps come to, one after another, if each can be taken. -/
def run? (callers : Callers) (steps : List CallerStep) : Option Callers :=
  steps.foldlM step? callers

variable {callers after : Callers} {caller : Nat} {transaction : UInt8}

theorem question_leave_self (callers : Callers) (actor : Nat) (stream : Stream)
    (question : Question) : (callers.leave actor stream question).question actor = question :=
  Function.update_self ..

theorem question_leave_of_ne {actor other : Nat} (different : other ≠ actor) (callers : Callers)
    (stream : Stream) (question : Question) :
    (callers.leave actor stream question).question other = callers.question other :=
  Function.update_of_ne different ..

theorem stream_leave (callers : Callers) (actor : Nat) (stream : Stream) (question : Question) :
    (callers.leave actor stream question).stream = stream := rfl

theorem leave_leave (callers : Callers) (actor : Nat) (stream next : Stream)
    (question answer : Question) :
    (callers.leave actor stream question).leave actor next answer =
      callers.leave actor next answer :=
  congrArg (Callers.mk next) (Function.update_idem ..)

theorem run?_cons {step : CallerStep} {rest : List CallerStep} :
    callers.run? (step :: rest) = some after ↔
      ∃ between, callers.step? step = some between ∧ between.run? rest = some after := by
  rw [run?, List.foldlM_cons]
  exact Option.bind_eq_some_iff

theorem run?_append {earlier later : List CallerStep} {between : Callers}
    (first : callers.run? earlier = some between) (second : between.run? later = some after) :
    callers.run? (earlier ++ later) = some after := by
  rw [run?, List.foldlM_append]
  exact Option.bind_eq_some_iff.mpr ⟨between, first, second⟩

/-! ## A question of a single caller is a run -/

/-- Reading is handling the messages that are found, and keeping the rest. -/
theorem run?_read (callers : Callers) (reading : callers.stream.isReading) (bytes : Bytes) :
    let found := StreamMessage.splitFrames (callers.stream.buffer ++ bytes)
    callers.run? (found.1.map .tell ++ [.keep found.2]) =
      some { callers with stream := callers.stream.read bytes } := by
  intro found
  have handled (messages : List StreamMessage) (rest : Bytes) : ∀ callers : Callers,
      callers.stream.isReading → callers.run? (messages.map .tell ++ [.keep rest]) =
        some { callers with
          stream := (messages.foldl Stream.onMessage callers.stream).keeping 0 rest } := by
    induction messages with
    | nil =>
        intro callers reading
        exact run?_cons.mpr ⟨_, if_pos reading, rfl⟩
    | cons message messages ih =>
        intro callers reading
        have still : (callers.stream.onMessage message).isReading := by
          rw [Stream.isReading_onMessage, reading]
        exact run?_cons.mpr ⟨_, if_pos reading, ih { callers with stream := _ } still⟩
  rw [Stream.read_eq reading]
  exact handled found.1 found.2 callers reading

theorem run?_hangUp (callers : Callers) :
    ∃ steps, callers.run? steps = some { callers with stream := callers.stream.hangUp } := by
  have repeated (times : Nat) : ∃ steps, callers.run? steps =
      some { callers with stream := Nat.repeat Stream.readFails times callers.stream } := by
    induction times with
    | zero => exact ⟨[], rfl⟩
    | succ times ih =>
        obtain ⟨steps, failed⟩ := ih
        exact ⟨steps ++ [.fail], run?_append failed (run?_cons.mpr ⟨_, rfl, rfl⟩)⟩
  exact repeated _

theorem run?_happen (callers : Callers) (input : StreamInput) :
    ∃ steps, callers.run? steps = some { callers with stream := callers.stream.happen input } := by
  cases input with
  | read bytes =>
      by_cases reading : callers.stream.isReading
      · exact ⟨_, callers.run?_read reading bytes⟩
      · refine ⟨[], ?_⟩
        rw [Stream.happen, Stream.read, if_neg reading]
        rfl
  | close => exact ⟨[.close], rfl⟩
  | hangUp => exact callers.run?_hangUp

theorem run?_foldl_happen (inputs : List StreamInput) (callers : Callers) :
    ∃ steps, callers.run? steps =
      some { callers with stream := inputs.foldl Stream.happen callers.stream } := by
  induction inputs generalizing callers with
  | nil => exact ⟨[], rfl⟩
  | cons input rest ih =>
      obtain ⟨first, happened⟩ := callers.run?_happen input
      obtain ⟨later, followed⟩ := ih { callers with stream := callers.stream.happen input }
      exact ⟨first ++ later, run?_append happened followed⟩

theorem run?_await (inputs : List StreamInput)
    (waits : callers.question caller = .waiting transaction) :
    ∃ steps, callers.run? steps =
      some (callers.leave caller (callers.stream.await transaction inputs).2
        (.answered (callers.stream.await transaction inputs).1)) := by
  induction inputs generalizing callers with
  | nil =>
      have looks : callers.step? (.look caller) = some (callers.look caller transaction) := by
        simp only [step?, waits]
      rw [Stream.await]
      rw [look] at looks
      generalize callers.stream.look transaction = outcome at looks ⊢
      obtain ⟨none | answer, stream⟩ := outcome
      · have gives : Callers.step? { callers with stream } (.giveUp caller) =
            some (Callers.leave { callers with stream } caller (stream.giveUp transaction).2
              (.answered (stream.giveUp transaction).1)) := by
          simp only [step?, waits]
        exact ⟨[.look caller, .giveUp caller], run?_cons.mpr ⟨_, looks,
          run?_cons.mpr ⟨_, gives, rfl⟩⟩⟩
      · exact ⟨[.look caller], run?_cons.mpr ⟨_, looks, rfl⟩⟩
  | cons input rest ih =>
      have looks : callers.step? (.look caller) = some (callers.look caller transaction) := by
        simp only [step?, waits]
      rw [Stream.await]
      rw [look] at looks
      generalize callers.stream.look transaction = outcome at looks ⊢
      obtain ⟨none | answer, stream⟩ := outcome
      · obtain ⟨first, happened⟩ := run?_happen { callers with stream } input
        have still : ({ callers with stream := stream.happen input } : Callers).question caller =
            .waiting transaction := waits
        obtain ⟨later, waited⟩ := ih still
        exact ⟨.look caller :: (first ++ later),
          run?_cons.mpr ⟨_, looks, run?_append happened waited⟩⟩
      · obtain ⟨later, followed⟩ :=
          run?_foldl_happen (input :: rest) (callers.leave caller stream (.answered answer))
        exact ⟨.look caller :: later, run?_cons.mpr ⟨_, looks, followed⟩⟩

/-- A single caller that asks, and waits for the answer, takes nothing but these steps, and is
answered what it returns. -/
theorem run?_queryStatus (inputs : UInt8 → List StreamInput)
    (free : (callers.question caller).held? = none) :
    ∃ steps, callers.run? steps =
      some (callers.leave caller (callers.stream.queryStatus inputs).2
        (.answered (callers.stream.queryStatus inputs).1)) := by
  rw [Stream.queryStatus]
  rcases armed : callers.stream.arm with ⟨fault | transaction, stream⟩
  · have turned : callers.step? (.turnAway caller) =
        some (callers.leave caller stream (.answered (.error fault))) := by
      simp only [step?, free, armed]
    exact ⟨[.turnAway caller], run?_cons.mpr ⟨_, turned, rfl⟩⟩
  · have arms : callers.step? (.arm caller) =
        some (callers.leave caller stream (.armed transaction)) := by
      simp only [step?, free, armed]
    have question := question_leave_self callers caller stream (.armed transaction)
    rcases asked : stream.ask transaction with ⟨fault | ⟨⟩, sent⟩
    · have fails : Callers.step? (callers.leave caller stream (.armed transaction))
          (.ask caller) = some (callers.leave caller sent (.answered (.error fault))) := by
        simp only [step?, question, stream_leave, asked, leave_leave]
      simp only [asked]
      exact ⟨[.arm caller, .ask caller], run?_cons.mpr ⟨_, arms, run?_cons.mpr ⟨_, fails, rfl⟩⟩⟩
    · have sends : Callers.step? (callers.leave caller stream (.armed transaction))
          (.ask caller) = some (callers.leave caller sent (.waiting transaction)) := by
        simp only [step?, question, stream_leave, asked, leave_leave]
      obtain ⟨later, waited⟩ := run?_await (inputs transaction)
        (question_leave_self callers caller sent (.waiting transaction))
      rw [leave_leave, stream_leave] at waited
      simp only [asked]
      exact ⟨.arm caller :: .ask caller :: later,
        run?_cons.mpr ⟨_, arms, run?_cons.mpr ⟨_, sends, waited⟩⟩⟩

/-! ## What a step does to the one who waits -/

/-- What becomes in a step of what a stream expects and of what it keeps, seen by the caller who
holds a transaction before and after it. -/
inductive Shifts (caller : Nat) (transaction : UInt8) (before after : Stream) :
    CallerStep → Prop where
  /-- Another transaction is expected, and what was kept is gone. -/
  | displaces {actor : Nat} {other : UInt8} (foreign : other ≠ transaction)
      (awaited : after.awaited = some other) (kept : after.statusReply = none) :
      Shifts caller transaction before after (.arm actor)
  /-- What was kept is gone, and it was not for the caller if the caller has looked. -/
  | takes {looker : Nat} (awaited : after.awaited = before.awaited)
      (kept : after.statusReply = none)
      (foreign : looker = caller →
        ∀ reply, before.statusReply = some reply → reply.transaction ≠ transaction) :
      Shifts caller transaction before after (.look looker)
  /-- The reply that was expected is kept. -/
  | settles {message : StreamMessage} {reply : StatusReply}
      (told : message.statusReply? = some reply)
      (expected : before.awaited = some reply.transaction)
      (awaited : after.awaited = none) (kept : after.statusReply = some reply) :
      Shifts caller transaction before after (.tell message)
  | spares {step : CallerStep} (quiet : step.disturbs caller = false)
      (awaited : after.awaited = before.awaited)
      (kept : after.statusReply = before.statusReply)
      (stale : ∀ message, step = .tell message → ∀ reply, message.statusReply? = some reply →
        before.awaited ≠ some reply.transaction) :
      Shifts caller transaction before after step
  /-- Nothing is expected any more: the stream is no longer read from, or it was another
  transaction. -/
  | drops {step : CallerStep} (quiet : step.disturbs caller = false)
      (silent : ∀ message, step ≠ .tell message)
      (awaited : after.awaited = none) (kept : after.statusReply = before.statusReply)
      (harmless : before.awaited = some transaction → after.isReading = false) :
      Shifts caller transaction before after step

/-- All that the one who waits has to know of a step. -/
structure Handles (caller : Nat) (transaction : UInt8) (before after : Stream)
    (step : CallerStep) : Prop where
  reading : after.isReading → before.isReading
  heard : ∀ message, step = .tell message → before.isReading
  shifts : Shifts caller transaction before after step

/-- What is no message, and leaves alone what is expected and what is kept. -/
theorem Handles.spares {before after : Stream} {step : CallerStep}
    (silent : ∀ message, step ≠ .tell message) (quiet : step.disturbs caller = false)
    (reading : after.isReading → before.isReading) (awaited : after.awaited = before.awaited)
    (kept : after.statusReply = before.statusReply) :
    Handles caller transaction before after step :=
  ⟨reading, fun message told => absurd told (silent message),
    .spares quiet awaited kept fun message told => absurd told (silent message)⟩

/-- A caller holds a transaction that nobody else holds, and so many have been drawn since. -/
structure Holds (caller : Nat) (transaction : UInt8) (drawn : Nat) (callers : Callers) : Prop where
  mine : (callers.question caller).held? = some transaction
  others : ∀ other, other ≠ caller → (callers.question other).held? ≠ some transaction
  ahead : callers.stream.nextTransaction.toNat = (transaction.toNat + drawn) % 255 + 1

namespace Holds

variable {drawn : Nat}

theorem stream (holds : Holds caller transaction drawn callers) {stream : Stream}
    (same : stream.nextTransaction = callers.stream.nextTransaction) :
    Holds caller transaction drawn { callers with stream } :=
  { holds with ahead := same ▸ holds.ahead }

/-- A step of the caller itself, or of another. -/
theorem leave (holds : Holds caller transaction drawn callers) {actor : Nat} {stream : Stream}
    {question : Question}
    (held : question.held? = some transaction ↔ actor = caller) {later : Nat}
    (ahead : stream.nextTransaction.toNat = (transaction.toNat + later) % 255 + 1) :
    Holds caller transaction later (callers.leave actor stream question) where
  mine := by
    by_cases own : actor = caller
    · rw [← own, question_leave_self, held.mpr own]
    · rw [question_leave_of_ne (Ne.symm own), holds.mine]
  others other different := by
    by_cases acts : other = actor
    · rw [acts, question_leave_self, ne_eq, held]
      exact acts ▸ different
    · rw [question_leave_of_ne acts]
      exact holds.others other different
  ahead := ahead

/-- What a caller holds is its own exactly if it is the transaction. -/
theorem held_iff (holds : Holds caller transaction drawn callers) {actor : Nat} {held : UInt8}
    (question : (callers.question actor).held? = some held) :
    held = transaction ↔ actor = caller := by
  constructor
  · rintro rfl
    by_contra different
    exact holds.others actor different question
  · rintro rfl
    exact Option.some.inj (question.symm.trans holds.mine)

theorem nextTransaction_ne (holds : Holds caller transaction drawn callers) (few : drawn < 254) :
    callers.stream.nextTransaction ≠ transaction := by
  intro same
  have ahead := holds.ahead
  have bound := transaction.toNat_lt
  rw [same] at ahead
  omega

end Holds

theorem toNat_succ (transaction : UInt8) :
    (if transaction = 255 then 1 else transaction + 1 : UInt8).toNat =
      transaction.toNat % 255 + 1 := by
  have bound := transaction.toNat_lt
  split
  · next last => rw [last]; rfl
  · next more =>
      have other : transaction.toNat ≠ 255 := fun last => more (UInt8.toNat_inj.mp last)
      rw [UInt8.toNat_add]
      change (transaction.toNat + 1) % 256 = _
      omega

theorem ne_of_answered {actor : Nat} {stream : Stream}
    {answer : Except StreamError (Int32 × Scale)}
    (still : ((callers.leave actor stream (.answered answer)).question caller).held? =
      some transaction) : actor ≠ caller := by
  rintro rfl
  rw [question_leave_self] at still
  exact absurd still nofun

/-- A caller who no longer waits takes back its own request only. -/
theorem Holds.disarm {drawn : Nat} (holds : Holds caller transaction drawn callers)
    {actor : Nat} {held : UInt8} (question : (callers.question actor).held? = some held)
    {answer : Except StreamError (Int32 × Scale)} (different : actor ≠ caller)
    {step : CallerStep} (quiet : step.disturbs caller = false)
    (silent : ∀ message, step ≠ .tell message) :
    Holds caller transaction drawn
        (callers.leave actor (callers.stream.disarm held) (.answered answer)) ∧
      Handles caller transaction callers.stream (callers.stream.disarm held) step := by
  obtain ⟨number, kept, reading, places⟩ := callers.stream.disarm_places held
  refine ⟨holds.leave (iff_of_false (by nofun) different) (number ▸ holds.ahead), ?_⟩
  rcases places with same | ⟨expected, nothing⟩
  · exact .spares silent quiet (fun still => reading ▸ still) same kept
  · refine ⟨fun still => reading ▸ still, fun message told => absurd told (silent message),
      .drops quiet silent nothing kept fun mine => ?_⟩
    exact absurd ((holds.held_iff question).mp (Option.some.inj (expected.symm.trans mine)))
      different

section

variable {drawn actor : Nat} (holds : Holds caller transaction drawn callers)

include holds

theorem Holds.arm (few : drawn < 254) (stepped : callers.step? (.arm actor) = some after) :
    Holds caller transaction (drawn + 1) after ∧
      Handles caller transaction callers.stream after.stream (.arm actor) := by
  cases free : (callers.question actor).held? with
  | some held => simp only [step?, free, reduceCtorEq] at stepped
  | none =>
      cases refused : callers.stream.refusal? .queryStatus with
      | some fault => simp only [step?, free, Stream.arm, refused, reduceCtorEq] at stepped
      | none =>
          simp only [step?, free, Stream.arm_eq refused, Option.some.injEq] at stepped
          subst stepped
          have fresh := holds.nextTransaction_ne few
          have different : actor ≠ caller := by
            rintro rfl
            exact absurd (free.symm.trans holds.mine) nofun
          have foreign : (Question.armed callers.stream.nextTransaction).held? ≠
              some transaction := mt Option.some.inj fresh
          have ahead : (if callers.stream.nextTransaction = 255 then 1
                else callers.stream.nextTransaction + 1 : UInt8).toNat =
              (transaction.toNat + (drawn + 1)) % 255 + 1 := by
            rw [toNat_succ, holds.ahead]
            omega
          exact ⟨holds.leave (iff_of_false foreign different) ahead,
            id, by rintro _ ⟨⟩, .displaces fresh rfl rfl⟩

theorem Holds.turnAway (stepped : callers.step? (.turnAway actor) = some after)
    (still : (after.question caller).held? = some transaction) :
    Holds caller transaction drawn after ∧
      Handles caller transaction callers.stream after.stream (.turnAway actor) := by
  cases free : (callers.question actor).held? with
  | some held => simp only [step?, free, reduceCtorEq] at stepped
  | none =>
      cases refused : callers.stream.refusal? .queryStatus with
      | none => simp only [step?, free, Stream.arm_eq refused, reduceCtorEq] at stepped
      | some fault =>
          simp only [step?, free, Stream.arm, refused, Option.some.injEq] at stepped
          subst stepped
          exact ⟨holds.leave (iff_of_false (by nofun) (ne_of_answered still)) holds.ahead,
            .spares (by rintro _ ⟨⟩) rfl id rfl rfl⟩

theorem Holds.ask (stepped : callers.step? (.ask actor) = some after)
    (still : (after.question caller).held? = some transaction) :
    Holds caller transaction drawn after ∧
      Handles caller transaction callers.stream after.stream (.ask actor) := by
  cases question : callers.question actor with
  | armed held =>
      have mine : (callers.question actor).held? = some held := by rw [question]; rfl
      rcases callers.stream.ask_cases held with ⟨written, asked⟩ | ⟨fault, failed⟩
      · simp only [step?, question, asked, Option.some.injEq] at stepped
        subst stepped
        refine ⟨holds.leave ?_ holds.ahead, .spares (by rintro _ ⟨⟩) rfl id rfl rfl⟩
        exact Option.some_inj.trans (holds.held_iff mine)
      · simp only [step?, question, failed, Option.some.injEq] at stepped
        subst stepped
        exact holds.disarm mine (ne_of_answered still) rfl (by rintro _ ⟨⟩)
  | _ => simp only [step?, question, reduceCtorEq] at stepped

theorem Holds.look (stepped : callers.step? (.look actor) = some after)
    (still : (after.question caller).held? = some transaction) :
    Holds caller transaction drawn after ∧
      Handles caller transaction callers.stream after.stream (.look actor) := by
  cases question : callers.question actor with
  | waiting held =>
      have mine : (callers.question actor).held? = some held := by rw [question]; rfl
      have gone := Stream.look_snd held callers.stream
      have kept (reply : StatusReply) (stored : callers.stream.statusReply = some reply) :
          reply.transaction = held →
            (callers.stream.look held).1 = some (Stream.answerOf reply) :=
        Stream.look_of_kept stored
      simp only [step?, question, Callers.look, Option.some.injEq] at stepped
      generalize callers.stream.look held = outcome at stepped gone kept
      obtain ⟨answer | answer, stream⟩ := outcome
      · subst stepped gone
        refine ⟨holds.stream rfl, id, by rintro _ ⟨⟩, .takes rfl rfl ?_⟩
        rintro rfl reply stored own
        have same := (holds.held_iff mine).mpr rfl
        exact absurd (kept reply stored (own.trans same.symm)) nofun
      · subst stepped gone
        have different := ne_of_answered still
        exact ⟨holds.leave (iff_of_false (by nofun) different) holds.ahead,
          id, by rintro _ ⟨⟩, .takes rfl rfl fun own => absurd own different⟩
  | _ => simp only [step?, question, reduceCtorEq] at stepped

theorem Holds.giveUp (stepped : callers.step? (.giveUp actor) = some after)
    (still : (after.question caller).held? = some transaction) :
    Holds caller transaction drawn after ∧
      Handles caller transaction callers.stream after.stream (.giveUp actor) := by
  cases question : callers.question actor with
  | waiting held =>
      have mine : (callers.question actor).held? = some held := by rw [question]; rfl
      simp only [step?, question, Option.some.injEq] at stepped
      subst stepped
      exact holds.disarm mine (ne_of_answered still) rfl (by rintro _ ⟨⟩)
  | _ => simp only [step?, question, reduceCtorEq] at stepped

theorem Holds.tell {message : StreamMessage}
    (stepped : callers.step? (.tell message) = some after) :
    Holds caller transaction drawn after ∧
      Handles caller transaction callers.stream after.stream (.tell message) := by
  simp only [step?, Option.ite_none_right_eq_some, Option.some.injEq] at stepped
  obtain ⟨reading, rfl⟩ := stepped
  obtain ⟨number, places⟩ := callers.stream.onMessage_places message
  refine ⟨holds.stream number, fun _ => reading, fun _ _ => reading, ?_⟩
  rcases places with ⟨reply, told, expected, awaited, kept⟩ | ⟨awaited, kept, stale⟩
  · exact .settles told expected awaited kept
  · refine .spares rfl awaited kept ?_
    rintro _ ⟨⟩
    exact stale

theorem Holds.fail :
    Holds caller transaction drawn { callers with stream := callers.stream.readFails } ∧
      Handles caller transaction callers.stream callers.stream.readFails .fail := by
  obtain ⟨number, kept, ⟨awaited, same⟩ | ⟨awaited, silent⟩⟩ := callers.stream.readFails_places
  · exact ⟨holds.stream number,
      .spares (by rintro _ ⟨⟩) rfl (fun still => same ▸ still) awaited kept⟩
  · exact ⟨holds.stream number, fun still => absurd (silent ▸ still) Bool.false_ne_true,
      by rintro _ ⟨⟩, .drops rfl (by rintro _ ⟨⟩) awaited kept fun _ => silent⟩

theorem Holds.close :
    Holds caller transaction drawn { callers with stream := callers.stream.close } ∧
      Handles caller transaction callers.stream callers.stream.close .close := by
  rcases callers.stream.close_places with awaited | awaited
  · exact ⟨holds.stream rfl, .spares (by rintro _ ⟨⟩) rfl (by rintro ⟨⟩) awaited rfl⟩
  · exact ⟨holds.stream rfl, by rintro ⟨⟩, by rintro _ ⟨⟩,
      .drops rfl (by rintro _ ⟨⟩) awaited rfl fun _ => rfl⟩

/-- What a step does to the one who waits. -/
theorem Holds.step {step : CallerStep} (few : drawn < 254)
    (stepped : callers.step? step = some after)
    (still : (after.question caller).held? = some transaction) :
    Holds caller transaction (drawn + step.arms.toNat) after ∧
      Handles caller transaction callers.stream after.stream step := by
  cases step with
  | arm actor => exact holds.arm few stepped
  | turnAway actor => exact holds.turnAway stepped still
  | ask actor => exact holds.ask stepped still
  | look actor => exact holds.look stepped still
  | giveUp actor => exact holds.giveUp stepped still
  | tell message => exact holds.tell stepped
  | keep buffer =>
      simp only [step?, Option.ite_none_right_eq_some, Option.some.injEq] at stepped
      obtain ⟨-, rfl⟩ := stepped
      exact ⟨holds.stream rfl, .spares (by rintro _ ⟨⟩) rfl id rfl rfl⟩
  | fail =>
      obtain rfl := Option.some.inj stepped
      exact holds.fail
  | close =>
      obtain rfl := Option.some.inj stepped
      exact holds.close
  | setLink linkUp =>
      obtain rfl := Option.some.inj stepped
      exact ⟨holds.stream rfl, .spares (by rintro _ ⟨⟩) rfl id rfl rfl⟩

end

/-- Only a caller who arms comes to hold a transaction. -/
theorem held_of_step {step : CallerStep} (stepped : callers.step? step = some after)
    (other : step ≠ .arm caller) (still : (after.question caller).held? = some transaction) :
    (callers.question caller).held? = some transaction := by
  -- Whoever takes the step held its transaction already, and the others are left alone.
  have leaves {actor : Nat} {stream : Stream} {question : Question}
      (left : callers.leave actor stream question = after)
      (held : actor = caller → question.held? = some transaction →
        (callers.question actor).held? = some transaction) :
      (callers.question caller).held? = some transaction := by
    subst left
    by_cases own : actor = caller
    · rw [← own] at still ⊢
      rw [question_leave_self] at still
      exact held own still
    · rwa [question_leave_of_ne (Ne.symm own)] at still
  cases step with
  | arm actor =>
      simp only [step?] at stepped
      split at stepped <;> try cases stepped
      exact leaves rfl fun own => absurd (congrArg CallerStep.arm own) other
  | turnAway actor =>
      simp only [step?] at stepped
      split at stepped <;> try cases stepped
      exact leaves rfl nofun
  | ask actor =>
      cases question : callers.question actor with
      | armed held =>
          simp only [step?, question] at stepped
          split at stepped <;> cases stepped
          · exact leaves rfl fun _ same => by rwa [question]
          · exact leaves rfl nofun
      | _ => simp only [step?, question, reduceCtorEq] at stepped
  | look actor =>
      cases question : callers.question actor with
      | waiting held =>
          simp only [step?, question, look, Option.some.injEq] at stepped
          split at stepped
          · exact leaves stepped nofun
          · subst stepped
            exact still
      | _ => simp only [step?, question, reduceCtorEq] at stepped
  | giveUp actor =>
      cases question : callers.question actor with
      | waiting held =>
          simp only [step?, question, Option.some.injEq] at stepped
          exact leaves stepped nofun
      | _ => simp only [step?, question, reduceCtorEq] at stepped
  | tell message | keep buffer =>
      simp only [step?, Option.ite_none_right_eq_some, Option.some.injEq] at stepped
      obtain ⟨-, rfl⟩ := stepped
      exact still
  | fail | close | setLink linkUp =>
      simp only [step?, Option.some.injEq] at stepped
      subst stepped
      exact still

theorem held_of_run {steps : List CallerStep} (ran : callers.run? steps = some after)
    (once : .arm caller ∉ steps) (still : (after.question caller).held? = some transaction) :
    (callers.question caller).held? = some transaction := by
  induction steps generalizing callers with
  | nil =>
      obtain rfl := Option.some.inj ran
      exact still
  | cons step rest ih =>
      obtain ⟨between, stepped, ran⟩ := run?_cons.mp ran
      obtain ⟨other, once⟩ := List.ne_and_not_mem_of_not_mem_cons once
      exact held_of_step stepped other.symm (ih ran once)

/-! ## What becomes of a reply -/

/-- What has become of the reply to a transaction. -/
inductive Fate where
  | expected
  | kept (reply : StatusReply)
  | missed

namespace Fate

/-- What becomes in a step of the reply to the transaction of a caller. -/
def next (caller : Nat) (transaction : UInt8) (fate : Fate) (step : CallerStep) : Fate :=
  match fate, step with
  | expected, .arm _ => missed
  | expected, .tell message =>
      match message.statusReply? with
      | some reply => if reply.transaction = transaction then kept reply else expected
      | none => expected
  | kept reply, step => if step.disturbs caller then missed else kept reply
  | fate, _ => fate

/-- What the stream expects and keeps while this is the fate of the reply. -/
def Shows (transaction : UInt8) (stream : Stream) : Fate → Prop
  | expected => (stream.isReading → stream.awaited = some transaction) ∧
      ∀ reply, stream.statusReply = some reply → reply.transaction ≠ transaction
  | kept reply => stream.awaited = none ∧ stream.statusReply = some reply ∧
      reply.transaction = transaction
  | missed => stream.awaited ≠ some transaction ∧
      ∀ reply, stream.statusReply = some reply → reply.transaction ≠ transaction

variable {steps : List CallerStep} {step : CallerStep}

theorem next_expected
    (stale : ∀ message, step = .tell message → ∀ reply, message.statusReply? = some reply →
      reply.transaction ≠ transaction) :
    next caller transaction expected step = if step.arms then missed else expected := by
  cases step with
  | tell message =>
      cases told : message.statusReply? with
      | none => simp only [next, told]; rfl
      | some reply => simp only [next, told, if_neg (stale message rfl reply told)]; rfl
  | _ => rfl

theorem next_missed (step : CallerStep) : next caller transaction missed step = missed := by
  cases step <;> rfl

theorem foldl_missed (steps : List CallerStep) :
    steps.foldl (next caller transaction) missed = missed := by
  induction steps with
  | nil => rfl
  | cons step rest ih => rw [List.foldl_cons, next_missed, ih]

/-- If one kind of step makes a reply missed and no other step matters, then any step of that
kind does. -/
theorem foldl_next {fate : Fate} {ends : CallerStep → Bool}
    (turns : ∀ step ∈ steps,
      next caller transaction fate step = if ends step then missed else fate) :
    steps.foldl (next caller transaction) fate = if steps.any ends then missed else fate := by
  induction steps with
  | nil => rfl
  | cons step rest ih =>
      obtain ⟨now, later⟩ := List.forall_mem_cons.mp turns
      rw [List.foldl_cons, now, List.any_cons]
      cases ends step with
      | true => exact foldl_missed rest
      | false => exact ih later

theorem shows_next {before after : Stream} {fate : Fate}
    (shows : fate.Shows transaction before)
    (handles : Handles caller transaction before after step) :
    (fate.next caller transaction step).Shows transaction after := by
  obtain ⟨reading, heard, shifts⟩ := handles
  have emptied (kept : after.statusReply = none) :
      ∀ reply, after.statusReply = some reply → reply.transaction ≠ transaction :=
    fun reply stored => absurd (kept.symm.trans stored) nofun
  cases fate with
  | expected =>
      obtain ⟨awaits, foreign⟩ := shows
      -- A step that neither arms nor brings the reply leaves it expected.
      have stays (quiet : step.disturbs caller = false)
          (stale : ∀ message, step = .tell message → ∀ reply,
            message.statusReply? = some reply → reply.transaction ≠ transaction) :
          next caller transaction expected step = expected := by
        rw [next_expected stale]
        cases step <;> first | rfl | cases quiet
      cases shifts with
      | displaces different awaited kept =>
          exact ⟨awaited ▸ mt Option.some.inj different, emptied kept⟩
      | takes awaited kept mine => exact ⟨awaited ▸ awaits ∘ reading, emptied kept⟩
      | settles told expected awaited kept =>
          have own := Option.some.inj (expected.symm.trans (awaits (heard _ rfl)))
          simp only [next, told, if_pos own]
          exact ⟨awaited, kept, own⟩
      | spares quiet awaited kept stale =>
          rw [stays quiet fun message spoken reply told own =>
            stale message spoken reply told (own ▸ awaits (heard message spoken))]
          exact ⟨awaited ▸ awaits ∘ reading, kept ▸ foreign⟩
      | drops quiet silent awaited kept harmless =>
          rw [stays quiet fun message spoken => absurd spoken (silent message)]
          exact ⟨fun still => absurd (harmless (awaits (reading still)) ▸ still) nofun,
            kept ▸ foreign⟩
  | kept reply =>
      obtain ⟨nothing, stored, own⟩ := shows
      have stays (quiet : step.disturbs caller = false) :
          next caller transaction (kept reply) step = kept reply := by
        simp only [next, quiet, Bool.false_eq_true, if_false]
      cases shifts with
      | displaces different awaited kept =>
          exact ⟨awaited ▸ mt Option.some.inj different, emptied kept⟩
      | @takes looker awaited kept mine =>
          have other : looker ≠ caller := fun same => mine same reply stored own
          simp only [next, CallerStep.disturbs, other, ne_eq, not_false_eq_true, decide_true,
            if_true]
          exact ⟨awaited ▸ nothing ▸ nofun, emptied kept⟩
      | settles told expected awaited kept => exact absurd (nothing.symm.trans expected) nofun
      | spares quiet awaited kept stale =>
          rw [stays quiet]
          exact ⟨awaited.trans nothing, kept.trans stored, own⟩
      | drops quiet silent awaited kept harmless =>
          rw [stays quiet]
          exact ⟨awaited, kept.trans stored, own⟩
  | missed =>
      obtain ⟨unexpected, foreign⟩ := shows
      rw [next_missed]
      cases shifts with
      | displaces different awaited kept =>
          exact ⟨awaited ▸ mt Option.some.inj different, emptied kept⟩
      | takes awaited kept mine => exact ⟨awaited ▸ unexpected, emptied kept⟩
      | @settles message reply told expected awaited kept =>
          refine ⟨awaited ▸ nofun, fun other stored own => ?_⟩
          obtain rfl := Option.some.inj (kept.symm.trans stored)
          exact unexpected (own ▸ expected)
      | spares quiet awaited kept stale => exact ⟨awaited ▸ unexpected, kept ▸ foreign⟩
      | drops quiet silent awaited kept harmless => exact ⟨awaited ▸ nofun, kept ▸ foreign⟩

theorem shows_run {fate : Fate} {drawn : Nat} (holds : Holds caller transaction drawn callers)
    (shows : fate.Shows transaction callers.stream)
    (few : drawn + steps.countP CallerStep.arms < 254) (once : .arm caller ∉ steps)
    (ran : callers.run? steps = some after)
    (still : (after.question caller).held? = some transaction) :
    Holds caller transaction (drawn + steps.countP CallerStep.arms) after ∧
      (steps.foldl (next caller transaction) fate).Shows transaction after.stream := by
  induction steps generalizing callers fate drawn with
  | nil =>
      obtain rfl := Option.some.inj ran
      exact ⟨holds, shows⟩
  | cons step rest ih =>
      obtain ⟨between, stepped, ran⟩ := run?_cons.mp ran
      have later := List.ne_and_not_mem_of_not_mem_cons once |>.2
      have counted : drawn + (step :: rest).countP CallerStep.arms =
          drawn + step.arms.toNat + rest.countP CallerStep.arms := by
        rw [List.countP_cons]
        cases step.arms with
        | true =>
            simp only [if_true, Bool.toNat_true]
            omega
        | false => rfl
      rw [counted] at few ⊢
      obtain ⟨held, handles⟩ := holds.step (by omega) stepped (held_of_run ran later still)
      exact ih held (shows_next shows handles) few later ran

end Fate

/-- Whoever arms holds a transaction of its own and expects its reply. -/
theorem holds_of_arm
    (others : ∀ other, other ≠ caller →
      (callers.question other).held? ≠ some callers.stream.nextTransaction)
    (arms : callers.step? (.arm caller) = some after) :
    Holds caller callers.stream.nextTransaction 0 after ∧
      Fate.expected.Shows callers.stream.nextTransaction after.stream := by
  cases free : (callers.question caller).held? with
  | some held => simp only [step?, free, reduceCtorEq] at arms
  | none =>
      cases refused : callers.stream.refusal? .queryStatus with
      | some fault => simp only [step?, free, Stream.arm, refused, reduceCtorEq] at arms
      | none =>
          simp only [step?, free, Stream.arm_eq refused, Option.some.injEq] at arms
          subst arms
          refine ⟨⟨?_, fun other different => ?_, toNat_succ _⟩, fun _ => rfl, nofun⟩
          · rw [question_leave_self]
            rfl
          · rw [question_leave_of_ne different]
            exact others other different

/-- **Who gets a reply.**  A caller arms, fewer than 255 transactions are held or drawn while it
waits, and the first status reply in its transaction is handled.  The reply is kept exactly if
nobody else has armed in between, and the caller finds it exactly if until then nobody else arms
or looks either.  It never finds another reply: it is told the end of the stream, or waits on. -/
theorem look_eq_reply_iff (callers : Callers) (caller : Nat) (before later : List CallerStep)
    (message : StreamMessage) (reply : StatusReply) {armed heard after : Callers}
    (others : ∀ other, other ≠ caller →
      (callers.question other).held? ≠ some callers.stream.nextTransaction)
    (arms : callers.step? (.arm caller) = some armed)
    (once : .arm caller ∉ before ++ later)
    (few : 1 + (before ++ later).countP CallerStep.arms < 255)
    (waited : armed.run? before = some heard)
    (told : message.statusReply? = some reply)
    (own : reply.transaction = callers.stream.nextTransaction)
    (first : ∀ earlier, .tell earlier ∈ before → ∀ other, earlier.statusReply? = some other →
      other.transaction ≠ reply.transaction)
    (ran : heard.run? (.tell message :: later) = some after)
    (waits : after.question caller = .waiting reply.transaction) :
    ((heard.stream.onMessage message).statusReply = some reply ↔
      ∀ step ∈ before, ¬ step.arms) ∧
    ((after.stream.look reply.transaction).1 = some (Stream.answerOf reply) ↔
      (∀ step ∈ before, ¬ step.arms) ∧ ∀ step ∈ later, ¬ step.disturbs caller) ∧
    ((after.stream.look reply.transaction).1 = some (Stream.answerOf reply) ∨
      (after.stream.look reply.transaction).1 = after.stream.end?) := by
  obtain ⟨once_before, once_later⟩ := not_or.mp (mt List.mem_append.mpr once)
  have once_told : .arm caller ∉ .tell message :: later :=
    List.not_mem_cons_of_ne_of_not_mem nofun once_later
  have still : (after.question caller).held? = some reply.transaction := by rw [waits]; rfl
  have still_heard := held_of_run ran once_told still
  rw [List.countP_append] at few
  obtain ⟨holds, shows⟩ := holds_of_arm others arms
  rw [← own] at holds shows
  obtain ⟨holds, shows⟩ := Fate.shows_run holds shows (by omega) once_before waited still_heard
  rw [Fate.foldl_next fun step mine => Fate.next_expected fun earlier spoken =>
    first earlier (spoken ▸ mine)] at shows
  obtain ⟨stored, stepped, ran⟩ := run?_cons.mp ran
  have stream_stored : stored.stream = heard.stream.onMessage message := by
    simp only [step?, Option.ite_none_right_eq_some, Option.some.injEq] at stepped
    rw [← stepped.2]
  obtain ⟨holds, handles⟩ := holds.tell stepped
  have shows_stored := Fate.shows_next shows handles
  obtain ⟨-, shows⟩ := Fate.shows_run holds shows_stored (by omega) once_later ran still
  rw [stream_stored] at shows_stored
  cases armed_before : before.any CallerStep.arms with
  | true =>
      rw [armed_before, if_pos rfl, Fate.next_missed] at shows_stored shows
      rw [Fate.foldl_missed] at shows
      obtain ⟨actor, mine, arms⟩ := List.any_eq_true.mp armed_before
      have busy : ¬ ∀ step ∈ before, ¬ step.arms := fun quiet => quiet actor mine arms
      have found := Stream.look_of_foreign shows.2
      refine ⟨iff_of_false (fun kept => shows_stored.2 reply kept rfl) busy, ?_, .inr found⟩
      refine iff_of_false ?_ fun quiet => busy quiet.1
      rw [found]
      exact after.stream.end?_ne_answerOf reply
  | false =>
      have quiet : ∀ step ∈ before, ¬ step.arms := List.any_eq_false.mp armed_before
      rw [armed_before, if_neg Bool.false_ne_true] at shows_stored shows
      simp only [Fate.next, told, if_true] at shows_stored shows
      rw [Fate.foldl_next fun step _ => rfl] at shows
      refine ⟨iff_of_true shows_stored.2.1 quiet, ?_⟩
      cases disturbed : later.any (CallerStep.disturbs caller) with
      | true =>
          rw [disturbed, if_pos rfl] at shows
          obtain ⟨actor, mine, disturbs⟩ := List.any_eq_true.mp disturbed
          have found := Stream.look_of_foreign shows.2
          refine ⟨iff_of_false ?_ fun left => left.2 actor mine disturbs, .inr found⟩
          rw [found]
          exact after.stream.end?_ne_answerOf reply
      | false =>
          rw [disturbed, if_neg Bool.false_ne_true] at shows
          have found := Stream.look_of_kept shows.2.1 shows.2.2
          exact ⟨iff_of_true found ⟨quiet, List.any_eq_false.mp disturbed⟩, .inl found⟩

/-- A connected stream about which nobody asks. -/
def sampleCallers : Callers := { stream := ((Stream.initial 7 {}).connect true).2 }

/-- Where the server says it stands. -/
def sampleReply (transaction : UInt8) : StatusReply := ⟨transaction, .ok, 1000, .normal⟩

/-- The message of that reply. -/
def sampleTold (transaction : UInt8) : StreamMessage :=
  ⟨⟨transaction, .reply .status, .ok, 7⟩, .reply 1000 .normal⟩

/-- A caller waits for a reply in the first transaction. -/
def rivalCallers : Callers :=
  sampleCallers.leave 1 (sampleCallers.stream.arm.2.ask 1).2 (.waiting 1)

/-- Of two callers, the one that came last finds its reply although the other one looks before the
reply comes and gives up after it.  It waits on if the other one looks after the reply. -/
theorem look_eq_reply_iff_rivalCallers :
    sampleCallers.run? [.arm 1, .ask 1] = some rivalCallers ∧
    (∃ after : Callers,
      rivalCallers.run? [.arm 0, .ask 0, .look 1, .look 0, .tell (sampleTold 2), .giveUp 1] =
        some after ∧ (after.stream.look 2).1 = some (.ok (1000, .normal))) ∧
    ∃ after : Callers,
      rivalCallers.run? [.arm 0, .ask 0, .tell (sampleTold 2), .look 1] = some after ∧
        (after.stream.look 2).1 = none := by
  have others : ∀ other, other ≠ 0 → (rivalCallers.question other).held? ≠ some 2 := by
    intro other _
    by_cases rival : other = 1
    · rw [rival, rivalCallers, question_leave_self]
      nofun
    · rw [rivalCallers, question_leave_of_ne rival]
      nofun
  refine ⟨congrArg some (leave_leave ..), ?_, ?_⟩
  · obtain ⟨-, found, -⟩ := look_eq_reply_iff rivalCallers 0 [.ask 0, .look 1, .look 0]
      [.giveUp 1] (sampleTold 2) (sampleReply 2) others rfl (by decide) (by decide) rfl rfl rfl
      (by simp) rfl rfl
    exact ⟨_, rfl, found.mpr (by decide)⟩
  · obtain ⟨-, found, waits⟩ := look_eq_reply_iff rivalCallers 0 [.ask 0] [.look 1]
      (sampleTold 2) (sampleReply 2) others rfl (by decide) (by decide) rfl rfl rfl (by simp)
      rfl rfl
    exact ⟨_, rfl, waits.resolve_left (mt found.mp (by decide))⟩

/-- The caller that arms last displaces the one that waits, although the reply to that one comes
while it waits. -/
theorem not_look_eq_reply :
    ¬ ∀ (callers armed heard after : Callers) (caller : Nat) (before later : List CallerStep)
        (message : StreamMessage) (reply : StatusReply),
      (∀ other, other ≠ caller →
        (callers.question other).held? ≠ some callers.stream.nextTransaction) →
      callers.step? (.arm caller) = some armed →
      .arm caller ∉ before ++ later →
      1 + (before ++ later).countP CallerStep.arms < 255 →
      armed.run? before = some heard →
      message.statusReply? = some reply →
      reply.transaction = callers.stream.nextTransaction →
      (∀ earlier, .tell earlier ∈ before → ∀ other, earlier.statusReply? = some other →
        other.transaction ≠ reply.transaction) →
      heard.run? (.tell message :: later) = some after →
      after.question caller = .waiting reply.transaction →
      (after.stream.look reply.transaction).1 = some (Stream.answerOf reply) := by
  intro finds
  have found := finds sampleCallers _ _ _ 0 [.ask 0, .arm 1, .ask 1] [] (sampleTold 1)
    (sampleReply 1) (fun _ _ => nofun) rfl (by decide) (by decide) rfl rfl rfl (by simp) rfl rfl
  exact absurd found nofun

end Callers

end OnDemand
