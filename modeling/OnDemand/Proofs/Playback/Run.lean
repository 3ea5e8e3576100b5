import OnDemand.Playback.Query

/-!
# Runs of a stream

The owner of a stream uses it while its reader goes on reading.  Each operation and each pass
of the reader is one action.  A question that only the server can answer takes several: the
status request goes out in one, each look of the waiting caller is one more, and so is its
giving up.
-/

namespace OnDemand

/-- What a pass of the reader comes to. -/
inductive ReadOutcome where
  | data (bytes : Bytes)
  | timedOut
  | failed
  deriving Repr, DecidableEq

/-- What can happen to a stream. -/
inductive StreamAction where
  | connect (reachable : Bool)
  | play (reachable fromCurrent : Bool)
  | pause
  | resume
  | setSpeed (reachable : Bool) (scale : Scale)
  | setPosition (reachable : Bool) (milliseconds : Int32)
  | jump (reachable : Bool) (start stop : Int32) (scale : Scale)
  | reset
  | close
  /-- A caller asks for the position, and waits if the server has to be asked. -/
  | askPosition
  /-- A caller asks for the speed, and waits if the server has to be asked. -/
  | askSpeed
  | look (transaction : UInt8)
  | giveUp (transaction : UInt8)
  | setAssetEnd (milliseconds : Option UInt32)
  | passTime (duration : Time)
  /-- From now on the connection takes what is written, or does not. -/
  | setLink (up : Bool)
  | hear (outcome : ReadOutcome)
  deriving Repr, DecidableEq

/-- What the reader hears in an action, if anything. -/
def StreamAction.outcome? : StreamAction → Option ReadOutcome
  | hear outcome => some outcome
  | _ => none

namespace Stream

/-- Send a status request and wait from then on. -/
def inquire (stream : Stream) : Except StreamError UInt8 × Stream :=
  match stream.arm with
  | (.error fault, stream) => (.error fault, stream)
  | (.ok transaction, stream) =>
      match stream.ask transaction with
      | (.error fault, stream) => (.error fault, stream)
      | (.ok (), stream) => (.ok transaction, stream)

/-- A question about the position, up to where its caller begins to wait. -/
def askPosition (stream : Stream) : Stream :=
  match stream.refusal? .queryPosition with
  | some _ => stream
  | none =>
      match stream.position.estimate stream.now with
      | (.ok (.resync _), position) => { stream with position }.inquire.2
      | (_, position) => { stream with position }

/-- A question about the speed, up to where its caller begins to wait. -/
def askSpeed (stream : Stream) : Stream :=
  match stream.refusal? .querySpeed with
  | some _ => stream
  | none =>
      match stream.position.speed with
      | .ok _ => stream
      | .error _ => stream.inquire.2

/-- What a pass of the reader does to a stream. -/
def hear (outcome : ReadOutcome) (stream : Stream) : Stream :=
  match outcome with
  | .data bytes => stream.read bytes
  | .timedOut => stream
  | .failed => stream.readFails

/-- What an action does to a stream. -/
def perform (stream : Stream) (action : StreamAction) : Stream :=
  match action with
  | .connect reachable => (stream.connect reachable).2
  | .play reachable fromCurrent => (stream.play reachable fromCurrent).2
  | .pause => stream.pause.2
  | .resume => stream.resume.2
  | .setSpeed reachable scale => (stream.setSpeed reachable scale).2
  | .setPosition reachable milliseconds => (stream.setPosition reachable milliseconds).2
  | .jump reachable start stop scale => (stream.jump reachable start stop scale).2
  | .reset => stream.reset.2
  | .close => stream.close
  | .askPosition => stream.askPosition
  | .askSpeed => stream.askSpeed
  | .look transaction => (stream.look transaction).2
  | .giveUp transaction => (stream.giveUp transaction).2
  | .setAssetEnd milliseconds => stream.setAssetEnd milliseconds
  | .passTime duration => stream.passTime duration
  | .setLink linkUp => { stream with linkUp }
  | .hear outcome => stream.hear outcome

/-- What actions do to a stream, one after another. -/
def run (stream : Stream) (actions : List StreamAction) : Stream := actions.foldl perform stream

theorem run_append (stream : Stream) (earlier later : List StreamAction) :
    stream.run (earlier ++ later) = (stream.run earlier).run later :=
  List.foldl_append

/-! ## A question is a run -/

variable {stream : Stream}

theorem hangUp_isRun (stream : Stream) : ∃ actions, stream.hangUp = stream.run actions := by
  have repeated : ∀ times, Nat.repeat readFails times stream =
      stream.run (List.replicate times (.hear .failed)) := by
    intro times
    induction times with
    | zero => rfl
    | succ times ih =>
        rw [List.replicate_succ', run_append, ← ih]
        rfl
  exact ⟨_, repeated _⟩

theorem happen_isRun (stream : Stream) (input : StreamInput) :
    ∃ actions, stream.happen input = stream.run actions := by
  cases input with
  | read bytes => exact ⟨[.hear (.data bytes)], rfl⟩
  | close => exact ⟨[.close], rfl⟩
  | hangUp => exact stream.hangUp_isRun

theorem foldl_happen_isRun (inputs : List StreamInput) (stream : Stream) :
    ∃ actions, inputs.foldl happen stream = stream.run actions := by
  induction inputs generalizing stream with
  | nil => exact ⟨[], rfl⟩
  | cons input rest ih =>
      obtain ⟨first, happened⟩ := stream.happen_isRun input
      obtain ⟨later, followed⟩ := ih (stream.happen input)
      refine ⟨first ++ later, ?_⟩
      rw [run_append, ← happened, ← followed]
      rfl

theorem await_isRun (transaction : UInt8) (inputs : List StreamInput) (stream : Stream) :
    ∃ actions, (stream.await transaction inputs).2 = stream.run actions := by
  induction inputs generalizing stream with
  | nil =>
      rw [await]
      split
      · next looked outcome =>
          obtain rfl : _ = looked := congrArg Prod.snd outcome
          exact ⟨[.look transaction], rfl⟩
      · next looked outcome =>
          obtain rfl : _ = looked := congrArg Prod.snd outcome
          exact ⟨[.look transaction, .giveUp transaction], rfl⟩
  | cons input rest ih =>
      rw [await]
      split
      · next looked outcome =>
          obtain rfl : _ = looked := congrArg Prod.snd outcome
          obtain ⟨actions, happened⟩ :=
            foldl_happen_isRun (input :: rest) (stream.look transaction).2
          exact ⟨.look transaction :: actions, happened⟩
      · next looked outcome =>
          obtain rfl : _ = looked := congrArg Prod.snd outcome
          obtain ⟨first, happened⟩ := (stream.look transaction).2.happen_isRun input
          obtain ⟨later, waited⟩ := ih ((stream.look transaction).2.happen input)
          refine ⟨.look transaction :: first ++ later, ?_⟩
          rw [run_append, waited, happened]
          rfl

/-- What a question leaves behind is what its status request leaves behind, and then what its
caller does while it waits. -/
theorem queryStatus_isRun (inputs : UInt8 → List StreamInput) (stream : Stream) :
    ∃ actions, (stream.queryStatus inputs).2 = stream.inquire.2.run actions := by
  rcases armed : stream.arm with ⟨fault | transaction, next⟩
  · refine ⟨[], ?_⟩
    simp only [queryStatus, inquire, armed]
    rfl
  · rcases asked : next.ask transaction with ⟨fault | ⟨⟩, waiting⟩
    · refine ⟨[], ?_⟩
      simp only [queryStatus, inquire, armed, asked]
      rfl
    · simp only [queryStatus, inquire, armed, asked]
      exact await_isRun transaction (inputs transaction) waiting

/-- A caller that asks for the position and waits for the answer does nothing but actions of a
run. -/
theorem getPosition_isRun (inputs : UInt8 → List StreamInput) (stream : Stream) :
    ∃ actions, (stream.getPosition inputs).2 = stream.run (.askPosition :: actions) := by
  simp only [getPosition, run, List.foldl_cons, perform, askPosition]
  cases refused : stream.refusal? .queryPosition with
  | some fault => exact ⟨[], rfl⟩
  | none =>
      rcases estimated : stream.position.estimate stream.now with ⟨fault | known | reason, position⟩
      · exact ⟨[], rfl⟩
      · exact ⟨[], rfl⟩
      · obtain ⟨actions, waited⟩ := queryStatus_isRun inputs { stream with position }
        refine ⟨actions, ?_⟩
        rw [run] at waited
        simp only [← waited]
        rcases Stream.queryStatus inputs _ with ⟨fault | _, next⟩ <;> rfl

theorem getSpeed_isRun (inputs : UInt8 → List StreamInput) (stream : Stream) :
    ∃ actions, (stream.getSpeed inputs).2 = stream.run (.askSpeed :: actions) := by
  simp only [getSpeed, run, List.foldl_cons, perform, askSpeed]
  cases refused : stream.refusal? .querySpeed with
  | some fault => exact ⟨[], rfl⟩
  | none =>
      cases stream.position.speed with
      | ok scale => exact ⟨[], rfl⟩
      | error unknown =>
          obtain ⟨actions, waited⟩ := queryStatus_isRun inputs stream
          refine ⟨actions, ?_⟩
          rw [run] at waited
          simp only [← waited]
          rcases Stream.queryStatus inputs _ with ⟨fault | _, next⟩ <;> rfl

end Stream

end OnDemand
