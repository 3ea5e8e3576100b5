import Mathlib.Data.List.Infix
import OnDemand.Proofs.Playback.Reassembly
import OnDemand.Proofs.Playback.Run

/-!
# A stream is lost once, and for good

Only the reader can lose a stream, and only by failing often enough in a row.  Everything else
that can happen to a stream, closing it apart, leaves it as it stands or makes its connection,
and so one lemma about the reader is all that a run needs.
-/

namespace OnDemand

namespace ReadOutcome

/-- The failures in a row once this is heard as well. -/
def count (failures : Nat) : ReadOutcome → Nat
  | data _ => 0
  | timedOut => failures
  | failed => failures + 1

/-- The failures since something was last read. -/
def streak (outcomes : List ReadOutcome) : Nat := outcomes.foldl count 0

theorem streak_concat (outcomes : List ReadOutcome) (outcome : ReadOutcome) :
    streak (outcomes ++ [outcome]) = outcome.count (streak outcomes) :=
  List.foldl_concat ..

end ReadOutcome

/-- What the reader hears in actions, earliest first. -/
def StreamAction.outcomes (actions : List StreamAction) : List ReadOutcome :=
  actions.filterMap outcome?

theorem StreamAction.eq_hear {action : StreamAction} {outcome : ReadOutcome}
    (spoken : action.outcome? = some outcome) : action = .hear outcome := by
  cases action with
  | hear heard => exact congrArg hear (Option.some.inj spoken)
  | _ => cases spoken

namespace Stream

open ReadOutcome (streak)
open StreamAction (outcomes)

/-- The failures in a row that lose a stream. -/
def failureLimit (stream : Stream) : Nat := max 1 stream.settings.maxReadFailures.toNat

/-! ## What the owner and the callers can do -/

/-- The stream stands as before, and has written nothing unless it is open. -/
structure Stays (before after : Stream) : Prop where
  settings : after.settings = before.settings
  state : after.state = before.state
  isReading : after.isReading = before.isReading
  readFailures : after.readFailures = before.readFailures
  events : after.events = before.events
  written : ¬ before.state.isOpen → after.written = before.written

/-- The connection has been made. -/
structure Joins (before after : Stream) : Prop where
  settings : after.settings = before.settings
  unconnected : before.state = .unconnected
  connected : after.state = .connected
  isReading : after.isReading = true
  readFailures : after.readFailures = before.readFailures
  events : after.events = before.events

/-- All that comes of an action which neither closes the stream nor is the reader's. -/
def Proceeds (before after : Stream) : Prop := Stays before after ∨ Joins before after

variable {stream before between after : Stream}

namespace Stays

@[refl] theorem refl (stream : Stream) : Stays stream stream :=
  ⟨rfl, rfl, rfl, rfl, rfl, fun _ => rfl⟩

theorem trans (first : Stays before between) (second : Stays between after) :
    Stays before after where
  settings := second.settings.trans first.settings
  state := second.state.trans first.state
  isReading := second.isReading.trans first.isReading
  readFailures := second.readFailures.trans first.readFailures
  events := second.events.trans first.events
  written shut :=
    (second.written fun isOpen => shut (first.state ▸ isOpen)).trans (first.written shut)

end Stays

namespace Proceeds

theorem refl (stream : Stream) : Proceeds stream stream := .inl (.refl stream)

theorem trans_stays (first : Proceeds before between) (second : Stays between after) :
    Proceeds before after := by
  rcases first with stays | joins
  · exact .inl (stays.trans second)
  · refine .inr { joins with
      settings := second.settings.trans joins.settings
      connected := second.state.trans joins.connected
      isReading := second.isReading.trans joins.isReading
      readFailures := second.readFailures.trans joins.readFailures
      events := second.events.trans joins.events }

theorem of_stays (first : Stays before between) (second : Proceeds between after) :
    Proceeds before after := by
  rcases second with stays | joins
  · exact .inl (first.trans stays)
  · refine .inr { joins with
      settings := joins.settings.trans first.settings
      unconnected := first.state.symm.trans joins.unconnected
      readFailures := joins.readFailures.trans first.readFailures
      events := joins.events.trans first.events }

end Proceeds

theorem connect_proceeds (reachable : Bool) (stream : Stream) :
    Proceeds stream (stream.connect reachable).2 := by
  rw [connect]
  split_ifs with connected used isReachable
  · exact .refl stream
  · exact .refl stream
  · exact .inr ⟨rfl, of_not_not used, rfl, rfl, rfl, rfl⟩
  · exact .refl stream

theorem isOpen_of_refusal? {operation : StreamOperation}
    (accepted : stream.refusal? operation = none) : stream.state.isOpen := by
  by_contra shut
  rw [refusal?, if_neg shut] at accepted
  split at accepted <;> exact absurd accepted nofun

theorem refusal?_isSome (shut : ¬ stream.state.isOpen) (operation : StreamOperation) :
    ∃ fault, stream.refusal? operation = some fault := by
  rw [refusal?, if_neg shut]
  split <;> exact ⟨_, rfl⟩

theorem drawTransaction_stays (stream : Stream) : Stays stream stream.drawTransaction.2 :=
  ⟨rfl, rfl, rfl, rfl, rfl, fun _ => rfl⟩

theorem write_stays (isOpen : stream.state.isOpen) (message : StreamMessage) :
    Stays stream (stream.write message).2 := by
  rw [write]
  split
  · exact .refl stream
  · split_ifs
    · exact ⟨rfl, rfl, rfl, rfl, rfl, fun shut => absurd isOpen shut⟩
    · exact .refl stream
    · exact .refl stream

theorem send_stays (isOpen : stream.state.isOpen) (build : UInt8 → StreamMessage) :
    Stays stream (stream.send build).2 :=
  have drawn := stream.drawTransaction_stays
  drawn.trans (write_stays (drawn.state ▸ isOpen) _)

theorem request_stays (operation : StreamOperation) (build : UInt8 → StreamMessage)
    (stream : Stream) : Stays stream (stream.request operation build).2 := by
  rw [request]
  split
  · exact .refl stream
  · next accepted => exact send_stays (isOpen_of_refusal? accepted) build

theorem startPosition_stays (stream : Stream) : Stays stream stream.startPosition.2 := by
  rw [startPosition]
  split
  · exact ⟨rfl, rfl, rfl, rfl, rfl, fun _ => rfl⟩
  · split <;> exact ⟨rfl, rfl, rfl, rfl, rfl, fun _ => rfl⟩

theorem play_proceeds (reachable fromCurrent : Bool) (stream : Stream) :
    Proceeds stream (stream.play reachable fromCurrent).2 := by
  have connects := stream.connect_proceeds reachable
  rw [play]
  generalize stream.connect reachable = outcome at connects ⊢
  rcases outcome with ⟨fault | ⟨⟩, joined⟩
  · exact connects
  · cases accepted : joined.refusal? .play with
    | some fault => simpa only [accepted] using connects
    | none =>
        have located : Stays joined (if fromCurrent then (.ok currentPosition, joined)
            else joined.startPosition : Except StreamError Int32 × Stream).2 := by
          split
          · exact .refl joined
          · exact joined.startPosition_stays
        simp only [accepted]
        generalize (if fromCurrent then (.ok currentPosition, joined)
          else joined.startPosition : Except StreamError Int32 × Stream) = start at located ⊢
        rcases start with ⟨fault | start, placed⟩
        · exact connects.trans_stays located
        · have isOpen : placed.state.isOpen := located.state ▸ isOpen_of_refusal? accepted
          exact (connects.trans_stays located).trans_stays (send_stays isOpen _)

theorem setSpeed_proceeds (reachable : Bool) (scale : Scale) (stream : Stream) :
    Proceeds stream (stream.setSpeed reachable scale).2 := by
  rw [setSpeed]
  split
  · exact .refl stream
  · have chosen : Stays stream { stream with requestedScale := scale } :=
      ⟨rfl, rfl, rfl, rfl, rfl, fun _ => rfl⟩
    exact .of_stays chosen (play_proceeds reachable true _)

theorem setPosition_proceeds (reachable : Bool) (milliseconds : Int32) (stream : Stream) :
    Proceeds stream (stream.setPosition reachable milliseconds).2 := by
  have aimed : Stays stream { stream with
      target := some milliseconds, position := stream.position.setPaused false } :=
    ⟨rfl, rfl, rfl, rfl, rfl, fun _ => rfl⟩
  exact .of_stays aimed (play_proceeds reachable false _)

theorem jump_proceeds (reachable : Bool) (start stop : Int32) (scale : Scale) (stream : Stream) :
    Proceeds stream (stream.jump reachable start stop scale).2 := by
  rw [jump]
  split
  · exact .refl stream
  · have connects := stream.connect_proceeds reachable
    generalize stream.connect reachable = outcome at connects ⊢
    rcases outcome with ⟨fault | ⟨⟩, joined⟩
    · exact connects
    · cases accepted : joined.refusal? .jump with
      | some fault => simpa only [accepted] using connects
      | none =>
          have chosen : Stays joined { joined with requestedScale := scale } :=
            ⟨rfl, rfl, rfl, rfl, rfl, fun _ => rfl⟩
          have isOpen : { joined with requestedScale := scale }.state.isOpen :=
            isOpen_of_refusal? accepted
          have sends := send_stays isOpen
            fun transaction => .jump transaction joined.handle start stop scale
          simp only [accepted]
          exact (connects.trans_stays chosen).trans_stays sends

theorem disarm_stays (transaction : UInt8) (stream : Stream) :
    Stays stream (stream.disarm transaction) := by
  rw [disarm]
  split
  · exact ⟨rfl, rfl, rfl, rfl, rfl, fun _ => rfl⟩
  · exact .refl stream

theorem ask_stays (isOpen : stream.state.isOpen) (transaction : UInt8) :
    Stays stream (stream.ask transaction).2 := by
  have writes := write_stays isOpen (.status transaction stream.handle)
  rw [ask]
  generalize stream.write _ = outcome at writes ⊢
  rcases outcome with ⟨fault | ⟨⟩, written⟩
  · exact writes.trans (disarm_stays transaction written)
  · exact writes

theorem inquire_stays (stream : Stream) : Stays stream stream.inquire.2 := by
  rw [inquire, arm]
  cases accepted : stream.refusal? .queryStatus with
  | some fault => exact .refl stream
  | none =>
      let armed : Stream :=
        { stream.drawTransaction.2 with
          awaited := some stream.nextTransaction, statusReply := none }
      have arms : Stays stream armed := ⟨rfl, rfl, rfl, rfl, rfl, fun _ => rfl⟩
      have isOpen : armed.state.isOpen := arms.state ▸ isOpen_of_refusal? accepted
      have asks := ask_stays isOpen stream.nextTransaction
      simp only [drawTransaction]
      generalize sent : armed.ask stream.nextTransaction = outcome at asks
      simp only [armed, drawTransaction] at sent
      rw [sent]
      rcases outcome with ⟨fault | ⟨⟩, asked⟩ <;> exact arms.trans asks

theorem askPosition_stays (stream : Stream) : Stays stream stream.askPosition := by
  rw [askPosition]
  split
  · exact .refl stream
  · split
    · next position _ =>
        have estimated : Stays stream { stream with position } :=
          ⟨rfl, rfl, rfl, rfl, rfl, fun _ => rfl⟩
        exact estimated.trans (inquire_stays _)
    · exact ⟨rfl, rfl, rfl, rfl, rfl, fun _ => rfl⟩

theorem askSpeed_stays (stream : Stream) : Stays stream stream.askSpeed := by
  rw [askSpeed]
  split
  · exact .refl stream
  · split
    · exact .refl stream
    · exact stream.inquire_stays

theorem look_stays (transaction : UInt8) (stream : Stream) :
    Stays stream (stream.look transaction).2 := by
  rw [look]
  split
  · exact ⟨rfl, rfl, rfl, rfl, rfl, fun _ => rfl⟩
  · split <;> exact ⟨rfl, rfl, rfl, rfl, rfl, fun _ => rfl⟩

/-- The owner, but for closing, and the callers can only make the connection. -/
theorem perform_proceeds {action : StreamAction} (going : action ≠ .close)
    (silent : action.outcome? = none) : Proceeds stream (stream.perform action) := by
  cases action with
  | connect reachable => exact stream.connect_proceeds reachable
  | play reachable fromCurrent => exact stream.play_proceeds reachable fromCurrent
  | pause => exact .inl (request_stays ..)
  | resume => exact .inl (request_stays ..)
  | setSpeed reachable scale => exact stream.setSpeed_proceeds reachable scale
  | setPosition reachable milliseconds => exact stream.setPosition_proceeds reachable milliseconds
  | jump reachable start stop scale => exact stream.jump_proceeds reachable start stop scale
  | reset => exact .inl (request_stays ..)
  | close => exact absurd rfl going
  | askPosition => exact .inl stream.askPosition_stays
  | askSpeed => exact .inl stream.askSpeed_stays
  | look transaction => exact .inl (stream.look_stays transaction)
  | giveUp transaction => exact .inl (stream.disarm_stays transaction)
  | setAssetEnd milliseconds => exact .inl ⟨rfl, rfl, rfl, rfl, rfl, fun _ => rfl⟩
  | passTime duration => exact .inl ⟨rfl, rfl, rfl, rfl, rfl, fun _ => rfl⟩
  | setLink linkUp => exact .inl ⟨rfl, rfl, rfl, rfl, rfl, fun _ => rfl⟩
  | hear outcome => exact absurd silent nofun

/-! ## What the reader can do -/

/-- What the server tells leaves an open stream open, and loses nothing. -/
structure Hears (before after : Stream) : Prop where
  settings : after.settings = before.settings
  isOpen : after.state.isOpen
  isReading : after.isReading = before.isReading
  losses : after.events.count .lost = before.events.count .lost

theorem Hears.refl (isOpen : stream.state.isOpen) : Hears stream stream := ⟨rfl, isOpen, rfl, rfl⟩

theorem Hears.trans (first : Hears before between) (second : Hears between after) :
    Hears before after where
  settings := second.settings.trans first.settings
  isOpen := second.isOpen
  isReading := second.isReading.trans first.isReading
  losses := second.losses.trans first.losses

theorem Hears.tell (hears : Hears before after) {event : StreamEvent} (other : event ≠ .lost) :
    Hears before (after.tell event) where
  settings := hears.settings
  isOpen := hears.isOpen
  isReading := hears.isReading
  losses := by
    rw [Stream.tell, List.count_append, List.count_singleton, if_neg (mt beq_iff_eq.mp other)]
    exact hears.losses

theorem isOpen_stateAt (scale : Scale) : (stateAt scale).isOpen := by
  rw [stateAt]
  split <;> rfl

theorem accept_hears (isOpen : stream.state.isOpen) (request : StreamRequest) (position : Int32)
    (scale : Scale) : Hears stream (stream.accept request position scale) := by
  cases request with
  | play | jump | resume => exact ⟨rfl, isOpen_stateAt scale, rfl, rfl⟩
  | pause | reset => exact ⟨rfl, rfl, rfl, rfl⟩
  | status => exact ⟨rfl, isOpen, rfl, rfl⟩

theorem settle_hears (isOpen : stream.state.isOpen) (reply : StatusReply) :
    Hears stream (stream.settle reply) := by
  rw [settle]
  split
  · exact ⟨rfl, isOpen, rfl, rfl⟩
  · exact .refl isOpen

theorem onReply_hears (isOpen : stream.state.isOpen) (request : StreamRequest)
    (header : StreamHeader) (position : Int32) (scale : Scale) :
    Hears stream (stream.onReply request header position scale) := by
  have accepted : Hears stream (if header.status.isOk
      then stream.accept request position scale else stream) := by
    split
    · exact accept_hears isOpen request position scale
    · exact .refl isOpen
  rw [onReply]
  cases request with
  | status => exact accepted.trans (settle_hears accepted.isOpen _)
  | _ => exact accepted.tell (by simp)

theorem onDone_hears (isOpen : stream.state.isOpen) (position : Int32) (scale : Scale)
    (mode : StreamMode) : Hears stream (stream.onDone position scale mode) := by
  simp only [onDone]
  split_ifs
  · apply Hears.tell
    exacts [⟨rfl, rfl, rfl, rfl⟩, by simp]
  · apply Hears.tell
    exacts [⟨rfl, rfl, rfl, rfl⟩, by simp]
  · apply Hears.tell
    exacts [⟨rfl, isOpen, rfl, rfl⟩, by simp]
  · exact ⟨rfl, isOpen, rfl, rfl⟩
  · exact ⟨rfl, isOpen, rfl, rfl⟩

theorem onMessage_hears (isOpen : stream.state.isOpen) (message : StreamMessage) :
    Hears stream (stream.onMessage message) := by
  rw [onMessage]
  split
  · exact onDone_hears isOpen ..
  · exact onReply_hears isOpen ..
  · exact .refl isOpen

theorem foldl_onMessage_hears (isOpen : stream.state.isOpen) (messages : List StreamMessage) :
    Hears stream (messages.foldl onMessage stream) := by
  induction messages generalizing stream with
  | nil => exact .refl isOpen
  | cons message messages ih =>
      have hears := onMessage_hears isOpen message
      exact hears.trans (ih hears.isOpen)

theorem read_hears (isOpen : stream.state.isOpen) (reading : stream.isReading) (bytes : Bytes) :
    Hears stream (stream.read bytes) ∧ (stream.read bytes).readFailures = 0 := by
  obtain ⟨settings, stillOpen, isReading, losses⟩ := foldl_onMessage_hears isOpen
    (StreamMessage.splitFrames (stream.buffer ++ bytes)).1
  rw [read_eq reading]
  exact ⟨⟨settings, stillOpen, isReading, losses⟩, rfl⟩

/-- A pass of the reader leaves a stream alone that is not read from. -/
theorem hear_eq_self (silent : stream.isReading = false) (outcome : ReadOutcome) :
    stream.hear outcome = stream := by
  cases outcome with
  | data bytes => exact if_neg (Bool.eq_false_iff.mp silent)
  | timedOut => rfl
  | failed => exact if_neg (Bool.eq_false_iff.mp silent)

/-! ## The course of a connected stream -/

/-- Where a stream stands that was connected and has not been closed, when this has been heard
since: open while the limit has not been reached, and lost once it has been. -/
inductive Standing (heard : List ReadOutcome) (stream : Stream) : Prop where
  | stands (isOpen : stream.state.isOpen) (reading : stream.isReading)
      (failures : stream.readFailures = streak heard)
      (below : ∀ earlier, earlier <+: heard → streak earlier < stream.failureLimit)
      (losses : stream.events.count .lost = 0)
  | fell (lost : stream.state = .lost) (silent : stream.isReading = false)
      (reached : ∃ earlier, earlier <+: heard ∧ streak earlier = stream.failureLimit)
      (losses : stream.events.count .lost = 1)

theorem failureLimit_eq (same : after.settings = before.settings) :
    after.failureLimit = before.failureLimit := congrArg (max 1 ·.maxReadFailures.toNat) same

theorem Stays.standing {heard : List ReadOutcome} (stays : Stays before after)
    (standing : Standing heard before) : Standing heard after := by
  have limit := failureLimit_eq stays.settings
  cases standing with
  | stands isOpen reading failures below losses =>
      exact .stands (stays.state ▸ isOpen) (stays.isReading ▸ reading)
        (stays.readFailures ▸ failures) (limit ▸ below) (stays.events ▸ losses)
  | fell lost silent reached losses =>
      exact .fell (stays.state ▸ lost) (stays.isReading ▸ silent) (limit ▸ reached)
        (stays.events ▸ losses)

theorem failureLimit_pos (stream : Stream) : 0 < stream.failureLimit := Nat.le_max_left 1 _

/-- A pass of the reader. -/
theorem Standing.hear {heard : List ReadOutcome} (standing : Standing heard stream)
    (outcome : ReadOutcome) : Standing (heard ++ [outcome]) (stream.hear outcome) := by
  have inclusive := ReadOutcome.streak_concat heard outcome
  cases standing with
  | fell lost silent reached losses =>
      obtain ⟨earlier, within, reaches⟩ := reached
      rw [hear_eq_self silent]
      exact .fell lost silent
        ⟨earlier, within.trans (List.prefix_append heard [outcome]), reaches⟩ losses
  | stands isOpen reading failures below losses =>
      have fewer := below heard List.prefix_rfl
      -- Of all that was heard only the whole is new.
      have below_whole (still : streak (heard ++ [outcome]) < stream.failureLimit) :
          ∀ earlier, earlier <+: heard ++ [outcome] → streak earlier < stream.failureLimit := by
        intro earlier within
        rcases List.prefix_concat_iff.mp within with rfl | within
        · exact still
        · exact below earlier within
      cases outcome with
      | data bytes =>
          obtain ⟨hears, none⟩ := read_hears isOpen reading bytes
          have still := below_whole (inclusive ▸ stream.failureLimit_pos)
          exact .stands hears.isOpen (hears.isReading.trans reading) (none.trans inclusive.symm)
            (failureLimit_eq hears.settings ▸ still) (hears.losses.trans losses)
      | timedOut =>
          exact .stands isOpen reading (failures.trans inclusive.symm)
            (below_whole (inclusive ▸ fewer)) losses
      | failed =>
          have counted : stream.readFailures + 1 = streak (heard ++ [.failed]) :=
            (congrArg (· + 1) failures).trans inclusive.symm
          change Standing _ stream.readFails
          rw [readFails, if_pos reading]
          by_cases more : stream.readFailures + 1 < stream.settings.maxReadFailures.toNat
          · have still := below_whole (counted ▸ more.trans_le (Nat.le_max_right 1 _))
            simp only [if_pos more]
            exact .stands isOpen reading counted still losses
          · have reaches : streak (heard ++ [.failed]) = stream.failureLimit := by
              have enough := Nat.le_of_not_lt more
              rw [failureLimit] at fewer ⊢
              omega
            simp only [if_neg more]
            refine .fell rfl rfl ⟨_, List.prefix_rfl, reaches⟩ ?_
            rw [tell, List.count_append, losses]
            rfl

theorem Standing.perform {heard : List ReadOutcome} (standing : Standing heard stream)
    {action : StreamAction} (going : action ≠ .close) :
    Standing (heard ++ action.outcome?.toList) (stream.perform action) := by
  cases spoken : action.outcome? with
  | some outcome =>
      rw [StreamAction.eq_hear spoken]
      exact standing.hear outcome
  | none =>
      rw [Option.toList_none, List.append_nil]
      rcases perform_proceeds going spoken with stays | joins
      · exact stays.standing standing
      · cases standing with
        | stands isOpen => exact absurd (joins.unconnected ▸ isOpen) nofun
        | fell lost => exact absurd (joins.unconnected.symm.trans lost) nofun

theorem Standing.run {heard : List ReadOutcome} (standing : Standing heard stream)
    {actions : List StreamAction} (going : .close ∉ actions) :
    Standing (heard ++ outcomes actions) (stream.run actions) := by
  induction actions generalizing heard stream with
  | nil => rwa [outcomes, List.filterMap_nil, List.append_nil]
  | cons action rest ih =>
      obtain ⟨other, later⟩ := List.ne_and_not_mem_of_not_mem_cons going
      have followed := ih (standing.perform other.symm) later
      have heard_cons : outcomes (action :: rest) = action.outcome?.toList ++ outcomes rest := by
        rw [outcomes, List.filterMap_cons]
        cases action.outcome? <;> rfl
      rwa [List.append_assoc, ← heard_cons] at followed

/-! ## Before the connection, and after the end -/

/-- What is true of a stream of these settings at any time: exactly an open stream is read
from, and what was never connected has heard nothing. -/
structure Sound (settings : StreamSettings) (stream : Stream) : Prop where
  settings_eq : stream.settings = settings
  reading : stream.isReading = stream.state.isOpen
  fresh : stream.state = .unconnected →
    stream.readFailures = 0 ∧ stream.events.count .lost = 0

variable {settings : StreamSettings}

theorem sound_initial (handle : UInt32) (settings : StreamSettings) :
    (initial handle settings).Sound settings := ⟨rfl, rfl, fun _ => ⟨rfl, rfl⟩⟩

theorem sound_of_isOpen (same : stream.settings = settings) (isOpen : stream.state.isOpen)
    (reading : stream.isReading) : stream.Sound settings where
  settings_eq := same
  reading := reading.trans isOpen.symm
  fresh unconnected := absurd (unconnected ▸ isOpen) nofun

theorem Sound.hear (sound : stream.Sound settings) (outcome : ReadOutcome) :
    (stream.hear outcome).Sound settings := by
  cases reading : stream.isReading with
  | false => rwa [hear_eq_self reading]
  | true =>
      have isOpen : stream.state.isOpen := sound.reading ▸ reading
      cases outcome with
      | data bytes =>
          have hears := (read_hears isOpen reading bytes).1
          exact sound_of_isOpen (hears.settings.trans sound.settings_eq) hears.isOpen
            (hears.isReading.trans reading)
      | timedOut => exact sound
      | failed =>
          change stream.readFails.Sound settings
          simp only [readFails, if_pos reading]
          split
          · exact sound_of_isOpen sound.settings_eq isOpen reading
          · exact ⟨sound.settings_eq, rfl, nofun⟩

theorem Sound.perform (sound : stream.Sound settings) (action : StreamAction) :
    (stream.perform action).Sound settings := by
  by_cases closes : action = .close
  · rw [closes]
    exact ⟨sound.settings_eq, rfl, nofun⟩
  · cases spoken : action.outcome? with
    | some outcome =>
        rw [StreamAction.eq_hear spoken]
        exact sound.hear outcome
    | none =>
        have proceeds : Proceeds stream (stream.perform action) := perform_proceeds closes spoken
        rcases proceeds with stays | joins
        · refine ⟨stays.settings.trans sound.settings_eq, ?_, ?_⟩
          · rw [stays.isReading, stays.state, sound.reading]
          · rw [stays.state, stays.readFailures, stays.events]
            exact sound.fresh
        · exact sound_of_isOpen (joins.settings.trans sound.settings_eq)
            (by rw [joins.connected]; rfl) joins.isReading

theorem Sound.run (sound : stream.Sound settings) (actions : List StreamAction) :
    (stream.run actions).Sound settings := by
  induction actions generalizing stream with
  | nil => exact sound
  | cons action rest ih => exact ih (sound.perform action)

/-- The action that connects a stream leaves it standing, with nothing heard yet. -/
theorem Sound.standing (sound : stream.Sound settings) (unconnected : stream.state = .unconnected)
    {action : StreamAction} (connected : (stream.perform action).state = .connected) :
    Standing [] (stream.perform action) := by
  have silent : stream.isReading = false := by rw [sound.reading, unconnected]; rfl
  have going : action ≠ .close := by
    rintro rfl
    cases connected
  cases spoken : action.outcome? with
  | some outcome =>
      rw [StreamAction.eq_hear spoken, Stream.perform, hear_eq_self silent, unconnected]
        at connected
      cases connected
  | none =>
      rcases perform_proceeds going spoken with stays | joins
      · cases connected.symm.trans (stays.state.trans unconnected)
      · obtain ⟨failures, losses⟩ := sound.fresh unconnected
        refine .stands (by rw [connected]; rfl) joins.isReading (joins.readFailures.trans failures)
          ?_ (joins.events ▸ losses)
        rintro earlier within
        rw [List.prefix_nil.mp within]
        exact failureLimit_pos _

/-- The stream has come to its end. -/
def IsOver (stream : Stream) : Prop := stream.state = .lost ∨ stream.state = .closed

theorem IsOver.shut (ended : stream.IsOver) : ¬ stream.state.isOpen := by
  rcases ended with lost | closed
  · rw [lost]; exact nofun
  · rw [closed]; exact nofun

/-- Nothing but its closing changes a stream that has come to its end. -/
structure Rests (isClosed : Bool) (before after : Stream) : Prop where
  written : after.written = before.written
  events : after.events = before.events
  state : after.state = if isClosed then .closed else before.state

theorem Sound.rests_perform (sound : stream.Sound settings) (ended : stream.IsOver)
    (action : StreamAction) : Rests (action = .close) stream (stream.perform action) := by
  by_cases closes : action = .close
  · rw [closes]
    exact ⟨rfl, rfl, rfl⟩
  · rw [decide_eq_false closes]
    cases spoken : action.outcome? with
    | some outcome =>
        have silent : stream.isReading = false :=
          sound.reading.trans (Bool.eq_false_iff.mpr ended.shut)
        rw [StreamAction.eq_hear spoken, Stream.perform, hear_eq_self silent]
        exact ⟨rfl, rfl, rfl⟩
    | none =>
        rcases perform_proceeds closes spoken with stays | joins
        · exact ⟨stays.written ended.shut, stays.events, stays.state⟩
        · rcases ended with lost | closed
          · cases joins.unconnected.symm.trans lost
          · cases joins.unconnected.symm.trans closed

theorem Rests.isOver {isClosed : Bool} (rests : Rests isClosed before after)
    (ended : before.IsOver) : after.IsOver := by
  rw [IsOver, rests.state]
  cases isClosed with
  | false => exact ended
  | true => exact .inr rfl

theorem Sound.rests_run (sound : stream.Sound settings) (ended : stream.IsOver)
    (actions : List StreamAction) :
    Rests (.close ∈ actions) stream (stream.run actions) := by
  induction actions generalizing stream with
  | nil => exact ⟨rfl, rfl, rfl⟩
  | cons action rest ih =>
      have first := sound.rests_perform ended action
      have later := ih (sound.perform action) (first.isOver ended)
      refine ⟨later.written.trans first.written, later.events.trans first.events, ?_⟩
      refine later.state.trans ?_
      rw [first.state]
      by_cases closes : action = .close <;> by_cases closed : .close ∈ rest <;>
        simp [closes, closed, eq_comm]

/-- **A stream is lost once, and for good.**  From when it has been connected until it is
closed, a stream is lost exactly if the passes of its reader have at some time come to the
limit of failures with nothing read between them, whatever its owner and its callers do
meanwhile, and then its owner has been told once.  And a stream that is lost or closed writes
nothing any more, tells nothing, and stays as it is unless it is closed; its questions are
answered without the server. -/
theorem lost_iff_limit_reached :
    (∀ (handle : UInt32) (settings : StreamSettings) (earlier : List StreamAction)
        (action : StreamAction) (later : List StreamAction),
      let unconnected := (initial handle settings).run earlier
      let connected := unconnected.perform action
      let limit := max 1 settings.maxReadFailures.toNat
      unconnected.state = .unconnected → connected.state = .connected → .close ∉ later →
        ((connected.run later).state = .lost ↔
          ∃ heard, heard <+: outcomes later ∧ streak heard = limit) ∧
        (connected.run later).events.count .lost =
          if (connected.run later).state = .lost then 1 else 0) ∧
    ∀ (handle : UInt32) (settings : StreamSettings) (actions further : List StreamAction),
      let ended := (initial handle settings).run actions
      ended.state = .lost ∨ ended.state = .closed →
        (ended.run further).written = ended.written ∧
        (ended.run further).events = ended.events ∧
        (ended.run further).state = (if .close ∈ further then .closed else ended.state) ∧
        ∀ inputs, (ended.getPosition inputs).2 = ended ∧ (ended.getSpeed inputs).2 = ended := by
  constructor
  · intro handle settings earlier action later unconnected connected limit before joined going
    have sound := (sound_initial handle settings).run earlier
    have after := (sound.standing before joined).run going
    have limited : (connected.run later).failureLimit = limit :=
      congrArg (max 1 ·.maxReadFailures.toNat) ((sound.perform action).run later).settings_eq
    rw [List.nil_append] at after
    cases after with
    | stands isOpen reading failures below losses =>
        have alive : (connected.run later).state ≠ .lost := fun lost =>
          absurd (lost ▸ isOpen) nofun
        refine ⟨⟨fun lost => absurd lost alive, ?_⟩, by rw [losses, if_neg alive]⟩
        rintro ⟨heard, within, reached⟩
        exact absurd reached (limited ▸ below heard within).ne
    | fell lost silent reached losses =>
        exact ⟨⟨fun _ => limited ▸ reached, fun _ => lost⟩, by rw [losses, if_pos lost]⟩
  · intro handle settings actions further ended isOver
    have sound := (sound_initial handle settings).run actions
    have rests := sound.rests_run isOver further
    refine ⟨rests.written, rests.events, ?_, ?_⟩
    · simpa using rests.state
    · have refused := fun operation => refusal?_isSome (IsOver.shut isOver) operation
      intro inputs
      obtain ⟨fault, position⟩ := refused .queryPosition
      obtain ⟨other, speed⟩ := refused .querySpeed
      constructor
      · simp only [getPosition, position, ended]
      · simp only [getSpeed, speed]

/-- A stream that two failures in a row lose. -/
def sampleSettings : StreamSettings := { maxReadFailures := 2 }

/-- A failure on each side of a read, and a time-out in between two failures. -/
def sampleReader : List StreamAction :=
  [.hear .failed, .pause, .hear (.data [1]), .hear .failed, .hear .timedOut, .hear .failed]

theorem lost_iff_limit_reached_sampleReader :
    let connected := (initial 7 sampleSettings).perform (.connect true)
    let ended := connected.run sampleReader
    ended.state = .lost ∧ ended.events.count .lost = 1 ∧
      (∃ heard, heard <+: outcomes sampleReader ∧ streak heard = 2) ∧
      (ended.run [.play true false, .close]).written = ended.written ∧
      (ended.run [.play true false, .close]).state = .closed := by
  obtain ⟨loses, ends⟩ := lost_iff_limit_reached
  have lost : ((initial 7 sampleSettings).run (.connect true :: sampleReader)).state = .lost := by
    decide +kernel
  obtain ⟨reached, told⟩ := loses 7 sampleSettings [] (.connect true) sampleReader rfl rfl
    (by decide)
  obtain ⟨written, -, state, -⟩ := ends 7 sampleSettings (.connect true :: sampleReader)
    [.play true false, .close] (.inl lost)
  exact ⟨lost, told.trans (if_pos lost), reached.mp lost, written, state⟩

end Stream

end OnDemand
