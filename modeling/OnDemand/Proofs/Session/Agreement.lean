import Mathlib.Data.List.Chain
import OnDemand.Proofs.Session.Following

/-!
# Where a session stands agrees with what its owner was told

The history of a run has all clients that the run passes through, in order.  Each client in it
follows the one before, so every session goes through a course, and what was told agrees with
its state throughout.
-/

namespace OnDemand

namespace Client

variable {client : Client} {clients : List Client} {ref : SessionRef} {session : Session}

/-! ## Histories -/

/-- The clients that a client passes through while alarms ring, after each of them. -/
def rung (limit : Time) : Nat → Client → List Client
  | 0, _ => []
  | fuel + 1, client =>
      match client.step limit with
      | none => []
      | some next => next :: rung limit fuel next

/-- The clients that a client passes through while time passes, after each alarm. -/
def alarms (client : Client) : ClientAction → List Client
  | .advance duration =>
      let limit := client.courier.agenda.now + duration
      rung limit (client.weight limit) client
  | _ => []

/-- All clients that a client passes through in a run, from itself on: after each action
and, while time passes, after each alarm. -/
def history (client : Client) : List ClientAction → List Client
  | [] => [client]
  | action :: rest => client :: (client.alarms action ++ (client.perform action).history rest)

theorem history_eq_cons (client : Client) (actions : List ClientAction) :
    ∃ later, client.history actions = client :: later := by
  cases actions with
  | nil => exact ⟨_, rfl⟩
  | cons action rest => exact ⟨_, rfl⟩

/-- A history ends where the run does. -/
theorem getLast?_history (client : Client) (actions : List ClientAction) :
    (client.history actions).getLast? = some (client.run actions) := by
  induction actions generalizing client with
  | nil => rfl
  | cons action rest ih =>
      obtain ⟨later, first⟩ := (client.perform action).history_eq_cons rest
      rw [history, List.getLast?_cons, List.getLast?_append, ih]
      rfl

/-! ## Each client of a history follows the one before -/

theorem Follows.rung (limit : Time) (fuel : Nat) (orderly : client.Orderly) {later : List Client}
    (rest : (exhaust (Client.step limit) fuel client).Orderly →
      List.IsChain Follows (exhaust (Client.step limit) fuel client :: later)) :
    List.IsChain Follows (client :: (client.rung limit fuel ++ later)) := by
  induction fuel generalizing client with
  | zero => exact rest orderly
  | succ fuel ih =>
      cases stepped : client.step limit with
      | none =>
          simp only [exhaust, stepped] at rest
          simp only [Client.rung, stepped]
          exact rest orderly
      | some next =>
          simp only [exhaust, stepped] at rest
          simp only [Client.rung, stepped]
          have follows := Follows.step orderly stepped
          exact .cons_cons follows (ih follows.orderly rest)

/-- The clients up to the end of an action, and what comes after. -/
theorem Follows.alarms (orderly : client.Orderly) (action : ClientAction) {later : List Client}
    (rest : (client.perform action).Orderly →
      List.IsChain Follows (client.perform action :: later)) :
    List.IsChain Follows (client :: (client.alarms action ++ client.perform action :: later)) := by
  by_cases instant : ∀ duration, action ≠ .advance duration
  · have none : client.alarms action = [] := by
      cases action with
      | advance duration => exact absurd rfl (instant duration)
      | _ => rfl
    have follows := Follows.perform orderly instant
    rw [none]
    exact .cons_cons follows (rest follows.orderly)
  · push Not at instant
    obtain ⟨duration, passes⟩ := instant
    subst passes
    apply Follows.rung _ _ orderly
    intro rang
    -- the clock goes on to the end of the time, and no alarm rings any more
    have moved : Calm _ (client.perform (.advance duration)) := .of_sessions rang rfl rfl rfl
    exact .cons_cons moved.follows (rest moved.orderly)

theorem Follows.history (orderly : client.Orderly) (actions : List ClientAction) :
    List.IsChain Follows (client.history actions) := by
  induction actions generalizing client with
  | nil => exact .singleton client
  | cons action rest ih =>
      obtain ⟨later, first⟩ := (client.perform action).history_eq_cons rest
      rw [Client.history, first]
      apply Follows.alarms orderly action
      intro next
      rw [← first]
      exact ih next

/-! ## Sessions in a history -/

/-- A session as it is in each of some clients, as far as they have it. -/
def appearances (ref : SessionRef) (clients : List Client) : List Session :=
  clients.filterMap fun client => client.session? ref

/-- A session turns from each of its appearances to the next. -/
theorem Follows.appearances (chain : List.IsChain Follows clients) (ref : SessionRef) :
    List.IsChain Session.Turns (appearances ref clients) := by
  induction chain with
  | nil => exact .nil
  | singleton client =>
      simp only [Client.appearances, List.filterMap_cons, List.filterMap_nil]
      split
      · exact .nil
      · exact .singleton _
  | @cons_cons client next rest follows chain ih =>
      cases found : client.session? ref with
      | none =>
          rw [Client.appearances, List.filterMap_cons_none found]
          exact ih
      | some before =>
          obtain ⟨after, afterFound, turns⟩ := follows.turns found
          rw [Client.appearances, List.filterMap_cons_some afterFound] at ih
          rw [Client.appearances, List.filterMap_cons_some found,
            List.filterMap_cons_some afterFound]
          exact .cons_cons turns ih

/-- A session that appears stays, so its last appearance is in the last client. -/
theorem Follows.getLast?_appearances (chain : List.IsChain Follows clients) (ref : SessionRef) :
    (Client.appearances ref clients).getLast? =
      clients.getLast?.bind fun client => client.session? ref := by
  induction chain with
  | nil => rfl
  | singleton client =>
      simp only [Client.appearances, List.filterMap_cons, List.filterMap_nil]
      split
      · next absent => exact absent.symm
      · next found => exact found.symm
  | @cons_cons client next rest follows chain ih =>
      rw [List.getLast?_cons_cons, ← ih]
      cases found : client.session? ref with
      | none => rw [Client.appearances, List.filterMap_cons_none found, Client.appearances]
      | some before =>
          obtain ⟨after, afterFound, _⟩ := follows.turns found
          rw [Client.appearances, List.filterMap_cons_some found, Client.appearances,
            List.filterMap_cons_some afterFound, List.getLast?_cons_cons]

/-- A session that the first client does not have is idle when it appears, and nothing has
been told of it. -/
theorem Follows.fresh_of_head (chain : List.IsChain Follows (client :: clients))
    (absent : client.session? ref = none)
    (first : session ∈ (Client.appearances ref (client :: clients)).head?) :
    session.state = .idle ∧ session.events = [] := by
  rw [Client.appearances, List.filterMap_cons_none absent] at first
  induction clients generalizing client with
  | nil => cases first
  | cons next rest ih =>
      obtain ⟨follows, chain⟩ := List.isChain_cons_cons.mp chain
      cases found : next.session? ref with
      | none =>
          rw [List.filterMap_cons_none found] at first
          exact ih chain found first
      | some after =>
          rw [List.filterMap_cons_some found] at first
          cases first
          exact follows.fresh absent found

end Client

/-- From where a session stands it goes to the same state or a neighbour, and what it was
told stays told. -/
def Session.Advances (before after : Session) : Prop :=
  (before.state = after.state ∨ before.state.leadsTo after.state = true) ∧
    before.events <+: after.events

theorem Session.Turns.advances {before after : Session} (turns : before.Turns after) :
    before.Advances after := by
  obtain ⟨told, turn, events⟩ := turns.turn
  exact ⟨turn.eq_or_leadsTo, told, events.symm⟩

/-- The course of a session goes on with each turn. -/
theorem Session.Turns.after {before after : Session} (turns : before.Turns after)
    (course : SessionState.After before.events before.state) :
    SessionState.After after.events after.state := by
  obtain ⟨told, turn, events⟩ := turns.turn
  rw [events]
  exact .turn course turn

namespace Client

/-- In every run from the start, a session is idle when it appears, and from then on it goes
from state to state only along `SessionState.leadsTo`, and what was told stays told.  At all
times what has been told agrees with the state. -/
theorem history_agrees (settings : ClientSettings) (actions : List ClientAction)
    (ref : SessionRef) :
    let course := appearances ref ((start settings).history actions)
    (∀ session ∈ course.head?, session.state = .idle ∧ session.events = []) ∧
      List.IsChain Session.Advances course ∧
      (∀ session ∈ course, session.state.Agrees session.events) ∧
      course.getLast? = ((start settings).run actions).session? ref := by
  have chain := Follows.history (.start settings) actions
  have turns := Follows.appearances chain ref
  have first : ∀ session ∈ (appearances ref ((start settings).history actions)).head?,
      session.state = .idle ∧ session.events = [] := by
    obtain ⟨later, begins⟩ := (start settings).history_eq_cons actions
    rw [begins] at chain ⊢
    exact fun session => Follows.fresh_of_head chain (session?_start settings ref)
  intro course
  refine ⟨first, turns.imp fun _ _ => Session.Turns.advances, ?_, ?_⟩
  · intro session member
    apply SessionState.After.agrees
    apply turns.induction (fun session => SessionState.After session.events session.state) course
      (fun _ _ => Session.Turns.after) ?_ session member
    intro appears
    obtain ⟨idle, silent⟩ := first _ (List.head?_eq_some_head appears)
    rw [idle, silent]
    exact .start
  · rw [Follows.getLast?_appearances chain ref, getLast?_history]
    rfl

/-- A release that is never answered is asked for three times more and then given up. -/
example :
    (appearances 0 ((start sampleSettings).history [.create (.ofVendor .arris) {},
      .operate .setup 0, .operate .teardown 0, .advance 8000000])).map Session.state =
        [.idle, .setupSent, .releasing, .releasing, .releasing, .releasing, .released,
          .released] := by
  rfl

end Client

end OnDemand
