import OnDemand.Proofs.Session.Agreement
import OnDemand.Proofs.Session.Steady

/-!
# The moves of a run

A run is made of moves: each action is one, and so is each alarm that rings while time passes.  The
clients of its history are those to which its moves lead.  A regime says what is kept between
actions and what is kept while time passes; from it follows what each move of a run fits.
-/

namespace OnDemand

/-- One thing that happens in a run, by its cause: an action, or none when an alarm rings while
time passes. -/
structure Move where
  cause : Option ClientAction
  before : Client
  after : Client

namespace Move

/-- What a move adds to a log that has the latest entry first, earliest first. -/
def news {α : Type} (log : Client → List α) (move : Move) : List α :=
  let added := (log move.after).length - (log move.before).length
  ((log move.after).take added).reverse

theorem news_eq {α : Type} {log : Client → List α} {move : Move} {added : List α}
    (later : log move.after = added ++ log move.before) : move.news log = added.reverse := by
  simp only [news]
  rw [later, List.length_append, Nat.add_sub_cancel, List.take_left]

/-- A log that is as before has nothing new. -/
theorem news_eq_nil {α : Type} {log : Client → List α} {move : Move}
    (same : log move.after = log move.before) : move.news log = [] :=
  news_eq (same.trans (List.nil_append _).symm)

end Move

namespace Client

variable {client middle final : Client} {fits : Move → Prop}

/-- The alarms that ring while time passes. -/
def rings (limit : Time) : Nat → Client → List Move
  | 0, _ => []
  | fuel + 1, client =>
      match client.step limit with
      | none => []
      | some next => ⟨none, client, next⟩ :: rings limit fuel next

/-- The moves of which an action is made: itself, after all alarms that ring before it is over. -/
def movesOf (client : Client) (action : ClientAction) : List Move :=
  match action with
  | .advance duration =>
      let limit := client.courier.agenda.now + duration
      let fuel := client.weight limit
      client.rings limit fuel ++
        [⟨some action, exhaust (step limit) fuel client, client.perform action⟩]
  | _ => [⟨some action, client, client.perform action⟩]

/-- The moves of a run. -/
def moves (client : Client) : List ClientAction → List Move
  | [] => []
  | action :: rest => client.movesOf action ++ (client.perform action).moves rest

theorem map_after_rings (limit : Time) (fuel : Nat) (client : Client) :
    (client.rings limit fuel).map Move.after = client.rung limit fuel := by
  induction fuel generalizing client with
  | zero => rfl
  | succ fuel ih =>
      cases stepped : client.step limit with
      | none => simp only [rings, rung, stepped, List.map_nil]
      | some next => simp only [rings, rung, stepped, List.map_cons, ih]

theorem map_after_movesOf (client : Client) (action : ClientAction) :
    (client.movesOf action).map Move.after = client.alarms action ++ [client.perform action] := by
  cases action with
  | advance duration =>
      simp only [movesOf, alarms, List.map_append, map_after_rings]
      rfl
  | _ => rfl

/-- The moves of a run lead through its history. -/
theorem map_after_moves (client : Client) (actions : List ClientAction) :
    client :: (client.moves actions).map Move.after = client.history actions := by
  induction actions generalizing client with
  | nil => rfl
  | cons action rest ih =>
      rw [moves, List.map_append, map_after_movesOf, List.append_assoc, List.singleton_append, ih,
        history]

/-! ## Moves that lead on from one another -/

/-- Moves lead from one client to another, each of them from where the one before it led. -/
inductive Leads (fits : Move → Prop) : Client → List Move → Client → Prop where
  | nil (client : Client) : Leads fits client [] client
  | cons {move : Move} {rest : List Move} {final : Client} (fit : fits move)
      (onward : Leads fits move.after rest final) : Leads fits move.before (move :: rest) final

theorem Leads.single {move : Move} (fit : fits move) : Leads fits move.before [move] move.after :=
  .cons fit (.nil _)

theorem Leads.append {earlier later : List Move} (first : Leads fits client earlier middle)
    (second : Leads fits middle later final) : Leads fits client (earlier ++ later) final := by
  induction first with
  | nil => exact second
  | cons fit _ ih => exact .cons fit (ih second)

/-- What each move carries on holds after all of them. -/
theorem Leads.carry (holds : List Move → Client → Prop)
    (carries : ∀ {past move}, fits move → holds past move.before →
      holds (past ++ [move]) move.after)
    {made : List Move} (leads : Leads fits client made final) {past : List Move}
    (start : holds past client) : holds (past ++ made) final := by
  induction leads generalizing past with
  | nil => rwa [List.append_nil]
  | @cons move rest _ fit _ ih =>
      have onward := ih (carries fit start)
      rwa [List.append_assoc, List.singleton_append] at onward

theorem Leads.forall_mem {made : List Move} (leads : Leads fits client made final) :
    ∀ move ∈ made, fits move := by
  induction leads with
  | nil => exact List.forall_mem_nil fits
  | cons fit _ ih => exact List.forall_mem_cons.mpr ⟨fit, ih⟩

/-! ## Regimes -/

/-- What is kept between actions, and what is kept while time passes until a limit, and what each
move fits for that. -/
structure Regime (allows : ClientAction → Prop) (between : Client → Prop)
    (passing : Time → Client → Prop) (fits : Move → Prop) : Prop where
  acts : ∀ {client action}, allows action → (∀ duration, action ≠ .advance duration) →
    between client →
    fits ⟨some action, client, client.perform action⟩ ∧ between (client.perform action)
  enters : ∀ {client} (duration : Time), between client →
    passing (client.courier.agenda.now + duration) client
  steady : ∀ {limit client}, passing limit client → client.Steady
  rings : ∀ {limit client next}, passing limit client → client.step limit = some next →
    fits ⟨none, client, next⟩ ∧ passing limit next
  passes : ∀ {limit client} (duration : Time), passing limit client → client.step limit = none →
    fits ⟨some (.advance duration), client, client.wait limit⟩ ∧ between (client.wait limit)

section Regime

variable {allows : ClientAction → Prop} {between : Client → Prop} {passing : Time → Client → Prop}

theorem Regime.exhaust (regime : Regime allows between passing fits) {limit : Time} (fuel : Nat)
    (start : passing limit client) :
    Leads fits client (client.rings limit fuel) (OnDemand.exhaust (Client.step limit) fuel client) ∧
      passing limit (OnDemand.exhaust (Client.step limit) fuel client) := by
  induction fuel generalizing client with
  | zero => exact ⟨.nil client, start⟩
  | succ fuel ih =>
      cases stepped : client.step limit with
      | none =>
          simp only [Client.rings, OnDemand.exhaust, stepped]
          exact ⟨.nil client, start⟩
      | some next =>
          simp only [Client.rings, OnDemand.exhaust, stepped]
          obtain ⟨fit, passing⟩ := regime.rings start stepped
          obtain ⟨leads, passing⟩ := ih passing
          exact ⟨.cons fit leads, passing⟩

theorem Regime.movesOf (regime : Regime allows between passing fits) {action : ClientAction}
    (allowed : allows action) (start : between client) :
    Leads fits client (client.movesOf action) (client.perform action) ∧
      between (client.perform action) := by
  have instantly (instant : ∀ duration, action ≠ .advance duration)
      (single : client.movesOf action = [⟨some action, client, client.perform action⟩]) :
      Leads fits client (client.movesOf action) (client.perform action) ∧
        between (client.perform action) := by
    obtain ⟨fit, between⟩ := regime.acts allowed instant start
    rw [single]
    exact ⟨.single fit, between⟩
  cases action with
  | advance duration =>
      obtain ⟨leads, passing⟩ := regime.exhaust
        (client.weight (client.courier.agenda.now + duration)) (regime.enters duration start)
      have ended := (regime.steady (regime.enters duration start)).step_exhaust
        (client.courier.agenda.now + duration)
      obtain ⟨fit, between⟩ := regime.passes duration passing ended
      exact ⟨leads.append (.single fit), between⟩
  | _ => exact instantly nofun rfl

/-- The moves of a run lead to where it ends. -/
theorem Regime.leads (regime : Regime allows between passing fits) {actions : List ClientAction}
    (allowed : ∀ action ∈ actions, allows action) (start : between client) :
    Leads fits client (client.moves actions) (client.run actions) ∧
      between (client.run actions) := by
  induction actions generalizing client with
  | nil => exact ⟨.nil client, start⟩
  | cons action rest ih =>
      obtain ⟨first, allowed⟩ := List.forall_mem_cons.mp allowed
      obtain ⟨leads, between⟩ := regime.movesOf first start
      obtain ⟨later, between⟩ := ih allowed between
      exact ⟨leads.append later, between⟩

end Regime

end Client

end OnDemand
