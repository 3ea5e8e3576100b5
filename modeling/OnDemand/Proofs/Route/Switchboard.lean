import OnDemand.Proofs.Route.Table

/-!
# Runs of a route table

Sessions are put on a table, taken off it and reached by other numbers in any order, and their
handlers may be gone at any time, also before the table hears of them.  In every run the
numbers on the wire lead to exactly the sessions that have them.
-/

namespace OnDemand

/-- What can happen to a route table and its handlers. -/
inductive RouteAction where
  | register (owner : UInt32) (handler : HandlerRef)
  | registerUnnumbered (owner : UInt32) (handler : HandlerRef)
  | unregister (owner : UInt32)
  | rebind (owner number : UInt32)
  /-- A handler goes, without a word to the table. -/
  | drop (handler : HandlerRef)

/-- A route table and the handlers that are still alive. -/
structure Switchboard where
  table : RouteTable := {}
  isAlive : HandlerRef → Bool

namespace Switchboard

/-- What an action does to a switchboard. -/
def perform (board : Switchboard) (action : RouteAction) : Switchboard :=
  match action with
  | .register owner handler => { board with table := board.table.register owner handler }
  | .registerUnnumbered owner handler =>
      { board with table := board.table.registerUnnumbered owner handler }
  | .unregister owner => { board with table := board.table.unregister owner }
  | .rebind owner number =>
      { board with table := (board.table.rebind board.isAlive owner number).2 }
  | .drop handler =>
      { board with isAlive := fun other => other ≠ handler && board.isAlive other }

/-- What actions do to a switchboard, one after another. -/
def run (board : Switchboard) (actions : List RouteAction) : Switchboard :=
  actions.foldl perform board

end Switchboard

namespace RouteTable

variable {table : RouteTable} {owner other number : UInt32} {handler : HandlerRef}
  {live : HandlerRef → Bool}

/-- A number leads to the live handler of the session that has it. -/
theorem Consistent.lookup_eq_some_iff (consistent : table.Consistent) :
    table.lookup live number = some handler ↔
      ∃ owner route, table.sessions.get? owner = some route ∧ route.number = some number ∧
        route.handler = handler ∧ live handler = true := by
  simp only [lookup, Option.bind_eq_bind, Option.bind_eq_some_iff]
  constructor
  · rintro ⟨owner, numbered, route, found, answer⟩
    obtain ⟨same, sameFound, own⟩ := consistent.numbered.mp numbered
    cases found.symm.trans sameFound
    split at answer
    · next alive =>
        cases answer
        exact ⟨owner, route, found, own, rfl, alive⟩
    · cases answer
  · rintro ⟨owner, route, found, own, rfl, alive⟩
    exact ⟨owner, consistent.numbered.mpr ⟨route, found, own⟩, route, found, if_pos alive⟩

/-- A session has at most one number on the wire. -/
theorem Consistent.number_unique (consistent : table.Consistent) {another : UInt32}
    (numbered : table.byNumber.get? number = some owner)
    (again : table.byNumber.get? another = some owner) : number = another := by
  obtain ⟨route, found, own⟩ := consistent.numbered.mp numbered
  obtain ⟨same, sameFound, sameOwn⟩ := consistent.numbered.mp again
  cases found.symm.trans sameFound
  exact Option.some.inj (own.symm.trans sameOwn)

/-- A number on the wire is that of at most one session. -/
theorem Consistent.owner_unique (consistent : table.Consistent) {route otherRoute : Route}
    (found : table.sessions.get? owner = some route) (own : route.number = some number)
    (otherFound : table.sessions.get? other = some otherRoute)
    (otherOwn : otherRoute.number = some number) : owner = other := by
  have numbered := consistent.numbered.mpr ⟨route, found, own⟩
  have otherNumbered := consistent.numbered.mpr ⟨otherRoute, otherFound, otherOwn⟩
  exact Option.some.inj (numbered.symm.trans otherNumbered)

end RouteTable

namespace Switchboard

variable {board : Switchboard}

/-- Whatever happens, the table stays consistent. -/
theorem consistent_perform (consistent : board.table.Consistent) (action : RouteAction) :
    (board.perform action).table.Consistent := by
  cases action with
  | register owner handler => exact consistent.register owner handler
  | registerUnnumbered owner handler => exact consistent.registerUnnumbered owner handler
  | unregister owner => exact consistent.unregister owner
  | rebind owner number => exact consistent.rebind
  | drop handler => exact consistent

theorem consistent_run (consistent : board.table.Consistent) (actions : List RouteAction) :
    (board.run actions).table.Consistent := by
  induction actions generalizing board with
  | nil => exact consistent
  | cons action rest ih => exact ih (consistent_perform consistent action)

/-- In every run from an empty table, a number on the wire leads to a session exactly when the
session is on the table and has that number.  So a session has one number at most and a number
one session, a number finds the live handler of the session that has it and no other, and none
leads to a session that was taken off. -/
theorem byNumber_run_iff (isAlive : HandlerRef → Bool) (actions : List RouteAction) :
    let board := run { isAlive } actions
    (∀ number owner, board.table.byNumber.get? number = some owner ↔
      ∃ route, board.table.sessions.get? owner = some route ∧ route.number = some number) ∧
    (∀ owner number another, board.table.byNumber.get? number = some owner →
      board.table.byNumber.get? another = some owner → number = another) ∧
    (∀ number owner other route otherRoute, board.table.sessions.get? owner = some route →
      route.number = some number → board.table.sessions.get? other = some otherRoute →
      otherRoute.number = some number → owner = other) ∧
    (∀ number handler, board.table.lookup board.isAlive number = some handler ↔
      ∃ owner route, board.table.sessions.get? owner = some route ∧
        route.number = some number ∧ route.handler = handler ∧
        board.isAlive handler = true) ∧
    (∀ owner, board.table.sessions.get? owner = none →
      ∀ number, board.table.byNumber.get? number ≠ some owner) := by
  intro board
  have consistent : board.table.Consistent := consistent_run RouteTable.Consistent.empty actions
  refine ⟨fun _ _ => consistent.numbered, fun _ _ _ => consistent.number_unique,
    fun _ _ _ _ _ => consistent.owner_unique, fun _ _ => consistent.lookup_eq_some_iff, ?_⟩
  intro owner absent
  exact consistent.byNumber_ne (Option.map_eq_none_iff.mpr absent)

end Switchboard

end OnDemand
