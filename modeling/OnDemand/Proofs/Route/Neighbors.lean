import OnDemand.Proofs.Route.Switchboard

/-!
# Operations on a route spare its neighbors

Numbers on the wire and local numbers overlap, so the local number of one session may well be the
number by which another is reached.  Each operation is told apart by what it does to the numbers on
the wire: it lets go of the number of its own session and of no other, and the number that it
claims is free, is that of a dead session, or is refused.
-/

namespace OnDemand

namespace RouteTable

variable {table next : RouteTable} {owner other number wire : UInt32} {handler : HandlerRef}
  {live : HandlerRef → Bool}

/-! ## What a number leads to -/

theorem lookup_eq : table.lookup live wire =
    (table.byNumber.get? wire).bind fun owner => (table.handler? owner).filter live := by
  simp only [lookup, handler?, Option.bind_eq_bind]
  refine Option.bind_congr fun owner _ => ?_
  cases table.sessions.get? owner with
  | none => rfl
  | some route => simp only [Option.bind_some, Option.map_some, Option.filter]

/-- A number leads where it led before, as long as it stays with its session and the session keeps
its handler. -/
theorem lookup_congr (numbered : next.byNumber.get? wire = table.byNumber.get? wire)
    (handlers : ∀ owner, table.byNumber.get? wire = some owner →
      next.handler? owner = table.handler? owner) :
    next.lookup live wire = table.lookup live wire := by
  rw [lookup_eq, lookup_eq, numbered]
  exact Option.bind_congr fun owner claimed => by rw [handlers owner claimed]

theorem isLive_eq : table.isLive live owner = (table.handler? owner).any live := by
  rw [isLive, handler?, Option.any_map]

/-- The number of a live session leads to its handler. -/
theorem lookup_of_isLive (claimed : table.byNumber.get? wire = some owner)
    (alive : table.isLive live owner = true) :
    ∃ handler, table.handler? owner = some handler ∧ table.lookup live wire = some handler := by
  rw [isLive_eq, Option.any_eq_true] at alive
  obtain ⟨handler, held, alive⟩ := alive
  refine ⟨handler, held, ?_⟩
  rw [lookup_eq, claimed, Option.bind_some, held, Option.filter_some_pos alive]

/-! ## What an operation does to the numbers -/

theorem byNumber_forgetNumber {forgotten : Option UInt32} :
    (table.forgetNumber owner forgotten).byNumber.get? wire =
      if forgotten = some wire ∧ table.byNumber.get? wire = some owner then none
      else table.byNumber.get? wire := by
  simp only [forgetNumber]
  cases forgotten with
  | none => simp only [reduceCtorEq, false_and, if_false]
  | some number =>
      simp only [Option.some.injEq]
      by_cases same : number = wire
      · subst same
        split
        · next own => simp only [KeyedList.get?_erase, if_true, own, and_self]
        · next foreign => simp only [foreign, and_false, if_false]
      · simp only [same, false_and, if_false]
        split
        · simp only [KeyedList.get?_erase, Ne.symm same, if_false]
        · rfl

/-- The number of a session is let go of, whichever it is. -/
theorem Consistent.byNumber_forgetNumber (consistent : table.Consistent) {route : Route}
    (found : table.sessions.get? owner = some route) :
    (table.forgetNumber owner route.number).byNumber.get? wire =
      if table.byNumber.get? wire = some owner then none else table.byNumber.get? wire := by
  rw [RouteTable.byNumber_forgetNumber]
  refine if_congr (and_iff_right_of_imp fun claimed => ?_) rfl rfl
  obtain ⟨same, sameFound, numbered⟩ := consistent.numbered.mp claimed
  cases found.symm.trans sameFound
  exact numbered

theorem Consistent.byNumber_unregister (consistent : table.Consistent) :
    (table.unregister owner).byNumber.get? wire =
      if table.byNumber.get? wire = some owner then none else table.byNumber.get? wire := by
  cases found : table.sessions.get? owner with
  | none =>
      have absent := consistent.byNumber_ne (Option.map_eq_none_iff.mpr found) wire
      simp only [RouteTable.unregister, found, absent, if_false]
  | some route =>
      rw [← consistent.byNumber_forgetNumber found, RouteTable.byNumber_forgetNumber]
      simp only [RouteTable.unregister, found]
      exact RouteTable.byNumber_forgetNumber

theorem Consistent.byNumber_registerUnnumbered (consistent : table.Consistent) :
    (table.registerUnnumbered owner handler).byNumber.get? wire =
      if table.byNumber.get? wire = some owner then none else table.byNumber.get? wire :=
  consistent.byNumber_unregister

theorem Consistent.byNumber_register (consistent : table.Consistent) :
    (table.register owner handler).byNumber.get? wire =
      if wire = owner then some owner
      else if table.byNumber.get? wire = some owner then none else table.byNumber.get? wire := by
  simp only [RouteTable.register, byNumber_claimNumber, KeyedList.get?_insert,
    consistent.byNumber_unregister]

/-! ## Reaching a session by another number -/

/-- A session that is not reached by another number is left as it is. -/
theorem rebind_of_refused (refused : (table.rebind live owner number).1 = false) :
    (table.rebind live owner number).2 = table := by
  simp only [rebind] at refused ⊢
  split
  · rfl
  · next route found =>
      simp only [found] at refused
      split
      · rfl
      · next foreign =>
          simp only [foreign, if_false] at refused
          split
          · rfl
          · next free =>
              simp only [free] at refused
              cases refused

/-- The number that a session is given is that of no other live session. -/
theorem Consistent.isLive_of_granted (consistent : table.Consistent)
    (granted : (table.rebind live owner number).1 = true)
    (claimed : table.byNumber.get? number = some other) (different : other ≠ owner) :
    table.isLive live other = false := by
  rw [Bool.eq_false_iff]
  intro alive
  cases found : table.sessions.get? owner with
  | none => simp only [RouteTable.rebind, found, Bool.false_eq_true] at granted
  | some route =>
      have foreign : route.number ≠ some number := by
        intro own
        have again := consistent.numbered.mpr ⟨route, found, own⟩
        exact different (Option.some.inj (claimed.symm.trans again))
      rw [rebind_of_claimed found foreign claimed different alive] at granted
      cases granted

/-- A session that is given a number is on the table, and of the numbers on the wire it has this
one instead of its own. -/
theorem Consistent.byNumber_rebind (consistent : table.Consistent)
    (granted : (table.rebind live owner number).1 = true) :
    (∃ handler, table.handler? owner = some handler) ∧
      ∀ wire, (table.rebind live owner number).2.byNumber.get? wire =
        if wire = number then some owner
        else if table.byNumber.get? wire = some owner then none
        else table.byNumber.get? wire := by
  cases found : table.sessions.get? owner with
  | none => simp only [RouteTable.rebind, found, Bool.false_eq_true] at granted
  | some route =>
      refine ⟨⟨route.handler, by rw [handler?, found, Option.map_some]⟩, fun wire => ?_⟩
      simp only [RouteTable.rebind, found] at granted ⊢
      by_cases own : route.number = some number
      · have claimed := consistent.numbered.mpr ⟨route, found, own⟩
        simp only [own, if_true]
        split
        · next same => rw [same, claimed]
        · next different =>
            rw [if_neg]
            exact fun again => different (consistent.number_unique again claimed)
      · simp only [own, if_false] at granted ⊢
        split at granted
        · cases granted
        · next free =>
            simp only [free, Bool.false_eq_true, if_false, byNumber_claimNumber,
              KeyedList.get?_insert, consistent.byNumber_forgetNumber found]

end RouteTable

namespace Switchboard

open RouteTable

/-- In every run, taking a session off, putting it on anew without a number, and reaching it by
another number leave the numbers of all other live sessions leading to their handlers.  A number
that is refused leaves the table alone; one that is granted leads to the session, and its former
number to nobody.  Putting a session on the table that is reached by its local number changes where
that number leads and where its former number led, and nothing else. -/
theorem lookup_spared (isAlive : HandlerRef → Bool) (actions : List RouteAction) :
    let board := run { isAlive } actions
    let table := board.table
    let live := board.isAlive
    (∀ owner other wire, other ≠ owner → table.byNumber.get? wire = some other →
      table.isLive live other = true →
      ∃ handler, table.handler? other = some handler ∧
        table.lookup live wire = some handler ∧
        (table.unregister owner).lookup live wire = some handler ∧
        (∀ fresh, (table.registerUnnumbered owner fresh).lookup live wire = some handler) ∧
        ∀ number, (table.rebind live owner number).2.lookup live wire = some handler) ∧
    (∀ owner number, (table.rebind live owner number).1 = false →
      (table.rebind live owner number).2 = table) ∧
    (∀ owner number, (table.rebind live owner number).1 = true →
      (∃ handler, table.handler? owner = some handler ∧
        (table.rebind live owner number).2.lookup live number =
          if live handler then some handler else none) ∧
      ∀ former, former ≠ number → table.byNumber.get? former = some owner →
        (table.rebind live owner number).2.byNumber.get? former = none ∧
        (table.rebind live owner number).2.lookup live former = none) ∧
    ∀ owner handler wire, wire ≠ owner → table.byNumber.get? wire ≠ some owner →
      (table.register owner handler).lookup live wire = table.lookup live wire := by
  intro board table live
  have consistent : table.Consistent := consistent_run Consistent.empty actions
  refine ⟨?spares, fun _ _ => rebind_of_refused, ?granted, ?registered⟩
  case spares =>
    intro owner other wire different claimed alive
    obtain ⟨handler, held, reached⟩ := lookup_of_isLive claimed alive
    have foreign : table.byNumber.get? wire ≠ some owner := fun own =>
      different (Option.some.inj (claimed.symm.trans own))
    have spared : ∀ {next : RouteTable}, next.byNumber.get? wire = table.byNumber.get? wire →
        next.handler? other = table.handler? other → next.lookup live wire = some handler := by
      intro next numbered handlers
      rw [← reached]
      refine lookup_congr numbered fun again againClaimed => ?_
      cases claimed.symm.trans againClaimed
      exact handlers
    refine ⟨handler, held, reached, spared ?_ ?_, fun fresh => spared ?_ ?_, fun number => ?_⟩
    · rw [consistent.byNumber_unregister, if_neg foreign]
    · rw [handler?_unregister, if_neg different]
    · rw [consistent.byNumber_registerUnnumbered, if_neg foreign]
    · rw [handler?_registerUnnumbered, if_neg different]
    · cases granted : (table.rebind live owner number).1 with
      | false => rw [rebind_of_refused granted, reached]
      | true =>
          have apart : wire ≠ number := by
            rintro rfl
            cases alive.symm.trans (consistent.isLive_of_granted granted claimed different)
          refine spared ?_ handler?_rebind
          rw [(consistent.byNumber_rebind granted).2, if_neg apart, if_neg foreign]
  case granted =>
    intro owner number granted
    obtain ⟨⟨handler, held⟩, numbers⟩ := consistent.byNumber_rebind granted
    refine ⟨⟨handler, held, ?_⟩, fun former different claimed => ?_⟩
    · rw [lookup_eq, numbers, if_pos rfl, Option.bind_some, handler?_rebind, held]
      rfl
    · have gone : (table.rebind live owner number).2.byNumber.get? former = none := by
        rw [numbers, if_neg different, if_pos claimed]
      exact ⟨gone, by rw [lookup_eq, gone, Option.bind_none]⟩
  case registered =>
    intro owner handler wire different foreign
    refine lookup_congr ?_ fun other claimed => ?_
    · rw [consistent.byNumber_register, if_neg different, if_neg foreign]
    · rw [handler?_register, if_neg]
      rintro rfl
      exact foreign claimed

/-- The network gives 9 to the session of local number 1, and 1 to that of local number 2. -/
example :
    let board := run { isAlive := fun _ => true }
      [.registerUnnumbered 1 0, .registerUnnumbered 2 1, .rebind 1 9, .rebind 2 1, .unregister 1]
    board.table.lookup board.isAlive 1 = some 1 ∧ board.table.lookup board.isAlive 9 = none := by
  decide

end Switchboard

end OnDemand
