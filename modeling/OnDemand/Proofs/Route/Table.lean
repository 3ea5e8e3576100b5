import OnDemand.Proofs.Data.KeyedList
import OnDemand.Route.Table

/-!
# Routes that agree with numbers

A table is consistent when its two maps are inverse to each other: a number on the wire
leads to a session exactly when the session has that number.  Every operation keeps a
table consistent, and apart from the session it is about, it leaves the handler of
every session in place.
-/

namespace OnDemand

namespace RouteTable

/-- A number on the wire leads to a session exactly when the session has that number. -/
structure Consistent (table : RouteTable) : Prop where
  keys : table.sessions.DistinctKeys
  numbered : ∀ {number owner}, table.byNumber.get? number = some owner ↔
    ∃ route, table.sessions.get? owner = some route ∧ route.number = some number

/-- A consistent table, except that one session has no number yet. -/
structure ConsistentBut (owner : UInt32) (table : RouteTable) : Prop where
  keys : table.sessions.DistinctKeys
  numbered : ∀ {number other}, table.byNumber.get? number = some other ↔
    other ≠ owner ∧ ∃ route, table.sessions.get? other = some route ∧
      route.number = some number

/-- The handler of a session. -/
def handler? (owner : UInt32) (table : RouteTable) : Option HandlerRef :=
  (table.sessions.get? owner).map Route.handler

variable {table : RouteTable} {owner other number : UInt32} {handler : HandlerRef}
  {live : HandlerRef → Bool}

theorem Consistent.empty : ({} : RouteTable).Consistent where
  keys := .nil
  numbered := by
    intro number owner
    exact iff_of_false nofun nofun

/-- The handlers of the table are those of its sessions that are alive. -/
theorem Consistent.mem_handlers (consistent : table.Consistent) :
    handler ∈ table.handlers live ↔
      live handler = true ∧ ∃ owner, table.handler? owner = some handler := by
  simp only [handlers, List.mem_filter, List.mem_map, handler?, Option.map_eq_some_iff]
  rw [and_comm]
  refine and_congr_right fun _ => ⟨?_, ?_⟩
  · rintro ⟨⟨owner, route⟩, member, rfl⟩
    exact ⟨owner, route, consistent.keys.get?_eq_some_iff.mpr member, rfl⟩
  · rintro ⟨owner, route, found, rfl⟩
    exact ⟨(owner, route), KeyedList.mem_of_get? found, rfl⟩

/-! ## Taking a session off -/

@[simp] theorem sessions_forgetNumber {number : Option UInt32} :
    (table.forgetNumber owner number).sessions = table.sessions := by
  simp only [forgetNumber]
  split
  · rfl
  · split <;> rfl

/-- Without its number, a session is the exception. -/
theorem Consistent.forgetNumber (consistent : table.Consistent) {route : Route}
    (found : table.sessions.get? owner = some route) :
    (table.forgetNumber owner route.number).ConsistentBut owner where
  keys := by
    rw [sessions_forgetNumber]
    exact consistent.keys
  numbered := by
    intro number other
    rw [sessions_forgetNumber, ← consistent.numbered]
    simp only [RouteTable.forgetNumber]
    cases own : route.number with
    | none =>
        simp only [iff_and_self]
        rintro numbered rfl
        obtain ⟨same, sameFound, sameNumber⟩ := consistent.numbered.mp numbered
        rw [found] at sameFound
        cases sameFound
        rw [own] at sameNumber
        cases sameNumber
    | some ownNumber =>
        have numbered : table.byNumber.get? ownNumber = some owner :=
          consistent.numbered.mpr ⟨route, found, own⟩
        simp only [numbered, if_true, KeyedList.get?_erase]
        by_cases same : number = ownNumber
        · simp only [same, if_true, numbered, reduceCtorEq, false_iff, Option.some.injEq,
            not_and, ne_eq]
          rintro different rfl
          exact different rfl
        · simp only [same, if_false, iff_and_self]
          rintro present rfl
          obtain ⟨again, againFound, againNumber⟩ := consistent.numbered.mp present
          rw [found] at againFound
          cases againFound
          rw [own] at againNumber
          exact same (Option.some.inj againNumber).symm

theorem sessions_unregister :
    (table.unregister owner).sessions.get? other =
      if other = owner then none else table.sessions.get? other := by
  simp only [unregister]
  split
  · next absent =>
      split
      · next same => rw [same, absent]
      · rfl
  · rw [sessions_forgetNumber, KeyedList.get?_erase]

@[simp] theorem handler?_unregister :
    (table.unregister owner).handler? other =
      if other = owner then none else table.handler? other := by
  rw [handler?, sessions_unregister, handler?]
  split <;> rfl

/-- The numbers on the wire of all other sessions stay. -/
theorem byNumber_unregister (different : other ≠ owner) :
    (table.unregister owner).byNumber.get? number = some other ↔
      table.byNumber.get? number = some other := by
  simp only [unregister]
  split
  · rfl
  · simp only [RouteTable.forgetNumber]
    split
    · rfl
    · split
      · next claimed =>
          simp only [KeyedList.get?_erase]
          split
          · next same =>
              subst same
              apply iff_of_false (Option.some_ne_none other).symm
              exact fun found => different (Option.some.inj (found.symm.trans claimed))
          · rfl
      · rfl

theorem Consistent.unregister (consistent : table.Consistent) (owner : UInt32) :
    (table.unregister owner).Consistent where
  keys := by
    simp only [RouteTable.unregister]
    split
    · exact consistent.keys
    · rw [sessions_forgetNumber]
      exact consistent.keys.erase owner
  numbered := by
    intro number other
    rw [sessions_unregister]
    simp only [RouteTable.unregister]
    cases found : table.sessions.get? owner with
    | none =>
        rw [consistent.numbered]
        split
        · next same => simp only [same, found, reduceCtorEq, false_and, exists_false]
        · rfl
    | some route =>
        have but := @(consistent.forgetNumber found).numbered number other
        rw [sessions_forgetNumber] at but
        have forgotten : (RouteTable.forgetNumber owner route.number
            { table with sessions := table.sessions.erase owner }).byNumber =
              (table.forgetNumber owner route.number).byNumber := by
          simp only [RouteTable.forgetNumber]
          split
          · rfl
          · split <;> rfl
        rw [forgotten, but]
        split
        · next same =>
            simp only [same, ne_eq, not_true_eq_false, false_and, reduceCtorEq, exists_false]
        · next different => simp only [ne_eq, different, not_false_eq_true, true_and]

/-- A session that is not on the table has no number. -/
theorem Consistent.byNumber_ne (consistent : table.Consistent)
    (absent : table.handler? owner = none) (number : UInt32) :
    table.byNumber.get? number ≠ some owner := by
  intro numbered
  obtain ⟨route, found, _⟩ := consistent.numbered.mp numbered
  rw [handler?, found] at absent
  cases absent

/-- A session that is not on the table is the exception. -/
theorem Consistent.consistentBut (consistent : table.Consistent)
    (absent : table.handler? owner = none) : table.ConsistentBut owner where
  keys := consistent.keys
  numbered := by
    intro number other
    rw [consistent.numbered, iff_and_self]
    rintro ⟨route, found, numbered⟩ rfl
    rw [handler?, found] at absent
    cases absent

/-! ## Giving a number to a session -/

theorem handler?_claimNumber (table : RouteTable) (owner number other : UInt32) :
    (table.claimNumber owner number).handler? other = table.handler? other := by
  simp only [claimNumber]
  split
  · rfl
  · split
    · rfl
    · simp only [handler?, KeyedList.get?_adjust]
      split
      · rw [Option.map_map]
        rfl
      · rfl

theorem byNumber_claimNumber :
    (table.claimNumber owner number).byNumber = table.byNumber.insert number owner := by
  simp only [claimNumber]
  split
  · rfl
  · split <;> rfl

/-- Once the exception has the number that it claims, the table is consistent. -/
theorem ConsistentBut.claimNumber (but : table.ConsistentBut owner) (number : UInt32)
    {claimed : RouteTable} (keys : claimed.sessions.DistinctKeys)
    (byNumber : claimed.byNumber = (table.claimNumber owner number).byNumber)
    (own : ∃ route, claimed.sessions.get? owner = some route ∧ route.number = some number)
    (others : ∀ other, other ≠ owner →
      claimed.sessions.get? other = (table.claimNumber owner number).sessions.get? other) :
    claimed.Consistent where
  keys := keys
  numbered := by
    intro wire other
    obtain ⟨ownRoute, ownFound, ownNumber⟩ := own
    rw [byNumber, byNumber_claimNumber, KeyedList.get?_insert]
    by_cases own : other = owner
    · subst own
      simp only [ownFound, Option.some.injEq, exists_eq_left', ownNumber]
      constructor
      · intro numbered
        split at numbered
        · next same => exact same.symm
        · exact absurd rfl (but.numbered.mp numbered).1
      · rintro rfl
        rw [if_pos rfl]
    · rw [others other own]
      simp only [RouteTable.claimNumber]
      by_cases same : wire = number
      · subst same
        rw [if_pos rfl]
        apply iff_of_false (fun equal => own (Option.some.inj equal).symm)
        rintro ⟨route, found, numbered⟩
        split at found
        · next unclaimed =>
            have claimed := but.numbered.mpr ⟨own, route, found, numbered⟩
            rw [unclaimed] at claimed
            cases claimed
        · next previous claimed =>
            split at found
            · next mine =>
                subst mine
                exact absurd rfl (but.numbered.mp claimed).1
            · simp only [KeyedList.get?_adjust] at found
              split at found
              · obtain ⟨before, _, rfl⟩ := Option.map_eq_some_iff.mp found
                cases numbered
              · next different =>
                  have again := but.numbered.mpr ⟨own, route, found, numbered⟩
                  rw [claimed] at again
                  exact different (Option.some.inj again).symm
      · rw [if_neg same, but.numbered]
        simp only [ne_eq, own, not_false_eq_true, true_and]
        split
        · rfl
        · next previous claimed =>
            split
            · rfl
            · simp only [KeyedList.get?_adjust]
              split
              · next prior =>
                  subst prior
                  obtain ⟨_, route, found, numbered⟩ := but.numbered.mp claimed
                  rw [found]
                  simp only [Option.map_some, Option.some.injEq, exists_eq_left', numbered,
                    reduceCtorEq, iff_false]
                  exact fun equal => same equal.symm
              · rfl

theorem keys_claimNumber (keys : table.sessions.DistinctKeys) :
    (table.claimNumber owner number).sessions.DistinctKeys := by
  simp only [claimNumber]
  split
  · exact keys
  · split
    · exact keys
    · simp only
      exact keys.adjust _ _

theorem Consistent.register (consistent : table.Consistent) (owner : UInt32)
    (handler : HandlerRef) : (table.register owner handler).Consistent := by
  have removed := consistent.unregister owner
  have but : (table.unregister owner).ConsistentBut owner :=
    removed.consistentBut (by rw [handler?_unregister, if_pos rfl])
  refine but.claimNumber owner ?_ rfl ?_ ?_
  · exact (keys_claimNumber removed.keys).insert _ _
  · refine ⟨⟨handler, some owner⟩, ?_, rfl⟩
    simp only [RouteTable.register, KeyedList.get?_insert, if_true]
  · intro other different
    simp only [RouteTable.register, KeyedList.get?_insert, different, if_false]

theorem handler?_register :
    (table.register owner handler).handler? other =
      if other = owner then some handler else table.handler? other := by
  simp only [register]
  simp only [handler?, KeyedList.get?_insert]
  split
  · rfl
  · next different =>
      have same := (table.unregister owner).handler?_claimNumber owner owner other
      rw [handler?_unregister, if_neg different] at same
      exact same

theorem Consistent.registerUnnumbered (consistent : table.Consistent) (owner : UInt32)
    (handler : HandlerRef) : (table.registerUnnumbered owner handler).Consistent where
  keys := by
    exact (consistent.unregister owner).keys.insert _ _
  numbered := by
    intro number other
    have removed := consistent.unregister owner
    have gone : (table.unregister owner).handler? owner = none := by
      rw [handler?_unregister, if_pos rfl]
    have absent := removed.byNumber_ne gone number
    simp only [RouteTable.registerUnnumbered, KeyedList.get?_insert]
    by_cases own : other = owner
    · subst own
      simp only [if_true, Option.some.injEq, exists_eq_left', reduceCtorEq, iff_false]
      exact absent
    · simp only [own, if_false]
      exact removed.numbered

theorem handler?_registerUnnumbered :
    (table.registerUnnumbered owner handler).handler? other =
      if other = owner then some handler else table.handler? other := by
  simp only [registerUnnumbered]
  simp only [handler?, KeyedList.get?_insert]
  split
  · rfl
  · next different => rw [sessions_unregister, if_neg different]

/-- Reaching a session by another number leaves all handlers in place. -/
theorem handler?_rebind :
    (table.rebind live owner number).2.handler? other = table.handler? other := by
  simp only [rebind]
  split
  · rfl
  · next route found =>
      split
      · rfl
      · split
        · rfl
        · have same := (table.forgetNumber owner route.number).handler?_claimNumber owner number
            other
          rw [handler?, handler?, sessions_forgetNumber] at same
          simp only [handler?, KeyedList.get?_adjust]
          split
          · rw [Option.map_map]
            exact same
          · exact same

theorem Consistent.rebind (consistent : table.Consistent) :
    (table.rebind live owner number).2.Consistent := by
  simp only [RouteTable.rebind]
  split
  · exact consistent
  · next route found =>
      split
      · exact consistent
      · split
        · exact consistent
        · have but := consistent.forgetNumber found
          refine but.claimNumber number ?_ rfl ?_ ?_
          · simp only
            exact (keys_claimNumber but.keys).adjust _ _
          · have same := (table.forgetNumber owner route.number).handler?_claimNumber owner number
              owner
            rw [handler?, handler?, sessions_forgetNumber, found, Option.map_some,
              Option.map_eq_some_iff] at same
            obtain ⟨kept, keptFound, _⟩ := same
            refine ⟨{ kept with number := some number }, ?_, rfl⟩
            simp only [KeyedList.get?_adjust, if_true, keptFound, Option.map_some]
          · intro other different
            simp only [KeyedList.get?_adjust, different, if_false]

/-! ## Numbers that are free -/

/-- No other session has the number. -/
def IsFree (owner number : UInt32) (table : RouteTable) : Prop :=
  ∀ other, table.byNumber.get? number = some other → other = owner

/-- A session that claims a free number takes it from no other. -/
theorem IsFree.sessions_claimNumber (free : table.IsFree owner number) :
    (table.claimNumber owner number).sessions = table.sessions := by
  simp only [claimNumber]
  split
  · rfl
  · next previous claimed => rw [if_pos (free previous claimed)]

theorem IsFree.unregister (free : table.IsFree owner number) :
    (table.unregister owner).IsFree owner number := by
  intro other claimed
  by_cases own : other = owner
  · exact own
  · exact free other ((byNumber_unregister own).mp claimed)

theorem IsFree.forgetNumber (free : table.IsFree owner number) {forgotten : Option UInt32} :
    (table.forgetNumber owner forgotten).IsFree owner number := by
  intro other claimed
  simp only [RouteTable.forgetNumber] at claimed
  split at claimed
  · exact free other claimed
  · split at claimed
    · simp only [KeyedList.get?_erase] at claimed
      split at claimed
      · cases claimed
      · exact free other claimed
    · exact free other claimed

/-- A session whose own number is free is put on the table beside all others. -/
theorem IsFree.sessions_register (free : table.IsFree owner owner) :
    (table.register owner handler).sessions.get? other =
      if other = owner then some ⟨handler, some owner⟩ else table.sessions.get? other := by
  simp only [register, KeyedList.get?_insert, free.unregister.sessions_claimNumber]
  split
  · rfl
  · next different => rw [sessions_unregister, if_neg different]

theorem sessions_registerUnnumbered :
    (table.registerUnnumbered owner handler).sessions.get? other =
      if other = owner then some ⟨handler, none⟩ else table.sessions.get? other := by
  simp only [registerUnnumbered, KeyedList.get?_insert]
  split
  · rfl
  · next different => rw [sessions_unregister, if_neg different]

/-- A session on the table is not refused a free number, and takes it from no other. -/
theorem IsFree.rebind (free : table.IsFree owner number) {route : Route}
    (found : table.sessions.get? owner = some route) :
    (table.rebind live owner number).1 = true ∧ ∀ other,
      (table.rebind live owner number).2.sessions.get? other =
        if other = owner then some { route with number := some number }
        else table.sessions.get? other := by
  simp only [RouteTable.rebind, found]
  split
  · next same =>
      refine ⟨rfl, fun other => ?_⟩
      split
      · next own => rw [own, found, ← same]
      · rfl
  · have granted : (table.byNumber.get? number).any (fun other =>
        other ≠ owner && table.isLive live other) = false := by
      rw [Option.any_eq_false]
      intro other claimed
      rw [free other claimed]
      simp only [ne_eq, not_true_eq_false, decide_false, Bool.false_and]
    simp only [granted, Bool.false_eq_true, if_false, KeyedList.get?_adjust,
      free.forgetNumber.sessions_claimNumber, sessions_forgetNumber]
    refine ⟨trivial, fun other => ?_⟩
    split
    · next own => rw [own, found, Option.map_some]
    · rfl

/-- A number that is another live session's is refused. -/
theorem rebind_of_claimed {route : Route} (found : table.sessions.get? owner = some route)
    (foreign : route.number ≠ some number) (claimed : table.byNumber.get? number = some other)
    (different : other ≠ owner) (alive : table.isLive live other = true) :
    table.rebind live owner number = (false, table) := by
  simp only [RouteTable.rebind, found, foreign, if_false, claimed, Option.any_some, alive, ne_eq,
    different, not_false_eq_true, decide_true, Bool.and_self, if_true]

end RouteTable

end OnDemand
