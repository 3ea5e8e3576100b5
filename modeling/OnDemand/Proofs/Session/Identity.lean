import OnDemand.Proofs.Session.Traced

/-!
# What a transaction stands for

A run begins with the counter of transactions set to any number, or not set at all.  As long as not
all transactions have been drawn, each stands for one request: no two requests are submitted in it,
and no two sessions await it, nor does one session await it twice.  So whoever looks for the session
that awaits an answer finds the same in whichever order the sessions are gone through.
-/

namespace OnDemand

/-! ## The order of routes -/

/-- What is found among values of which at most one is looked for does not depend on their
order. -/
theorem find?_eq_of_perm {α : Type} {values others : List α} {sought : α → Bool}
    (perm : values.Perm others)
    (unique : ∀ {one other}, sought one = true → sought other = true → one = other) :
    values.find? sought = others.find? sought := by
  cases found : others.find? sought with
  | none =>
      apply List.find?_eq_none.mpr
      exact fun value member => List.find?_eq_none.mp found value (perm.subset member)
  | some value =>
      have fits := List.find?_some found
      have member := perm.symm.subset (List.mem_of_find?_eq_some found)
      cases again : values.find? sought with
      | none => exact absurd fits (List.find?_eq_none.mp again value member)
      | some other => rw [unique (List.find?_some again) fits]

/-- The table answers alike in whichever order its sessions are listed, as long as a transaction is
awaited by one handler. -/
theorem RouteTable.routeTransaction_eq_of_perm {table other : RouteTable}
    {live : HandlerRef → Bool} {awaits : HandlerRef → UInt32 → Bool} {transaction : UInt32}
    (perm : other.sessions.Perm table.sessions)
    (unique : ∀ {one two}, awaits one transaction = true → awaits two transaction = true →
      one = two) :
    other.routeTransaction live awaits transaction =
      table.routeTransaction live awaits transaction :=
  find?_eq_of_perm ((perm.map _).filter _) unique

/-! ## Runs -/

/-- What can happen to a client, also while it begins conditional access for a session. -/
inductive Happening where
  | act (action : ClientAction)
  /-- From now on a datagram, or none, waits to arrive while the next start call of the
  conditional-access component runs. -/
  | setArrival (arrival : Option Bytes)

namespace Client

variable {earlier client : Client} {happenings : List Happening}

/-- What a happening does to a client. -/
def meet (client : Client) : Happening → Client
  | .act action => client.perform action
  | .setArrival arrival => { client with ca := { client.ca with arrival } }

/-- What happenings do to a client, one after another. -/
def meetAll (client : Client) (happenings : List Happening) : Client := happenings.foldl meet client

theorem meetAll_append (client : Client) (first later : List Happening) :
    client.meetAll (first ++ later) = (client.meetAll first).meetAll later :=
  List.foldl_append

/-- Actions alone make up a run of the client. -/
theorem meetAll_map_act (client : Client) (actions : List ClientAction) :
    client.meetAll (actions.map .act) = client.run actions :=
  List.foldl_map

/-- Whenever the counter is set, nothing has been drawn from it yet. -/
def SeedsFirst (client : Client) (happenings : List Happening) : Prop :=
  ∀ before number, before ++ [.act (.seedTransaction number)] <+: happenings →
    (client.meetAll before).drawn = []

/-- A client that is at most seeded before everything else. -/
theorem seedsFirst_cons {first : Happening} (unused : client.drawn = [])
    (unseeded : ∀ number, .act (.seedTransaction number) ∉ happenings) :
    client.SeedsFirst (first :: happenings) := by
  intro before number isPrefix
  cases before with
  | nil => exact unused
  | cons head rest =>
      have later := (List.cons_prefix_cons.mp isPrefix).2
      exact absurd (later.subset (List.mem_append_right _ (List.mem_singleton_self _)))
        (unseeded number)

theorem SeedsFirst.of_append {first later : List Happening}
    (seeds : client.SeedsFirst (first ++ later)) :
    client.SeedsFirst first ∧ (client.meetAll first).SeedsFirst later := by
  refine ⟨fun before number isPrefix => ?_, fun before number isPrefix => ?_⟩
  · exact seeds before number (isPrefix.trans (List.prefix_append first later))
  · rw [← meetAll_append]
    apply seeds _ number
    rw [List.append_assoc]
    exact (List.prefix_append_right_inj first).mpr isPrefix

theorem Traced.meet (traced : Traced earlier client) {happening : Happening}
    (seeds : ∀ number, happening = .act (.seedTransaction number) → client.drawn = []) :
    Traced earlier (client.meet happening) := by
  cases happening with
  | act action => exact traced.perform fun number same => seeds number (congrArg _ same)
  | setArrival arrival => exact traced.setArrival arrival

theorem Traced.meetAll (traced : Traced earlier client) (seeds : client.SeedsFirst happenings) :
    Traced earlier (client.meetAll happenings) := by
  induction happenings generalizing client with
  | nil => exact traced
  | cons happening rest ih =>
      have split : client.SeedsFirst ([happening] ++ rest) := seeds
      obtain ⟨first, later⟩ := split.of_append
      refine ih (traced.meet fun number same => ?_) later
      exact first [] number (same ▸ List.prefix_refl _)

/-- Each transaction stands for one request. -/
structure Identifies (client : Client) : Prop where
  nonzero : 0 ∉ client.drawn
  distinct : client.drawn.Nodup
  /-- No transaction is awaited by two sessions, or for two answers by one. -/
  apart : ∀ {ref other session otherSession kind otherKind transaction},
    client.session? ref = some session → session.slot kind = some transaction →
    client.session? other = some otherSession →
    otherSession.slot otherKind = some transaction → ref = other ∧ kind = otherKind
  /-- The session that awaits a transaction is found in any order of the routes. -/
  ordered : ∀ {table : RouteTable} {transaction}, table.sessions.Perm client.routes.sessions →
    table.routeTransaction client.isLive client.awaits transaction =
      client.routes.routeTransaction client.isLive client.awaits transaction
  /-- No two requests were ever submitted in one transaction. -/
  submitted : ∀ {one other transaction}, client.courier.Submitted one transaction →
    client.courier.Submitted other transaction → one = other

theorem Traced.identifies (traced : Traced earlier client)
    (few : client.drawn.length < 2 ^ 32 - 1) : client.Identifies := by
  obtain ⟨first, counted⟩ := traced.counted
  have nodup := counted.nodup few
  constructor
  case nonzero => exact counted.zero_not_mem
  case distinct => exact nodup
  case apart => exact traced.apart nodup
  case ordered =>
    intro table transaction perm
    apply RouteTable.routeTransaction_eq_of_perm perm
    intro one other oneAwaits otherAwaits
    obtain ⟨session, found, awaits⟩ := (Option.any_eq_true ..).mp oneAwaits
    obtain ⟨otherSession, otherFound, awaitsToo⟩ := (Option.any_eq_true ..).mp otherAwaits
    obtain ⟨kind, slot⟩ := Session.awaits_iff.mp awaits
    obtain ⟨otherKind, otherSlot⟩ := Session.awaits_iff.mp awaitsToo
    exact (traced.apart nodup found slot otherFound otherSlot).1
  case submitted => exact traced.registered.once nodup

/-- In a run in which the counter is set before anything is drawn, if ever, and not all
transactions are drawn, each transaction stands for one request all the time, and no request is
submitted in a transaction in which another is kept. -/
theorem identifies_of_seedsFirst (settings : ClientSettings) (happenings : List Happening)
    (seeds : (start settings).SeedsFirst happenings)
    (few : ((start settings).meetAll happenings).drawn.length < 2 ^ 32 - 1) :
    (∀ before, before <+: happenings → ((start settings).meetAll before).Identifies) ∧
      ∀ before happening, before ++ [happening] <+: happenings →
        ¬ ((start settings).meetAll before).courier.Replaces
          ((start settings).meetAll (before ++ [happening])).courier := by
  have reached : ∀ before, before <+: happenings →
      Traced (start settings) ((start settings).meetAll before) ∧
        ((start settings).meetAll before).Identifies := by
    rintro before ⟨later, rfl⟩
    -- what was drawn until then is still drawn in the end, so that was not all transactions either
    obtain ⟨seedsBefore, seedsLater⟩ := seeds.of_append
    have traced := (Traced.start settings).meetAll seedsBefore
    have grown := (traced.restart.meetAll seedsLater).drawn
    rw [← meetAll_append] at grown
    exact ⟨traced, traced.identifies (Nat.lt_of_le_of_lt grown.length_le few)⟩
  refine ⟨fun before isPrefix => (reached before isPrefix).2, ?_⟩
  intro before happening isPrefix
  obtain ⟨traced, _⟩ := reached before ((List.prefix_append _ _).trans isPrefix)
  obtain ⟨tracedNext, identifies⟩ := reached _ isPrefix
  obtain ⟨after, rfl⟩ := isPrefix
  have next := traced.restart.meetAll seeds.of_append.1.of_append.2
  rw [← meetAll_append] at next
  exact traced.registered.not_replaces tracedNext.registered identifies.distinct next.attempts

/-- Two sessions are set up while the counter wraps, and one of them asks for its status. -/
def wrappingRun : List Happening :=
  [.act (.seedTransaction 0xFFFFFFFF), .act (.create (.ofVendor .arris) {}),
    .act (.create (.ofVendor .arris) {}), .act (.operate .setup 0), .act (.operate .setup 1),
    .act (.operate .requestStatus 0)]

theorem identifies_of_seedsFirst_wrapping :
    (start sampleSettings).SeedsFirst wrappingRun ∧
      ((start sampleSettings).meetAll wrappingRun).drawn = [2, 1, 0xFFFFFFFF] ∧
      ∀ before, before <+: wrappingRun → ((start sampleSettings).meetAll before).Identifies := by
  have seeds : (start sampleSettings).SeedsFirst wrappingRun :=
    seedsFirst_cons rfl (by simp)
  refine ⟨seeds, by decide +kernel, ?_⟩
  exact (identifies_of_seedsFirst sampleSettings wrappingRun seeds (by decide +kernel)).1

end Client

end OnDemand
