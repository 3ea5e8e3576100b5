import OnDemand.Proofs.Session.Abiding

/-!
# Sessions are reached by the numbers in their names

The network chooses the number in the name of a session as it likes: it may be the local number
of another session, or the number of one that is gone.  Yet a session that has a name is reached
by its number.  An answer that carries the number of another live session is brought to that
session, so no session ever takes a number that is another's.
-/

namespace OnDemand

namespace Client

variable {client next : Client} {ref other : SessionRef} {session otherSession : Session}
  {message : Signal} {confirm : SetupConfirm}

/-- A session on the routes that has a name is reached by the number in it, and a client that
names its sessions itself names them by their own numbers. -/
structure Numbered (client : Client) : Prop where
  wire : ∀ {ref session route}, client.session? ref = some session →
    session.id.isZero = false → client.routes.sessions.get? session.number = some route →
    route.number = some session.id.number
  own : client.settings.serverAssigns = false → ∀ {ref session},
    client.session? ref = some session → session.id = ⟨client.settings.clientMac, session.number⟩

theorem Resides.numbered (resides : Resides client next) (numbered : client.Numbered) :
    next.Numbered where
  wire found named routed := by
    obtain ⟨before, beforeFound, number, id⟩ := resides.names found
    rw [id]
    exact numbered.wire beforeFound (id ▸ named) (number ▸ resides.routes routed)
  own assigns := by
    intro ref after found
    obtain ⟨before, beforeFound, number, id⟩ := resides.names found
    rw [id, number, resides.settings]
    exact numbered.own (resides.settings ▸ assigns) beforeFound

theorem Numbered.start (settings : ClientSettings) : (Client.start settings).Numbered where
  wire found := nomatch (session?_start settings _).symm.trans found
  own _ := fun found => nomatch (session?_start settings _).symm.trans found

theorem Asks.resides (asks : Asks ref client next) : Resides client next := by
  cases asks with
  | @intro quiet _ _ sender _ mark message retries quieted found _ _ _ marks id _ rest =>
      have asked : Resides quiet (quiet.asking ref mark sender message retries).2 := by
        refine .of_modify rfl (fun again againFound => ?_) rfl rfl
        cases found.symm.trans againFound
        exact ⟨marks.number, id⟩
      exact (quieted.toResides.trans asked).trans rest.toResides

/-! ## New sessions -/

/-- No session has the number of the session that is created next. -/
theorem Sound.isFree_next (sound : client.Sound) (numbered : client.Numbered)
    (assigns : client.settings.serverAssigns = false) :
    client.routes.IsFree client.nextNumber client.nextNumber := by
  intro owner claimed
  obtain ⟨route, routed, own⟩ := sound.routes.numbered.mp claimed
  have handler : client.routes.handler? owner = some route.handler := by
    rw [RouteTable.handler?, routed, Option.map_some]
  obtain ⟨session, found, number, _⟩ := sound.routed.mp handler
  have named := numbered.own assigns found
  have unnamed : session.id.isZero = false := by
    rw [SessionId.isZero, beq_eq_false_iff_ne, named]
    intro zero
    have counted := sound.number found
    rw [(SessionId.mk.inj zero).2] at counted
    cases counted
  have same := numbered.wire found unnamed (number ▸ routed)
  rw [own, named] at same
  exact absurd (Option.some.inj same).symm (sound.number_ne_next found)

theorem Numbered.create (sound : client.Sound) (numbered : client.Numbered)
    (few : client.sessions.length < 2 ^ 32 - 2) (profile : VendorProfile) (asset : AssetRequest) :
    (client.create profile asset).2.Numbered := by
  have drawn := (sound.draw_number few).1
  cases assigns : client.settings.serverAssigns with
  | true =>
      simp only [Client.create, assigns, drawn, if_true]
      constructor
      case own => exact fun never => nomatch assigns.symm.trans never
      case wire =>
        intro ref session route found named routed
        rw [RouteTable.sessions_registerUnnumbered] at routed
        rcases (session?_append rfl).mp found with old | ⟨_, rfl⟩
        · rw [if_neg (sound.number_ne_next old)] at routed
          exact numbered.wire old named routed
        · cases named
  | false =>
      have free := sound.isFree_next numbered assigns
      simp only [Client.create, assigns, drawn, Bool.false_eq_true, if_false]
      constructor
      case own =>
        intro _ ref session found
        rcases (session?_append rfl).mp found with old | ⟨_, rfl⟩
        · exact numbered.own assigns old
        · rfl
      case wire =>
        intro ref session route found named routed
        rw [free.sessions_register] at routed
        rcases (session?_append rfl).mp found with old | ⟨_, rfl⟩
        · rw [if_neg (sound.number_ne_next old)] at routed
          exact numbered.wire old named routed
        · rw [if_pos rfl] at routed
          cases routed
          rfl

/-! ## Names that the network chooses -/

/-- A session on the table is held by its owner. -/
theorem Sound.isLive_of_routed (sound : client.Sound) {owner : UInt32} {route : Route}
    (routed : client.routes.sessions.get? owner = some route) :
    client.isLive route.handler = true ∧
      ∃ session, client.session? route.handler = some session ∧ session.number = owner := by
  have handler : client.routes.handler? owner = some route.handler := by
    rw [RouteTable.handler?, routed, Option.map_some]
  obtain ⟨session, found, number, active⟩ := sound.routed.mp handler
  refine ⟨?_, session, found, number⟩
  rw [isLive, found]
  exact active.1

/-- A confirm is brought to a session only if no other has the number that it carries. -/
theorem Sound.isFree_of_route (sound : client.Sound) (body : message.body = .setupConfirm confirm)
    (named : confirm.session.isZero = false) (routed : client.route message = some ref)
    (found : client.session? ref = some session) :
    client.routes.IsFree session.number confirm.session.number := by
  intro owner claimed
  obtain ⟨route, present, _⟩ := sound.routes.numbered.mp claimed
  obtain ⟨live, holder, holderFound, number⟩ := sound.isLive_of_routed present
  have names : message.body.session? = some confirm.session := by rw [body]; rfl
  have reached : client.routes.lookup client.isLive confirm.session.number =
      some route.handler := by
    simp only [RouteTable.lookup, claimed, present, live, Option.bind_eq_bind, Option.bind_some,
      if_true]
  rw [route_of_named names named, reached, Option.some_or] at routed
  cases routed
  cases found.symm.trans holderFound
  exact number.symm

/-- A number is free for a session, or another live session has it and it is refused. -/
theorem Sound.rebind_cases (sound : client.Sound) {owner : UInt32} {route : Route}
    (found : client.routes.sessions.get? owner = some route) (number : UInt32) :
    client.routes.IsFree owner number ∨
      client.routes.rebind client.isLive owner number = (false, client.routes) := by
  by_cases free : client.routes.IsFree owner number
  · exact .inl free
  · simp only [RouteTable.IsFree] at free
    push Not at free
    obtain ⟨other, claimed, different⟩ := free
    obtain ⟨otherRoute, present, _⟩ := sound.routes.numbered.mp claimed
    refine .inr (RouteTable.rebind_of_claimed found ?_ claimed different ?_)
    · intro same
      have own := sound.routes.numbered.mpr ⟨route, found, same⟩
      exact different (Option.some.inj (claimed.symm.trans own))
    · rw [RouteTable.isLive, present]
      exact (sound.isLive_of_routed present).1

/-- A session that takes a name is reached by its number. -/
theorem Numbered.adoptId (sound : client.Sound) (numbered : client.Numbered)
    (found : client.session? ref = some session) (active : session.IsActive)
    (free : confirm.session.isZero = false →
      client.routes.IsFree session.number confirm.session.number) :
    (client.adoptId ref session confirm).Numbered := by
  simp only [Client.adoptId]
  split
  · next unnamed =>
      have handler := sound.routed.mpr ⟨session, found, rfl, active⟩
      obtain ⟨route, routed, _⟩ := Option.map_eq_some_iff.mp handler
      have others : ∀ {other otherSession}, client.session? other = some otherSession →
          other ≠ ref → otherSession.number ≠ session.number :=
        fun otherFound different same =>
          different ((sound.number_eq_iff found otherFound).mp same)
      have assigns : client.settings.serverAssigns ≠ false := by
        intro assigns
        have zero := beq_iff_eq.mp unnamed
        rw [numbered.own assigns found] at zero
        have counted := sound.number found
        rw [(SessionId.mk.inj zero).2] at counted
        cases counted
      constructor
      case own => exact fun never => absurd never assigns
      case wire =>
        intro other after otherRoute afterFound named present
        obtain ⟨before, beforeFound, rfl⟩ := session?_modify_eq_some.mp afterFound
        by_cases own : other = ref
        · subst own
          rw [if_pos rfl] at named present ⊢
          cases found.symm.trans beforeFound
          change (client.routes.rebind client.isLive session.number
            confirm.session.number).2.sessions.get? session.number = some otherRoute at present
          rw [((free named).rebind routed).2, if_pos rfl] at present
          cases present
          rfl
        · rw [if_neg own] at named present ⊢
          change (client.routes.rebind client.isLive session.number
            confirm.session.number).2.sessions.get? before.number = some otherRoute at present
          rcases sound.rebind_cases routed confirm.session.number with free | refused
          · rw [(free.rebind routed).2, if_neg (others beforeFound own)] at present
            exact numbered.wire beforeFound named present
          · rw [refused] at present
            exact numbered.wire beforeFound named present
  · exact numbered

/-! ## Runs -/

theorem Numbered.dispatch (sound : client.Sound) (numbered : client.Numbered)
    (datagram : Bytes) : (client.dispatch datagram).Numbered := by
  simp only [Client.dispatch, receiveBytes]
  split
  · exact numbered
  · next message _ =>
      rcases receive_abides sound.orderly isIdle_arrival message with
        abides | ⟨ref, session, confirm, routed, found, body, abides⟩
      · exact abides.toResides.numbered numbered
      · have settled := (Evolves.settled sound message).sound
        have brought := (route_settled message client).trans routed
        have present := (session?_settled message client ref).trans found
        obtain ⟨again, againFound, active⟩ := settled.active_of_route brought
        cases present.symm.trans againFound
        have named := ((Abides.settled message client).toResides.numbered numbered).adoptId settled
          present active fun named => settled.isFree_of_route body named brought present
        exact abides.toResides.numbered named

theorem Numbered.perform (sound : client.Sound) (numbered : client.Numbered)
    {action : ClientAction} (few : client.sessions.length + action.created < 2 ^ 32 - 1) :
    (client.perform action).Numbered := by
  obtain ⟨profile, asset, rfl⟩ | ⟨datagram, rfl⟩ | abides | ⟨ref, asks⟩ :=
    perform_cases sound.orderly action
  · exact numbered.create sound (Nat.lt_of_succ_lt_succ few) profile asset
  · exact numbered.dispatch sound datagram
  · exact abides.toResides.numbered numbered
  · exact asks.resides.numbered numbered

theorem Numbered.run (sound : client.Sound) (numbered : client.Numbered)
    {actions : List ClientAction}
    (few : client.sessions.length + ClientAction.allCreated actions < 2 ^ 32 - 1) :
    (client.run actions).Numbered := by
  induction actions generalizing client with
  | nil => exact numbered
  | cons action rest ih =>
      rw [ClientAction.allCreated, List.map_cons, List.sum_cons, ← Nat.add_assoc] at few
      have now := Nat.lt_of_le_of_lt (Nat.le_add_right _ _) few
      have first := Evolves.perform sound now
      refine ih first.sound (numbered.perform sound now) ?_
      rw [first.length]
      exact few

/-- A live session that has a name is found by the number in it. -/
theorem Sound.lookup_eq (sound : client.Sound) (numbered : client.Numbered)
    (found : client.session? ref = some session) (active : session.IsActive)
    (named : session.id.isZero = false) :
    client.routes.lookup client.isLive session.id.number = some ref := by
  have handler := sound.routed.mpr ⟨session, found, rfl, active⟩
  obtain ⟨route, routed, own⟩ := Option.map_eq_some_iff.mp handler
  have claimed := sound.routes.numbered.mpr ⟨route, routed, numbered.wire found named routed⟩
  have live : client.isLive ref = true := own ▸ (sound.isLive_of_routed routed).1
  simp only [RouteTable.lookup, claimed, routed, own, live, Option.bind_eq_bind, Option.bind_some,
    if_true]

/-- In every run from the start, as long as numbers for sessions do not run out, each live
session that is established and has a name is the one that the routes lead to by the number in
it.  So no two of them have one number, and no confirm that carries a name and is brought to a
session has a number that the session is refused. -/
theorem established_reachable (settings : ClientSettings) (actions : List ClientAction)
    (few : ClientAction.allCreated actions < 2 ^ 32 - 1) :
    let client := (start settings).run actions
    (∀ ref session, client.session? ref = some session → session.isHeld = true →
      session.state.isEstablished = true → session.id.isZero = false →
      client.routes.lookup client.isLive session.id.number = some ref) ∧
    (∀ ref other session otherSession,
      client.session? ref = some session → session.isHeld = true →
      session.state.isEstablished = true → session.id.isZero = false →
      client.session? other = some otherSession → otherSession.isHeld = true →
      otherSession.state.isEstablished = true → otherSession.id.isZero = false →
      session.id.number = otherSession.id.number → ref = other) ∧
    (∀ message confirm ref session, message.body = .setupConfirm confirm →
      confirm.session.isZero = false → client.route message = some ref →
      client.session? ref = some session →
      (client.routes.rebind client.isLive session.number confirm.session.number).1 = true) := by
  have sound := (Evolves.start settings few).sound
  have numbered := (Numbered.start settings).run (.start settings)
    (Nat.lt_of_le_of_lt (Nat.le_of_eq (Nat.zero_add _)) few)
  intro client
  have reached : ∀ {ref session}, client.session? ref = some session → session.isHeld = true →
      session.state.isEstablished = true → session.id.isZero = false →
      client.routes.lookup client.isLive session.id.number = some ref :=
    fun found held established => sound.lookup_eq numbered found
      ⟨held, SessionState.ne_released_of_isEstablished established⟩
  refine ⟨fun _ _ => reached, ?_, ?_⟩
  · intro ref other session otherSession found held established named otherFound otherHeld
      otherEstablished otherNamed same
    have first := reached found held established named
    rw [same, reached otherFound otherHeld otherEstablished otherNamed] at first
    exact (Option.some.inj first).symm
  · intro message confirm ref session body named routed found
    obtain ⟨again, againFound, active⟩ := sound.active_of_route routed
    cases found.symm.trans againFound
    have handler := sound.routed.mpr ⟨session, found, rfl, active⟩
    obtain ⟨route, present, _⟩ := Option.map_eq_some_iff.mp handler
    exact ((sound.isFree_of_route body named routed found).rebind present).1

/-- Settings under which the network names the sessions. -/
def networkNames : ClientSettings := { sampleSettings with serverAssigns := true }

/-- Two sessions are granted, and the second one is named by the local number of the first. -/
def overlappingNumbers : List ClientAction :=
  let confirm (number : UInt32) :=
    sampleDatagram (.setupConfirm ⟨sampleId number, ⟨0⟩, .zero, [], {}⟩)
  [.create (.ofVendor .arris) {}, .create (.ofVendor .arris) {}, .operate .setup 0,
    .operate .setup 1, .dispatch (confirm 9 1), .dispatch (confirm 1 2)]

theorem established_reachable_overlapping :
    ClientAction.allCreated overlappingNumbers < 2 ^ 32 - 1 ∧
    ∃ session, ((start networkNames).run overlappingNumbers).session? 1 = some session ∧
      session.number = 2 ∧ session.id.number = 1 ∧
      ((start networkNames).run overlappingNumbers).routes.lookup
        ((start networkNames).run overlappingNumbers).isLive session.id.number = some 1 :=
  ⟨by decide, _, rfl, rfl, rfl,
    (established_reachable networkNames overlappingNumbers (by decide)).1 1 _ rfl rfl rfl rfl⟩

end Client

end OnDemand
