import Mathlib.Algebra.GroupWithZero.Nat
import OnDemand.Proofs.Session.Evolution
import OnDemand.Proofs.Session.Operations

/-!
# Runs of a client

A client goes through any sequence of new sessions, operations of their owners, datagrams
of any content, passing time, and changes of what its transport and its
conditional-access component refuse.  As long as numbers for sessions do not run out, it
stays sound in every run.
-/

namespace OnDemand

/-- What the owner of a session can do with it. -/
inductive OwnerAction where
  | setup
  | connect
  | sendKeepAlive
  | requestStatus
  | reset
  | teardown
  | awaitReady
  | takeEvents
  | drop
  deriving Repr, DecidableEq

/-- What can happen to a client. -/
inductive ClientAction where
  | create (profile : VendorProfile) (asset : AssetRequest)
  | operate (action : OwnerAction) (ref : SessionRef)
  | dispatch (datagram : Bytes)
  | advance (duration : Time)
  /-- The first alarm rings, if it is due after some time, and no other. -/
  | ringFirst (duration : Time)
  /-- From now on the transport refuses other datagrams. -/
  | setRefusals (refuses : List SendAttempt → Bool)
  /-- From now on the conditional-access component fails in other calls. -/
  | setFaults (fault : List CaCall → CaCall → Option String)
  /-- Transactions are drawn from a number on. -/
  | seedTransaction (next : UInt32)

/-- The settings of a client that repeats each request three times, two seconds apart. -/
def sampleSettings : ClientSettings where
  managerIp := ⟨10, 0, 0, 1⟩
  clientIp := ⟨10, 0, 0, 2⟩
  clientMac := ⟨.ofBytes 6 [0x00, 0x1A, 0x2B, 0x3C, 0x4D, 0x5E]⟩
  retryCount := 3
  messageTimer := 2000000
  keepAliveInterval := 300000000
  serverAssigns := false

/-- The identifier that the client gives to the session of a number. -/
def sampleId (number : UInt32) : SessionId := ⟨sampleSettings.clientMac, number⟩

/-- The datagram of a message that is short enough to have one. -/
def sampleDatagram (body : SignalBody) (transaction : UInt32) : Bytes :=
  (Signal.encode ⟨transaction, [], body⟩).toOption.getD []

/-- How many sessions an action creates. -/
def ClientAction.created : ClientAction → Nat
  | .create _ _ => 1
  | _ => 0

namespace Client

/-- What the action of its owner does to a session. -/
def operate (action : OwnerAction) (ref : SessionRef) (client : Client) : Client :=
  match action with
  | .setup => (client.setup ref).2
  | .connect => (client.connect ref).2
  | .sendKeepAlive => (client.sendKeepAlive ref).2
  | .requestStatus => (client.requestStatus ref).2
  | .reset => (client.reset ref).2
  | .teardown => (client.teardown ref).2
  | .awaitReady => (client.awaitReady ref).2
  | .takeEvents => (client.takeEvents ref).2
  | .drop => client.drop ref

/-- What an action does to a client.  Only who holds a session can operate on it. -/
def perform (client : Client) (action : ClientAction) : Client :=
  match action with
  | .create profile asset => (client.create profile asset).2
  | .operate action ref => if client.isLive ref then client.operate action ref else client
  | .dispatch datagram => client.dispatch datagram
  | .advance duration => client.advance duration
  | .ringFirst duration => (client.step (client.courier.agenda.now + duration)).getD client
  | .setRefusals refuses =>
      { client with
        courier := { client.courier with transport := { client.courier.transport with refuses } } }
  | .setFaults fault => { client with ca := { client.ca with fault } }
  | .seedTransaction next => client.seedTransaction next

/-- What actions do to a client, one after another. -/
def run (client : Client) (actions : List ClientAction) : Client :=
  actions.foldl perform client

end Client

/-- How many sessions actions create. -/
def ClientAction.allCreated (actions : List ClientAction) : Nat :=
  (actions.map ClientAction.created).sum

@[simp] theorem ClientAction.allCreated_append (earlier later : List ClientAction) :
    allCreated (earlier ++ later) = allCreated earlier + allCreated later := by
  simp only [allCreated, List.map_append, List.sum_append]

namespace Client

variable {client next : Client} {ref : SessionRef} {session : Session}

/-! ## New sessions -/

theorem session?_start (settings : ClientSettings) (ref : SessionRef) :
    (Client.start settings).session? ref = none := rfl

/-- A client is sound before it has any sessions. -/
theorem Sound.start (settings : ClientSettings) : (Client.start settings).Sound where
  courier := .start settings.messageTimer
  routes := .empty
  quiet := rfl
  next := rfl
  number found := nomatch (session?_start settings _).symm.trans found
  coherent found := nomatch (session?_start settings _).symm.trans found
  routed := by
    intro owner ref
    apply iff_of_false nofun
    rintro ⟨_, found, _⟩
    cases (session?_start settings ref).symm.trans found
  owned found := nomatch found
  ringing set := nomatch set
  named found := nomatch (session?_start settings _).symm.trans found
  awaited found := nomatch (session?_start settings _).symm.trans found
  kept found := nomatch found
  apart _ := fun found => nomatch (session?_start settings _).symm.trans found

/-- The number of the session that is created next. -/
theorem Sound.draw_number (sound : client.Sound) (few : client.sessions.length < 2 ^ 32 - 2) :
    draw client.nextNumber = (client.nextNumber, client.nextNumber + 1) ∧
      (client.nextNumber + 1).toNat = client.sessions.length + 2 := by
  have next := sound.next
  refine ⟨if_neg ?_, ?_⟩
  · rintro zero
    rw [zero] at next
    exact absurd next (Nat.succ_ne_zero _).symm
  · rw [UInt32.toNat_add, next]
    exact Nat.mod_eq_of_lt (Nat.lt_of_lt_of_le (Nat.add_lt_add_right few 2) (by decide))

theorem session?_append {fresh after : Session}
    (sessions : next.sessions = client.sessions ++ [fresh]) :
    next.session? ref = some after ↔
      client.session? ref = some after ∨ ref = client.sessions.length ∧ after = fresh := by
  rw [session?, session?, sessions]
  by_cases old : ref < client.sessions.length
  · rw [List.getElem?_append_left old]
    exact (or_iff_left fun new => Nat.ne_of_lt old new.1).symm
  · obtain ⟨extra, rfl⟩ := Nat.exists_eq_add_of_le (Nat.le_of_not_lt old)
    rw [List.getElem?_append_right (Nat.le_add_right ..),
      List.getElem?_eq_none (Nat.le_add_right ..), Nat.add_sub_cancel_left]
    cases extra with
    | zero => simp [eq_comm]
    | succ extra => simp

/-- What a client is after a session was created. -/
theorem create_eq (consistent : client.routes.Consistent) (profile : VendorProfile)
    (asset : AssetRequest) :
    ∃ routes id,
      (client.create profile asset).2 =
        { client with
          nextNumber := (draw client.nextNumber).2
          routes
          sessions :=
            client.sessions ++ [{ profile, asset, number := (draw client.nextNumber).1, id }] } ∧
      routes.Consistent ∧
      ∀ owner, routes.handler? owner =
        if owner = (draw client.nextNumber).1 then some client.sessions.length
        else client.routes.handler? owner := by
  refine ⟨_, _, rfl, ?_, ?_⟩
  · split
    · exact consistent.registerUnnumbered _ _
    · exact consistent.register _ _
  · intro owner
    split
    · exact RouteTable.handler?_registerUnnumbered
    · exact RouteTable.handler?_register

/-- As long as numbers do not run out, the session has the next of them. -/
theorem Sound.create_eq (sound : client.Sound) (few : client.sessions.length < 2 ^ 32 - 2)
    (profile : VendorProfile) (asset : AssetRequest) :
    ∃ routes id,
      (client.create profile asset).2 =
        { client with
          nextNumber := client.nextNumber + 1
          routes
          sessions := client.sessions ++ [{ profile, asset, number := client.nextNumber, id }] } ∧
      routes.Consistent ∧
      ∀ owner, routes.handler? owner =
        if owner = client.nextNumber then some client.sessions.length
        else client.routes.handler? owner := by
  have created := Client.create_eq sound.routes profile asset
  rwa [(sound.draw_number few).1] at created

/-- A new session has a number of its own. -/
theorem Sound.number_ne_next (sound : client.Sound) (found : client.session? ref = some session) :
    session.number ≠ client.nextNumber := by
  intro same
  have number := sound.number found
  rw [same, sound.next] at number
  have known : ref < client.sessions.length := (List.getElem?_eq_some_iff.mp found).1
  exact Nat.ne_of_gt known (Nat.succ.inj number)

theorem Sound.create (sound : client.Sound) (few : client.sessions.length < 2 ^ 32 - 2)
    (profile : VendorProfile) (asset : AssetRequest) :
    (client.create profile asset).2.Sound := by
  obtain ⟨routes, id, created, consistent, handlers⟩ := sound.create_eq few profile asset
  rw [created]
  have stays : ∀ {ref session}, client.session? ref = some session →
      session? ref { client with
        nextNumber := client.nextNumber + 1
        routes
        sessions := client.sessions ++
          [{ profile, asset, number := client.nextNumber, id }] } = some session :=
    fun found => (session?_append rfl).mpr (.inl found)
  have idle : ∀ {kind transaction}, Session.slot kind
      { profile, asset, number := client.nextNumber, id } ≠ some transaction := by
    intro kind transaction slot
    simp only [Session.slot] at slot
    split at slot <;> cases slot
  constructor
  case courier => exact sound.courier
  case routes => exact consistent
  case quiet => exact sound.quiet
  case next =>
    rw [(sound.draw_number few).2, List.length_append]
    rfl
  case number =>
    intro ref session found
    rcases (session?_append rfl).mp found with old | ⟨rfl, rfl⟩
    · exact sound.number old
    · exact sound.next
  case coherent =>
    intro ref session found
    rcases (session?_append rfl).mp found with old | ⟨rfl, rfl⟩
    · exact sound.coherent old
    · constructor <;> simp
  case routed =>
    intro owner ref
    rw [handlers]
    split
    · next new =>
        subst new
        constructor
        · rintro ⟨⟩
          exact ⟨_, (session?_append rfl).mpr (.inr ⟨rfl, rfl⟩), rfl, rfl, by simp⟩
        · rintro ⟨session, found, number, _⟩
          rcases (session?_append rfl).mp found with old | ⟨rfl, rfl⟩
          · exact absurd number (sound.number_ne_next old)
          · rfl
    · next different =>
        rw [sound.routed]
        constructor
        · rintro ⟨session, found, active⟩
          exact ⟨session, stays found, active⟩
        · rintro ⟨session, found, number, active⟩
          rcases (session?_append rfl).mp found with old | ⟨rfl, rfl⟩
          · exact ⟨session, old, number, active⟩
          · exact absurd number.symm different
  case owned =>
    intro transaction request found
    obtain ⟨session, present, active⟩ := sound.owned found
    exact ⟨session, stays present, active⟩
  case ringing =>
    intro alarm ref set task
    obtain ⟨session, found, keepAlive⟩ := sound.ringing set task
    exact ⟨session, stays found, keepAlive⟩
  case named =>
    intro ref session handle found keepAlive
    rcases (session?_append rfl).mp found with old | ⟨rfl, rfl⟩
    · exact sound.named old keepAlive
    · cases keepAlive
  case awaited =>
    intro ref session kind transaction found slot
    rcases (session?_append rfl).mp found with old | ⟨rfl, rfl⟩
    · exact sound.awaited old slot
    · exact absurd slot idle
  case kept => exact sound.kept
  case apart =>
    intro nodup one two oneSession twoSession oneKind twoKind transaction oneFound oneSlot
      twoFound twoSlot
    rcases (session?_append rfl).mp oneFound with oneOld | ⟨rfl, rfl⟩
    · rcases (session?_append rfl).mp twoFound with twoOld | ⟨rfl, rfl⟩
      · exact sound.apart nodup oneOld oneSlot twoOld twoSlot
      · exact absurd twoSlot idle
    · exact absurd oneSlot idle

theorem Proceeds.create (sound : client.Sound) (few : client.sessions.length < 2 ^ 32 - 2)
    (profile : VendorProfile) (asset : AssetRequest) :
    Proceeds 1 client (client.create profile asset).2 := by
  have next := sound.create few profile asset
  obtain ⟨routes, id, created, _⟩ := sound.create_eq few profile asset
  rw [created] at next ⊢
  constructor
  case tended =>
    intro excused _ tended owner session kind transaction found held slot repeated stays
    rcases (session?_append rfl).mp found with old | ⟨rfl, rfl⟩
    · exact tended owner old held slot repeated stays
    · simp only [Session.slot] at slot
      split at slot <;> cases slot
  case toEvolves =>
    refine ⟨next, rfl, List.suffix_refl _, List.length_append, ?_⟩
    intro ref session found released
    refine .of_eq ?_ rfl
    rw [found]
    exact (session?_append rfl).mpr (.inl found)

/-! ## Operations -/

theorem Acts.operate (sound : client.Sound) (found : client.session? ref = some session)
    (held : session.isHeld = true) (action : OwnerAction) :
    Acts ref client (client.operate action ref) := by
  cases action with
  | setup => exact .setup sound found held
  | connect => exact .connect sound found held
  | sendKeepAlive => exact .sendKeepAlive sound found held
  | requestStatus => exact .requestStatus sound found held
  | reset => exact .reset sound found held
  | teardown => exact .teardown sound found held
  | awaitReady => exact (Gentle.awaitReady sound ref).acts
  | takeEvents => exact (Gentle.takeEvents sound ref).acts
  | drop => exact .drop sound ref

/-- The owner of a released session can do no more than take its events and let go of
it. -/
theorem Undisturbed.operate (sound : client.Sound) (found : client.session? ref = some session)
    (released : session.state = .released) (action : OwnerAction) :
    Undisturbed ref client (client.operate action ref) := by
  have same := Undisturbed.refl ref client
  cases action with
  | setup => simpa [Client.operate, setup, found, released] using same
  | connect => simpa [Client.operate, connect, found, released] using same
  | sendKeepAlive =>
      simpa [Client.operate, sendKeepAlive, found, released, SessionState.isEstablished] using same
  | requestStatus =>
      simpa [Client.operate, requestStatus, found, released, SessionState.isEstablished] using same
  | reset => simpa [Client.operate, reset, found, released, SessionState.isEstablished] using same
  | teardown => simpa [Client.operate, teardown, found, released] using same
  | awaitReady =>
      simp only [Client.operate, awaitReady]
      simp only [found]
      refine ⟨fun before beforeFound => ?_, rfl⟩
      cases found.symm.trans beforeFound
      refine ⟨session.awaitReady.2.eventsTaken, session.isHeld, ?_⟩
      rw [session?_modify_self found]
      unfold Session.awaitReady
      simp only
      split <;> rfl
  | takeEvents =>
      simp only [Client.operate, takeEvents]
      simp only [found]
      refine ⟨fun before beforeFound => ?_, rfl⟩
      cases found.symm.trans beforeFound
      exact ⟨session.events.length, session.isHeld, session?_modify_self found⟩
  | drop =>
      have unset : session.keepAlive = none :=
        (sound.coherent found).keepAlive_eq_none (by rw [released]; rfl)
      simp only [Client.operate, drop, disarmKeepAlive]
      simp only [found, Option.bind_some, unset]
      refine ⟨fun before beforeFound => ?_, ?_⟩
      · cases found.symm.trans beforeFound
        exact ⟨session.eventsTaken, false, session?_modify_self found⟩
      · exact congrArg (fun transport : Transport => transport.attempts.filter _)
          (Courier.transport_cancelSession session.number)

theorem Proceeds.operate (sound : client.Sound) (found : client.session? ref = some session)
    (held : session.isHeld = true) (action : OwnerAction) :
    Proceeds 0 client (client.operate action ref) := by
  apply (Acts.operate sound found held action).proceeds sound
  intro again againFound released
  exact .operate sound againFound released action

/-! ## Runs -/

/-- Every action that brings no datagram leaves each session tended. -/
theorem Proceeds.perform (sound : client.Sound) {action : ClientAction}
    (few : client.sessions.length + action.created < 2 ^ 32 - 1)
    (silent : ∀ datagram, action ≠ .dispatch datagram) :
    Proceeds action.created client (client.perform action) := by
  cases action with
  | create profile asset => exact .create sound (Nat.lt_of_succ_lt_succ few) profile asset
  | operate action ref =>
      simp only [Client.perform]
      split
      · next live =>
          cases found : client.session? ref with
          | none =>
              rw [isLive, found] at live
              cases live
          | some session =>
              rw [isLive, found] at live
              exact .operate sound found live action
      · exact .refl sound
  | dispatch datagram => exact absurd rfl (silent datagram)
  | advance duration => exact .advance sound duration
  | ringFirst duration =>
      simp only [Client.perform]
      cases stepped : client.step (client.courier.agenda.now + duration) with
      | none => exact .refl sound
      | some next => exact .step sound stepped
  | setRefusals refuses =>
      apply Proceeds.of_gentle _ sound
      intro ref
      exact .aside { sound with courier := sound.courier.of_eq rfl rfl } rfl rfl
        (List.suffix_refl _) rfl rfl
  | setFaults fault =>
      apply Proceeds.of_gentle _ sound
      intro ref
      exact .aside { sound with } rfl rfl (List.suffix_refl _) rfl rfl
  | seedTransaction next =>
      apply Proceeds.of_gentle _ sound
      intro ref
      exact .aside { sound with } rfl rfl (List.suffix_refl _) rfl rfl

theorem Evolves.perform (sound : client.Sound) {action : ClientAction}
    (few : client.sessions.length + action.created < 2 ^ 32 - 1) :
    Evolves action.created client (client.perform action) := by
  by_cases silent : ∀ datagram, action ≠ .dispatch datagram
  · exact (Proceeds.perform sound few silent).toEvolves
  · push Not at silent
    obtain ⟨datagram, rfl⟩ := silent
    exact .dispatch sound datagram

/-- Whatever happens to a sound client, as long as numbers for sessions do not run out, it
stays sound, and its released sessions are disturbed no more. -/
theorem Evolves.run (sound : client.Sound) {actions : List ClientAction}
    (few : client.sessions.length + ClientAction.allCreated actions < 2 ^ 32 - 1) :
    Evolves (ClientAction.allCreated actions) client (client.run actions) := by
  induction actions generalizing client with
  | nil => exact .refl sound
  | cons action rest ih =>
      rw [ClientAction.allCreated, List.map_cons, List.sum_cons, ← Nat.add_assoc] at few
      have first := Evolves.perform sound (Nat.lt_of_le_of_lt (Nat.le_add_right _ _) few)
      refine first.trans (ih first.sound ?_)
      rw [first.length]
      exact few

theorem run_append (client : Client) (earlier later : List ClientAction) :
    client.run (earlier ++ later) = (client.run earlier).run later :=
  List.foldl_append

/-- What holds of every run from the start. -/
theorem Evolves.start (settings : ClientSettings) {actions : List ClientAction}
    (few : ClientAction.allCreated actions < 2 ^ 32 - 1) :
    Evolves (ClientAction.allCreated actions) (Client.start settings)
      ((Client.start settings).run actions) :=
  .run (.start settings) (Nat.lt_of_le_of_lt (Nat.le_of_eq (Nat.zero_add _)) few)

/-- A run from the start may be cut in two. -/
theorem Evolves.resume (settings : ClientSettings) {earlier later : List ClientAction}
    (few : ClientAction.allCreated (earlier ++ later) < 2 ^ 32 - 1) :
    Evolves (ClientAction.allCreated later) ((Client.start settings).run earlier)
      ((Client.start settings).run (earlier ++ later)) := by
  rw [ClientAction.allCreated_append] at few
  have first := Evolves.start settings (Nat.lt_of_le_of_lt (Nat.le_add_right _ _) few)
  rw [run_append]
  refine .run first.sound ?_
  rw [first.length, Client.start, List.length_nil, Nat.zero_add]
  exact few

end Client

end OnDemand
