import OnDemand.Proofs.Session.Moves
import OnDemand.Proofs.Session.Unaided

/-!
# Conditional access is balanced

The component is called when a session is granted and when it ends, and never otherwise.  What was
called for a session is its account: nothing, a start, or a start and the stop that followed it.
-/

namespace OnDemand

/-- A call of the conditional-access component, and how it failed, if it did. -/
structure CaAnswer where
  call : CaCall
  fault : Option CaFault

namespace Move

/-- The calls of the conditional-access component in a move, earliest first. -/
def calls (move : Move) : List CaCall := move.news Client.caCalls

/-- The calls in a move, of which there is at most one, as they were answered. -/
def answers (move : Move) : List CaAnswer :=
  move.calls.map fun call => ⟨call, move.before.caFault? call⟩

/-- Whether a session goes to another state in a move. -/
def turns (ref : SessionRef) (move : Move) : Bool :=
  (move.before.session? ref).map Session.state ≠ (move.after.session? ref).map Session.state

/-- A datagram brings a session its confirm, and the confirm is positive. -/
structure Accepts (ref : SessionRef) (confirm : SetupConfirm) (after : Session) (move : Move) :
    Prop where
  dispatched : ∃ datagram message before, move.cause = some (.dispatch datagram) ∧
    Signal.decode datagram = .ok message ∧ message.body = .setupConfirm confirm ∧
    move.before.session? ref = some before ∧ before.state = .setupSent ∧
    before.setup = some message.transaction
  positive : confirm.response.isOk = true
  found : move.after.session? ref = some after
  ready : after.state = .serverReady

end Move

/-- The calls that moves made for a session, earliest first: those made when its state changed. -/
def account (ref : SessionRef) (moves : List Move) : List CaAnswer :=
  (moves.filter (·.turns ref)).flatMap Move.answers

theorem account_append (ref : SessionRef) (moves : List Move) (move : Move) :
    account ref (moves ++ [move]) =
      account ref moves ++ if move.turns ref then move.answers else [] := by
  rw [account, List.filter_append, List.flatMap_append, account]
  cases turns : move.turns ref <;> simp [turns]

namespace Session

variable {before after : Session} {account : List CaAnswer}

/-- The account of a session agrees with where it stands. -/
inductive Balances (session : Session) : List CaAnswer → Prop where
  | nothing (inactive : session.caActive = false) : Balances session []
  | failed {info : ClientCaInfo} {entitlement : Option UInt32} {fault : CaFault}
      (inactive : session.caActive = false) (granted : session.state.isUngranted = false) :
      Balances session [⟨.start session.id info entitlement, some fault⟩]
  | begun {info : ClientCaInfo} {entitlement : Option UInt32}
      (active : session.caActive = true) (granted : session.state.isUngranted = false)
      (unreleased : session.state ≠ .released) :
      Balances session [⟨.start session.id info entitlement, none⟩]
  | ended {info : ClientCaInfo} {entitlement : Option UInt32} {fault : Option CaFault}
      (inactive : session.caActive = false) (released : session.state = .released) :
      Balances session
        [⟨.start session.id info entitlement, none⟩, ⟨.stop session.id, fault⟩]

theorem Balances.stays (balances : before.Balances account) (stays : before.Stays after) :
    after.Balances account := by
  cases balances with
  | nothing inactive => exact .nothing (stays.caActive.trans inactive)
  | failed inactive granted =>
      rw [← stays.id]
      exact .failed (stays.caActive.trans inactive) (stays.granted_of granted)
  | begun active granted unreleased =>
      rw [← stays.id]
      exact .begun (stays.caActive.trans active) (stays.granted_of granted)
        fun released => unreleased (stays.released.mp released)
  | ended inactive released =>
      rw [← stays.id]
      exact .ended (stays.caActive.trans inactive) (stays.released.mpr released)

/-- Before a session is granted nothing is called for it. -/
theorem Balances.eq_nil (balances : before.Balances account)
    (ungranted : before.state.isUngranted = true) :
    account = [] ∧ before.caActive = false := by
  cases balances with
  | nothing inactive => exact ⟨rfl, inactive⟩
  | failed _ granted => cases granted.symm.trans ungranted
  | begun _ granted _ => cases granted.symm.trans ungranted
  | ended _ released =>
      rw [released] at ungranted
      cases ungranted

/-- When a session ends, what has begun for it is ended. -/
theorem Balances.stop (balances : before.Balances account) (unreleased : before.state ≠ .released)
    (released : after.state = .released) (id : after.id = before.id)
    (inactive : after.caActive = false) (answer : CaCall → Option CaFault) :
    after.Balances (account ++ before.stops.map fun call => ⟨call, answer call⟩) := by
  have granted : after.state.isUngranted = false := by rw [released]; rfl
  cases balances with
  | nothing idle =>
      simp only [stops, idle, Bool.false_eq_true, if_false, List.map_nil, List.append_nil]
      exact .nothing inactive
  | failed idle _ =>
      simp only [stops, idle, Bool.false_eq_true, if_false, List.map_nil, List.append_nil, ← id]
      exact .failed inactive granted
  | begun active _ _ =>
      simp only [stops, active, if_true, List.map_cons, List.map_nil, ← id]
      exact .ended inactive released
  | ended _ impossible => exact absurd impossible unreleased

/-- When a session is granted, its account begins. -/
theorem Balances.start (ready : after.state = .serverReady) {answer : CaCall → Option CaFault}
    (active : after.caActive = after.starts.any fun call => (answer call).isNone) :
    after.Balances (after.starts.map fun call => ⟨call, answer call⟩) := by
  have granted : after.state.isUngranted = false := by rw [ready]; rfl
  simp only [starts] at active ⊢
  cases asked : after.caInfo with
  | none =>
      rw [asked] at active
      exact .nothing active
  | some info =>
      simp only [asked, Option.toList, List.map_cons, List.map_nil, List.any_cons, List.any_nil,
        Bool.or_false] at active ⊢
      cases answered : answer (.start after.id info after.entitlementId) with
      | none =>
          rw [answered] at active
          exact .begun active granted (by rw [ready]; decide)
      | some fault =>
          rw [answered] at active
          exact .failed active granted

end Session

namespace Client

variable {client next : Client} {ref other : SessionRef} {session before after : Session}
  {cause : Option ClientAction} {move : Move} {past : List Move}

/-! ## Accounts in a run -/

/-- A move of a client that is steady, and what it has to do with conditional access. -/
structure IsBilled (move : Move) : Prop where
  steady : move.before.Steady
  billing : ∃ time, Billing move.cause (move.before.wait time) move.after

/-- Whether time passes or not, and whichever alarms ring, each move is billed. -/
theorem Steady.isBilled : Regime (fun _ => True) Steady (fun _ => Steady) IsBilled where
  acts {client action} _ instant steady := by
    have follows := Follows.perform steady.orderly instant
    suffices ∃ time, Deed (some action) (client.wait time) (client.perform action) by
      obtain ⟨time, deed⟩ := this
      exact ⟨⟨steady, time, deed.billing⟩, deed.steady (steady.wait time) follows.orderly⟩
    by_cases single : ∃ duration, action = .ringFirst duration
    · obtain ⟨duration, rfl⟩ := single
      simp only [perform]
      cases stepped : client.step (client.courier.agenda.now + duration) with
      | none =>
          have waited := (steady.wait client.courier.agenda.now).courier
          refine ⟨client.courier.agenda.now, ?_⟩
          rw [wait_now] at waited ⊢
          exact (Upholds.refl waited).deed
      | some next =>
          obtain ⟨alarm, _, _, ringing⟩ := Ringing.step steady stepped
          exact ⟨alarm.deadline, ringing.deed _⟩
    · refine ⟨client.courier.agenda.now, ?_⟩
      rw [wait_now]
      exact .perform steady fun duration =>
        ⟨instant duration, fun same => single ⟨duration, same⟩⟩
  enters _ steady := steady
  steady steady := steady
  rings {limit client next} steady stepped := by
    obtain ⟨alarm, _, _, ringing⟩ := Ringing.step steady stepped
    exact ⟨⟨steady, alarm.deadline, (ringing.deed none).billing⟩, steady.step stepped⟩
  passes {limit client} duration steady _ := by
    have waited := steady.wait limit
    exact ⟨⟨steady, limit, (Upholds.refl waited.courier).deed.billing⟩, waited⟩

theorem turns_eq_false (same : move.after.session? ref = move.before.session? ref) :
    move.turns ref = false := by
  simp [Move.turns, same]

theorem turns_iff (others : ∀ {other}, other ≠ ref →
      move.after.session? other = move.before.session? other)
    (found : move.before.session? ref = some before)
    (afterFound : move.after.session? ref = some after) (differ : before.state ≠ after.state) :
    move.turns other = true ↔ other = ref := by
  constructor
  · intro turns
    refine Decidable.not_not.mp fun different => ?_
    cases turns.symm.trans (turns_eq_false (others different))
  · rintro rfl
    simp [Move.turns, found, afterFound, differ]

/-- The account of a session, and what it was told of failures, up to some time in a run. -/
structure Reckoned (ref : SessionRef) (past : List Move) (client : Client) : Prop where
  absent : client.session? ref = none → account ref past = []
  balances : ∀ {session}, client.session? ref = some session → session.Balances (account ref past)
  told : ∀ {session}, client.session? ref = some session →
    session.faults = (account ref past).filterMap CaAnswer.fault

theorem Reckoned.abstains (reckoned : Reckoned ref past move.before)
    (abstains : Abstains move.before move.after) :
    Reckoned ref (past ++ [move]) move.after := by
  have calls : move.calls = [] := Move.news_eq_nil abstains.calls
  have same : account ref (past ++ [move]) = account ref past := by
    rw [account_append, Move.answers, calls]
    simp
  constructor
  case absent =>
    intro absent
    rw [same]
    cases found : move.before.session? ref with
    | none => exact reckoned.absent found
    | some before =>
        obtain ⟨after, afterFound, _⟩ := abstains.stays found
        cases absent.symm.trans afterFound
  case balances =>
    intro session afterFound
    rw [same]
    cases found : move.before.session? ref with
    | none =>
        rw [reckoned.absent found]
        exact .nothing (abstains.fresh found afterFound).caActive
    | some before =>
        obtain ⟨after, again, stays⟩ := abstains.stays found
        cases afterFound.symm.trans again
        exact (reckoned.balances found).stays stays
  case told =>
    intro session afterFound
    rw [same]
    cases found : move.before.session? ref with
    | none =>
        rw [reckoned.absent found, Session.faults, (abstains.fresh found afterFound).events]
        rfl
    | some before =>
        obtain ⟨after, again, stays⟩ := abstains.stays found
        cases afterFound.symm.trans again
        rw [stays.faults]
        exact reckoned.told found

/-- A session goes to another state, and calls are made for it. -/
theorem Reckoned.changes {changed : SessionRef} {added : List CaCall}
    (reckoned : Reckoned ref past move.before)
    (others : ∀ {other}, other ≠ changed →
      move.after.session? other = move.before.session? other)
    (found : move.before.session? changed = some before)
    (afterFound : move.after.session? changed = some after) (differ : before.state ≠ after.state)
    (calls : move.calls = added)
    (balances : ∀ {account}, before.Balances account →
      after.Balances (account ++ added.map fun call => ⟨call, move.before.caFault? call⟩))
    (told : after.faults = before.faults ++ added.filterMap move.before.caFault?) :
    Reckoned ref (past ++ [move]) move.after := by
  by_cases same : ref = changed
  · subst same
    have grown : account ref (past ++ [move]) =
        account ref past ++ added.map fun call => ⟨call, move.before.caFault? call⟩ := by
      rw [account_append, if_pos ((turns_iff others found afterFound differ).mpr rfl),
        Move.answers, calls]
    constructor
    case absent => exact fun absent => nomatch afterFound.symm.trans absent
    case balances =>
      intro session again
      cases afterFound.symm.trans again
      rw [grown]
      exact balances (reckoned.balances found)
    case told =>
      intro session again
      cases afterFound.symm.trans again
      rw [told, grown, List.filterMap_append, List.filterMap_map, reckoned.told found]
      rfl
  · have unchanged := others same
    have grown : account ref (past ++ [move]) = account ref past := by
      rw [account_append, turns_eq_false unchanged]
      exact List.append_nil _
    constructor
    case absent =>
      rw [unchanged, grown]
      exact reckoned.absent
    case balances =>
      intro session
      rw [unchanged, grown]
      exact reckoned.balances
    case told =>
      intro session
      rw [unchanged, grown]
      exact reckoned.told

/-- The calls that end a session's conditional access are those of the move. -/
theorem calls_of_ends {time : Time}
    (ends : Ends ref before after (move.before.wait time) move.after) :
    move.calls = before.stops := by
  rw [Move.calls, Move.news_eq ends.calls, Session.stops]
  split <;> rfl

theorem calls_of_grants {time : Time} {message : Signal}
    (grants : Grants ref message before after (move.before.wait time) move.after) :
    move.calls = after.starts := by
  rw [Move.calls, Move.news_eq grants.calls, Session.starts]
  cases after.caInfo <;> rfl

theorem Reckoned.step (billed : IsBilled move) (reckoned : Reckoned ref past move.before) :
    Reckoned ref (past ++ [move]) move.after := by
  obtain ⟨time, billing⟩ := billed.billing
  cases billing with
  | abstains abstains => exact reckoned.abstains ⟨abstains.calls, abstains.stays, abstains.fresh⟩
  | ends others ends =>
      refine reckoned.changes others ends.found ends.afterFound ?_ (calls_of_ends ends) ?_
        ends.faults
      · rw [ends.released]
        exact ends.unreleased
      · exact fun balances => balances.stop ends.unreleased ends.released ends.id ends.caActive _
  | @grants _ before after _ _ _ _ others grants =>
      refine reckoned.changes others grants.found grants.afterFound ?_ (calls_of_grants grants) ?_
        grants.faults
      · rw [grants.sent, grants.ready]
        decide
      · intro account balances
        obtain ⟨rfl, inactive⟩ := balances.eq_nil (by rw [grants.sent]; rfl)
        refine Session.Balances.start grants.ready ?_
        rw [grants.caActive, inactive, Bool.false_or]
        rfl

theorem isBilled_moves (settings : ClientSettings) (actions : List ClientAction) :
    Leads IsBilled (start settings) ((start settings).moves actions)
      ((start settings).run actions) :=
  (Steady.isBilled.leads (fun _ _ => trivial) (Steady.start settings)).1

/-- The accounts of all sessions in a run. -/
theorem Reckoned.run (settings : ClientSettings) (actions : List ClientAction) (ref : SessionRef) :
    Reckoned ref ((start settings).moves actions) ((start settings).run actions) := by
  have first : Reckoned ref [] (start settings) :=
    ⟨fun _ => rfl, fun found => (nomatch (session?_start settings ref).symm.trans found),
      fun found => (nomatch (session?_start settings ref).symm.trans found)⟩
  exact (isBilled_moves settings actions).carry _ Reckoned.step first

/-! ## Balance -/

/-- A move calls nothing, or once, for the one session that it takes to another state. -/
theorem calls_cases (billed : IsBilled move) :
    move.calls = [] ∨ ∃ call ref, move.calls = [call] ∧
      ∀ other, move.turns other = true ↔ other = ref := by
  obtain ⟨time, billing⟩ := billed.billing
  cases billing with
  | abstains abstains => exact .inl (Move.news_eq_nil abstains.calls)
  | @ends ref before _ others ends =>
      have turns : ∀ other, move.turns other = true ↔ other = ref := fun _ =>
        turns_iff others ends.found ends.afterFound (by rw [ends.released]; exact ends.unreleased)
      rw [calls_of_ends ends, Session.stops]
      split
      · exact .inr ⟨_, ref, rfl, turns⟩
      · exact .inl rfl
  | @grants ref _ after _ _ _ _ others grants =>
      have turns : ∀ other, move.turns other = true ↔ other = ref := fun _ =>
        turns_iff others grants.found grants.afterFound (by rw [grants.sent, grants.ready]; decide)
      rw [calls_of_grants grants, Session.starts]
      cases after.caInfo with
      | none => exact .inl rfl
      | some info => exact .inr ⟨_, ref, rfl, turns⟩

/-- The calls of a client are those of the moves that led to it. -/
theorem caCalls_step (billed : IsBilled move)
    (made : past.flatMap Move.calls = move.before.caCalls.reverse) :
    (past ++ [move]).flatMap Move.calls = move.after.caCalls.reverse := by
  obtain ⟨added, calls⟩ : ∃ added, move.after.caCalls = added ++ move.before.caCalls := by
    obtain ⟨time, billing⟩ := billed.billing
    cases billing with
    | abstains abstains => exact ⟨[], abstains.calls⟩
    | ends _ ends => exact ⟨_, ends.calls⟩
    | grants _ _ _ grants => exact ⟨_, grants.calls⟩
  rw [List.flatMap_append, made, List.flatMap_singleton, Move.calls, Move.news_eq calls, calls,
    List.reverse_append]

/-- Conditional access begins when a session accepts a confirm that holds what it takes. -/
theorem accepts_of_start (billed : IsBilled move) {id : SessionId} {info : ClientCaInfo}
    {entitlement : Option UInt32} (turns : move.turns ref = true)
    (called : .start id info entitlement ∈ move.calls) :
    ∃ confirm after, move.Accepts ref confirm after ∧ after.id = id ∧
      ∃ resource ∈ confirm.resources, resource.content = .clientCaInfo info := by
  obtain ⟨time, billing⟩ := billed.billing
  cases billing with
  | abstains abstains =>
      rw [Move.calls, Move.news_eq_nil abstains.calls] at called
      cases called
  | ends _ ends =>
      rw [calls_of_ends ends, Session.stops] at called
      split at called
      · cases List.mem_singleton.mp called
      · cases called
  | @grants own before after datagram message dispatched decoded others grants =>
      obtain rfl : ref = own := (turns_iff others grants.found grants.afterFound
        (by rw [grants.sent, grants.ready]; decide)).mp turns
      obtain ⟨confirm, body, positive, awaited, taken⟩ := grants.confirmed
      rw [calls_of_grants grants, Session.starts, List.mem_map] at called
      obtain ⟨given, member, same⟩ := called
      cases same
      refine ⟨confirm, after, ⟨⟨datagram, message, before, dispatched, decoded, body, grants.found,
        grants.sent, awaited⟩, positive, grants.afterFound, grants.ready⟩, rfl, ?_⟩
      rcases taken info (Option.mem_toList.mp member) with earlier | given
      · have unset := (billed.steady.ungranted grants.found (by rw [grants.sent]; rfl)).1
        cases unset.symm.trans earlier
      · exact given

/-- In every run, whatever is done and however the conditional-access component fails, its calls
are balanced: each is made for one session, and the account of every session is empty, or a start
that failed, or a start, with exactly one stop by the time the session is released and none before.
It is started for the identifier of the session, when that accepts its positive confirm and the
confirm holds what the start takes, and stopped for the same.  Of each failure the session is told
once, and nothing else depends on it: but for what conditional access itself leaves with sessions,
the run ends as it would if no call had failed. -/
theorem access_balanced (settings : ClientSettings) (actions : List ClientAction) :
    let moves := (start settings).moves actions
    let final := (start settings).run actions
    moves.flatMap Move.calls = final.caCalls.reverse ∧
      (∀ move ∈ moves, move.calls = [] ∨ ∃ call ref, move.calls = [call] ∧
        ∀ other, move.turns other = true ↔ other = ref) ∧
      (∀ ref session, final.session? ref = some session →
        session.Balances (account ref moves) ∧
          session.faults = (account ref moves).filterMap CaAnswer.fault) ∧
      (∀ move ∈ moves, ∀ ref id info entitlement, move.turns ref = true →
        .start id info entitlement ∈ move.calls →
        ∃ confirm after, move.Accepts ref confirm after ∧ after.id = id ∧
          ∃ resource ∈ confirm.resources, resource.content = .clientCaInfo info) ∧
      ((start settings).run (actions.map ClientAction.unaided)).unaided = final.unaided := by
  intro moves final
  have leads := isBilled_moves settings actions
  have billed := leads.forall_mem
  have made := leads.carry (fun past client => past.flatMap Move.calls = client.caCalls.reverse)
    caCalls_step (List.flatMap_nil ..)
  refine ⟨made, fun move member => calls_cases (billed move member),
    fun ref session found => ?_, fun move member ref id info entitlement =>
      accepts_of_start (billed move member), ?_⟩
  · have reckoned := Reckoned.run settings actions ref
    exact ⟨reckoned.balances found, reckoned.told found⟩
  · exact unaided_run (.start settings) (.start settings) rfl actions

/-- A session whose confirm brings conditional access is torn down when the component lets nothing
end any more, and the release is never confirmed. -/
def unendedAccess : List ClientAction :=
  [.create (.ofVendor .arris) {}, .operate .setup 0,
    .dispatch (sampleDatagram (.setupConfirm
      ⟨sampleId 1, ⟨0⟩, .zero, [⟨0, 0, 0, 0, 0, .clientCaInfo ⟨3, 0, []⟩⟩], {}⟩) 1),
    .setFaults fun _ _ => some "unplugged", .operate .teardown 0, .advance 9000000]

example : account 0 ((start sampleSettings).moves unendedAccess) =
    [⟨.start (sampleId 1) ⟨3, 0, []⟩ none, none⟩,
      ⟨.stop (sampleId 1), some (.notEnded "unplugged")⟩] := rfl

end Client

end OnDemand
