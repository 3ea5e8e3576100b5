import OnDemand.Proofs.Session.Accounts
import OnDemand.Proofs.Session.Rollover

/-!
# An answer is acted on once

The network may send an answer any number of times, and the client any number of copies of the
request.  However many answers come in one transaction, and of whatever kinds, at most one is
handled by a session and at most one settles the request.  All others leave the client as it is.
As long as numbers for sessions do not run out, at most one takes away any request at all.  When
they do, a session that is released takes the requests of another along.
-/

namespace OnDemand

/-- Whether a datagram is an answer in a transaction. -/
def isAnswerIn (transaction : UInt32) (datagram : Bytes) : Bool :=
  match Signal.decode datagram with
  | .error _ => false
  | .ok message => message.transaction == transaction && message.kind.isConfirm

theorem isAnswerIn_iff {transaction : UInt32} {datagram : Bytes} :
    isAnswerIn transaction datagram = true ↔ ∃ message kind,
      Signal.decode datagram = .ok message ∧ message.transaction = transaction ∧
        message.kind.request? = some kind := by
  simp only [isAnswerIn]
  split
  · next fault decoded => simp only [Bool.false_eq_true, decoded, reduceCtorEq, false_and,
      exists_false]
  · next message decoded =>
      simp only [decoded, Except.ok.injEq, Bool.and_eq_true, beq_iff_eq, SignalKind.isConfirm,
        Option.isSome_iff_exists]
      constructor
      · rintro ⟨same, kind, answers⟩
        exact ⟨message, kind, rfl, same, answers⟩
      · rintro ⟨_, kind, rfl, same, answers⟩
        exact ⟨same, kind, answers⟩

/-- The answer to a reset names no session. -/
theorem Signal.session?_of_request?_reset {message : Signal}
    (answers : message.kind.request? = some (.reset .request)) : message.body.session? = none := by
  simp only [Signal.kind] at answers
  cases body : message.body with
  | reset step reset => rfl
  | release step release =>
      rw [body] at answers
      cases step <;> cases answers
  | statusConfirm | statusRequest | sessionInProgress => rfl
  | setupConfirm | setupRequest | connectRequest =>
      rw [body] at answers
      cases answers

namespace Client

variable {client next : Client} {ref : SessionRef} {session : Session} {transaction : UInt32}
  {message : Signal} {kind : SignalKind} {datagram : Bytes} {actions : List ClientAction}

/-- A datagram changes a session, its events included, or calls the conditional-access
component. -/
def Touches (client : Client) (datagram : Bytes) : Prop :=
  (client.dispatch datagram).sessions ≠ client.sessions ∨
    (client.dispatch datagram).caCalls ≠ client.caCalls

/-- A datagram takes the request of a transaction from those that are kept. -/
def Settles (transaction : UInt32) (client : Client) (datagram : Bytes) : Prop :=
  client.courier.isPending transaction = true ∧
    (client.dispatch datagram).courier.isPending transaction = false

/-- A datagram takes some request from those that are kept. -/
def Removes (client : Client) (datagram : Bytes) : Prop :=
  ∃ transaction, Settles transaction client datagram

/-- The answers in a transaction that come in during a run, each with the client that it comes
to. -/
def answersIn (transaction : UInt32) (client : Client) :
    List ClientAction → List (Client × Bytes)
  | [] => []
  | action :: rest =>
      let later := answersIn transaction (client.perform action) rest
      match action with
      | .dispatch datagram =>
          if isAnswerIn transaction datagram then (client, datagram) :: later else later
      | _ => later

/-- An answer of a run comes to the client that the run has led to. -/
theorem mem_answersIn {answer : Client × Bytes}
    (member : answer ∈ answersIn transaction client actions) :
    isAnswerIn transaction answer.2 = true ∧
      ∃ earlier, earlier ++ [.dispatch answer.2] <+: actions ∧ answer.1 = client.run earlier := by
  induction actions generalizing client with
  | nil => cases member
  | cons action rest ih =>
      have later : answer ∈ answersIn transaction (client.perform action) rest →
          isAnswerIn transaction answer.2 = true ∧
            ∃ earlier, earlier ++ [.dispatch answer.2] <+: action :: rest ∧
              answer.1 = client.run earlier := by
        intro after
        obtain ⟨answers, earlier, within, reached⟩ := ih after
        exact ⟨answers, action :: earlier, List.cons_prefix_cons.mpr ⟨rfl, within⟩, reached⟩
      simp only [answersIn] at member
      split at member
      · next datagram =>
          split at member
          · next answers =>
              rcases List.mem_cons.mp member with rfl | after
              · exact ⟨answers, [], List.cons_prefix_cons.mpr ⟨rfl, List.nil_prefix⟩, rfl⟩
              · exact later after
          · exact later member
      · exact later member

/-! ## What has an effect at most once -/

/-- After an answer that has an effect the transaction is spent for it, as long as none is drawn
twice, and no answer has the effect in a transaction that is spent. -/
structure Once (transaction : UInt32) (sane : Client → Prop) (effect : Client → Bytes → Prop)
    (spent : Client → Prop) : Prop where
  spends : ∀ {client datagram}, sane client → client.drawn.Nodup →
    isAnswerIn transaction datagram = true → effect client datagram →
    transaction ∈ client.drawn ∧ spent (client.dispatch datagram)
  stays : ∀ {client next}, Inherits client next → next.drawn.Nodup →
    transaction ∈ client.drawn → spent client → spent next
  inert : ∀ {client datagram}, sane client → isAnswerIn transaction datagram = true →
    spent client → ¬ effect client datagram

section Runs

variable {sane : Client → Prop} {effect : Client → Bytes → Prop} {spent : Client → Prop}

/-- No answer has the effect when it comes to a client that inherits a spent transaction. -/
theorem Once.inert_answersIn (once : Once transaction sane effect spent)
    (orderly : client.Orderly) (accounted : client.Accounted)
    (nodup : (client.run actions).drawn.Nodup) (drawn : transaction ∈ client.drawn)
    (done : spent client)
    (sanity : ∀ answer ∈ answersIn transaction client actions, sane answer.1) :
    ∀ answer ∈ answersIn transaction client actions, ¬ effect answer.1 answer.2 := by
  intro answer member
  obtain ⟨answers, earlier, ⟨later, rfl⟩, reached⟩ := mem_answersIn member
  have inherits := Inherits.run orderly accounted earlier
  have rest := Inherits.run (orderly.run earlier) inherits.accounted
    ([.dispatch answer.2] ++ later)
  rw [List.append_assoc, run_append] at nodup
  have still := once.stays inherits (nodup.sublist rest.drawn.sublist) drawn done
  exact once.inert (sanity answer member) answers (reached ▸ still)

/-- Of the answers of a run in one transaction, at most one has the effect. -/
theorem Once.pairwise (once : Once transaction sane effect spent) (orderly : client.Orderly)
    (accounted : client.Accounted) (nodup : (client.run actions).drawn.Nodup)
    (sanity : ∀ answer ∈ answersIn transaction client actions, sane answer.1) :
    (answersIn transaction client actions).Pairwise fun earlier later =>
      ¬ (effect earlier.1 earlier.2 ∧ effect later.1 later.2) := by
  induction actions generalizing client with
  | nil => exact .nil
  | cons action rest ih =>
      have first := Inherits.perform orderly accounted action
      have follows := Inherits.run (orderly.perform action) first.accounted rest
      have later := ih (orderly.perform action) first.accounted nodup
      cases action with
      | dispatch datagram =>
          simp only [answersIn] at sanity ⊢
          split
          · next answers =>
              rw [if_pos answers] at sanity
              have others := fun answer member => sanity answer (List.mem_cons_of_mem _ member)
              refine List.pairwise_cons.mpr ⟨fun answer member both => ?_, later others⟩
              have before := nodup.sublist (first.drawn.trans follows.drawn).sublist
              obtain ⟨drawn, done⟩ :=
                once.spends (sanity _ List.mem_cons_self) before answers both.1
              exact once.inert_answersIn (orderly.perform _) first.accounted nodup
                (first.drawn.subset drawn) done others answer member both.2
          · next other =>
              rw [if_neg other] at sanity
              exact later sanity
      | _ => exact later sanity

end Runs

/-! ## One answer -/

/-- What an answer does: it settles its request, and is perhaps handled by a session that awaits
it. -/
theorem dispatch_answer (orderly : client.Orderly)
    (answers : isAnswerIn transaction datagram = true) :
    ∃ message kind, message.kind.request? = some kind ∧ message.transaction = transaction ∧
      ((client.dispatch datagram = client.settled message ∧
          ∀ ref session, client.route message = some ref → client.session? ref = some session →
            session.slot kind ≠ some transaction) ∨
        ∃ ref session, client.route message = some ref ∧ client.session? ref = some session ∧
          session.slot kind = some transaction ∧
          Answers message kind ref session (client.settled message)
            (client.dispatch datagram)) := by
  obtain ⟨message, kind, decoded, rfl, request⟩ := isAnswerIn_iff.mp answers
  have dispatched : client.dispatch datagram = client.receive arrival message := by
    simp only [dispatch, receiveBytes, decoded]
  rw [dispatched]
  exact ⟨message, kind, request, rfl, receive_answer orderly isIdle_arrival request⟩

theorem sessions_settled (message : Signal) (client : Client) :
    (client.settled message).sessions = client.sessions ∧
      (client.settled message).caCalls = client.caCalls := by
  simp only [settled]
  split <;> exact ⟨rfl, rfl⟩

/-- A request is settled by the answer to its kind. -/
theorem settled_eq (client : Client) (answers : message.kind.request? = some kind) :
    (∃ request, client.courier.pending.get? message.transaction = some request ∧
        request.kind = kind ∧ client.settled message =
          { client with courier := client.courier.drop message.transaction }) ∨
      (∀ request, client.courier.pending.get? message.transaction = some request →
        request.kind ≠ kind) ∧ client.settled message = client := by
  have confirm : message.kind.isConfirm = true := by rw [SignalKind.isConfirm, answers]; rfl
  simp only [settled, confirm, if_true, Courier.acknowledgeReply_eq, answers, Option.some.injEq]
  by_cases own : ∃ request, client.courier.pending.get? message.transaction = some request ∧
      kind = request.kind
  · obtain ⟨request, found, same⟩ := own
    exact .inl ⟨request, found, same.symm, by rw [if_pos ⟨request, found, same⟩]⟩
  · refine .inr ⟨fun request found same => own ⟨request, found, same.symm⟩, ?_⟩
    rw [if_neg own]

/-! ## Sessions -/

/-- Some session awaits an answer in a transaction. -/
def Awaited (transaction : UInt32) (client : Client) : Prop :=
  ∃ ref session kind, client.session? ref = some session ∧ session.slot kind = some transaction

/-- An answer that is handled changes the session that awaits it. -/
theorem Answers.touches (awaited : session.slot kind = some transaction)
    (found : client.session? ref = some session)
    (given : Answers message kind ref session (client.settled message)
      (client.dispatch datagram)) : client.Touches datagram := by
  refine .inl fun same => ?_
  have still : (client.dispatch datagram).session? ref = some session := by
    rw [session?, same]
    exact found
  cases awaited.symm.trans (given.spent still)

/-- An answer that is handled is awaited nowhere any more. -/
theorem Answers.not_awaited (accounted : client.Accounted) (nodup : client.drawn.Nodup)
    (awaited : session.slot kind = some transaction)
    (found : client.session? ref = some session)
    (given : Answers message kind ref session (client.settled message) next) :
    ¬ Awaited transaction next := by
  rintro ⟨other, after, otherKind, afterFound, slot⟩
  obtain ⟨before, beforeFound, was⟩ := given.lessens.slots afterFound slot
  rw [session?_settled] at beforeFound
  obtain ⟨rfl, rfl⟩ := accounted.apart nodup found awaited beforeFound was
  cases (given.spent afterFound).symm.trans slot

/-- An answer that touches a session is handled by one that awaits it. -/
theorem answers_of_touches (orderly : client.Orderly)
    (answers : isAnswerIn transaction datagram = true) (touches : client.Touches datagram) :
    ∃ message kind ref session, client.session? ref = some session ∧
      session.slot kind = some transaction ∧
      Answers message kind ref session (client.settled message) (client.dispatch datagram) := by
  obtain ⟨message, kind, _, _, ⟨settles, _⟩ | given⟩ := dispatch_answer orderly answers
  · obtain ⟨sessions, caCalls⟩ := sessions_settled message client
    rw [Touches, settles, sessions, caCalls] at touches
    exact absurd touches (not_or.mpr ⟨fun changed => changed rfl, fun changed => changed rfl⟩)
  · obtain ⟨ref, session, _, found, awaited, given⟩ := given
    exact ⟨message, kind, ref, session, found, awaited, given⟩

/-- An answer touches sessions only when one awaits it, and then none does any more. -/
theorem once_touches (transaction : UInt32) :
    Once transaction (fun client => client.Orderly ∧ client.Accounted) Touches
      (fun client => ¬ Awaited transaction client) where
  spends sane nodup answers touches := by
    obtain ⟨message, kind, ref, session, found, awaited, given⟩ :=
      answers_of_touches sane.1 answers touches
    exact ⟨sane.2.awaited found awaited, given.not_awaited sane.2 nodup awaited found⟩
  stays inherits nodup drawn unawaited := by
    rintro ⟨ref, session, kind, found, slot⟩
    obtain ⟨before, beforeFound, awaited⟩ := inherits.slots nodup found slot drawn
    exact unawaited ⟨ref, before, kind, beforeFound, awaited⟩
  inert sane answers unawaited touches := by
    obtain ⟨message, kind, ref, session, found, awaited, _⟩ :=
      answers_of_touches sane.1 answers touches
    exact unawaited ⟨ref, session, kind, found, awaited⟩

/-! ## Requests -/

theorem isPending_iff {courier : Courier} :
    courier.isPending transaction = true ↔
      ∃ request, (transaction, request) ∈ courier.pending := by
  rw [Courier.isPending, Option.isSome_iff_exists]
  constructor
  · rintro ⟨request, found⟩
    exact ⟨request, KeyedList.mem_of_get? found⟩
  · rintro ⟨request, present⟩
    exact KeyedList.exists_get?_of_mem present

theorem isPending_drop {courier : Courier} :
    (courier.drop transaction).isPending transaction = false := by
  rw [Courier.isPending, Courier.pending_drop, if_pos rfl]
  rfl

/-- A request that is gone does not come back. -/
theorem once_settles (transaction : UInt32) :
    Once transaction Client.Accounted (Settles transaction)
      (fun client => client.courier.isPending transaction = false) where
  spends sane _ _ settles := by
    obtain ⟨request, present⟩ := isPending_iff.mp settles.1
    exact ⟨sane.kept present, settles.2⟩
  stays {client next} inherits nodup drawn gone := by
    rw [← Bool.not_eq_true, isPending_iff] at gone ⊢
    rintro ⟨request, left⟩
    exact gone (inherits.requests nodup left drawn)
  inert _ _ gone settles := by
    rw [settles.1] at gone
    cases gone

/-- An answer that neither touches a session nor settles the request does nothing. -/
theorem dispatch_eq_self (orderly : client.Orderly)
    (answers : isAnswerIn transaction datagram = true) (untouched : ¬ client.Touches datagram)
    (unsettled : ¬ Settles transaction client datagram) : client.dispatch datagram = client := by
  obtain ⟨message, kind, request, rfl, ⟨settles, _⟩ | given⟩ := dispatch_answer orderly answers
  · rcases settled_eq client request with ⟨kept, found, _, dropped⟩ | ⟨_, same⟩
    · refine absurd ⟨?_, ?_⟩ unsettled
      · rw [Courier.isPending, found]
        rfl
      · rw [settles, dropped]
        exact isPending_drop
    · exact settles.trans same
  · obtain ⟨ref, session, _, found, awaited, given⟩ := given
    exact absurd (given.touches awaited found) untouched

/-! ## Other requests -/

theorem not_removes
    (pending : (client.dispatch datagram).courier.pending = client.courier.pending) :
    ¬ client.Removes datagram := by
  rintro ⟨other, kept, gone⟩
  rw [Courier.isPending, pending] at gone
  cases kept.symm.trans gone

/-- A reset that is answered in its transaction is answered to the session that asked for it,
since the answer names no session. -/
theorem Sound.route_reset (sound : client.Sound) (nodup : client.drawn.Nodup)
    (answers : message.kind.request? = some (.reset .request))
    (found : client.session? ref = some session) (active : session.IsActive)
    (awaited : session.slot (.reset .request) = some message.transaction) :
    client.route message = some ref := by
  simp only [Client.route, Signal.session?_of_request?_reset answers, Option.filter_none,
    Option.bind_none, Option.none_or]
  exact sound.routeTransaction_eq nodup found active awaited

/-- When a session handles an answer, its request is settled. -/
theorem Answers.isPending_eq_false (accounted : client.Accounted) (nodup : client.drawn.Nodup)
    (request : message.kind.request? = some kind)
    (awaited : session.slot kind = some message.transaction)
    (found : client.session? ref = some session)
    (given : Answers message kind ref session (client.settled message) next) :
    next.courier.isPending message.transaction = false := by
  rw [← Bool.not_eq_true, isPending_iff]
  rintro ⟨later, left⟩
  obtain ⟨before, present, _⟩ := given.lessens.requests left
  obtain ⟨first, kept⟩ := KeyedList.exists_get?_of_mem present
  rcases settled_eq client request with ⟨_, _, _, dropped⟩ | ⟨foreign, same⟩
  · rw [dropped] at kept
    cases (Courier.pending_drop.trans (if_pos rfl)).symm.trans kept
  · rw [same] at kept
    exact foreign first kept
      (accounted.matched nodup found awaited (KeyedList.mem_of_get? kept)).1

/-- A transaction in which no request is kept and no session awaits a reset is spent: at most a
session ends that awaits its release and nothing else. -/
theorem once_removes (transaction : UInt32) :
    Once transaction (fun client => client.Sound ∧ client.Accounted) Removes
      (fun client => client.courier.isPending transaction = false ∧
        ∀ ref session, client.session? ref = some session →
          session.slot (.reset .request) ≠ some transaction) where
  spends {client datagram} sane nodup answers removes := by
    obtain ⟨sound, accounted⟩ := sane
    obtain ⟨message, kind, request, rfl, ⟨settles, foreign⟩ | given⟩ :=
      dispatch_answer sound.orderly answers
    · rcases settled_eq client request with ⟨kept, found, own, dropped⟩ | ⟨_, same⟩
      · refine ⟨sound.kept found, ?_, ?_⟩
        · rw [settles, dropped]
          exact isPending_drop
        · -- the session that asked for a reset would have been given the answer
          intro other after afterFound slot
          rw [settles, session?_settled] at afterFound
          obtain ⟨reset, owner⟩ :=
            accounted.matched nodup afterFound slot (KeyedList.mem_of_get? found)
          obtain rfl : kind = .reset .request := own.symm.trans reset
          obtain ⟨session, sessionFound, _, active⟩ := sound.owned found
          cases (owner ▸ sessionFound).symm.trans afterFound
          exact foreign other _ (sound.route_reset nodup request afterFound active slot)
            afterFound slot
      · exact absurd removes (not_removes (by rw [settles, same]))
    · obtain ⟨ref, session, _, found, awaited, given⟩ := given
      refine ⟨sound.awaited found awaited,
        given.isPending_eq_false accounted nodup request awaited found, ?_⟩
      intro other after afterFound slot
      exact given.not_awaited accounted nodup awaited found ⟨other, after, _, afterFound, slot⟩
  stays {client next} inherits nodup drawn done := by
    refine ⟨(once_settles transaction).stays inherits nodup drawn done.1, ?_⟩
    intro ref session found slot
    obtain ⟨before, beforeFound, awaited⟩ := inherits.slots nodup found slot drawn
    exact done.2 ref before beforeFound awaited
  inert {client datagram} sane answers done removes := by
    obtain ⟨sound, accounted⟩ := sane
    obtain ⟨message, kind, request, rfl, given⟩ := dispatch_answer sound.orderly answers
    have same : client.settled message = client := by
      rcases settled_eq client request with ⟨kept, found, _⟩ | ⟨_, same⟩
      · have pending := done.1
        rw [Courier.isPending, found] at pending
        cases pending
      · exact same
    rcases given with ⟨settles, _⟩ | ⟨ref, session, _, found, awaited, given⟩
    · exact absurd removes (not_removes (by rw [settles, same]))
    · obtain ⟨other, kept, gone⟩ := removes
      obtain ⟨entry, present⟩ := isPending_iff.mp kept
      rcases given.left (other, entry) (by rw [same]; exact present) with left | ⟨ends, own⟩
      · rw [isPending_iff.mpr ⟨entry, left⟩] at gone
        cases gone
      · obtain ⟨owner, ownerFound, number⟩ := accounted.owned present
        have mine := (sound.number_eq_iff found ownerFound).mp (number.trans own)
        cases found.symm.trans (mine ▸ ownerFound)
        rcases ends with rfl | rfl
        · rw [accounted.alone present ownerFound awaited, done.1] at kept
          cases kept
        · exact done.2 ref session found awaited

/-! ## Runs -/

/-- Of some answers at most one touches a session, and at most one settles the request of their
transaction.  All others leave the client as it is. -/
structure ActedOnOnce (transaction : UInt32) (answers : List (Client × Bytes)) : Prop where
  touched : answers.Pairwise fun earlier later =>
    ¬ (earlier.1.Touches earlier.2 ∧ later.1.Touches later.2)
  settled : answers.Pairwise fun earlier later =>
    ¬ (Settles transaction earlier.1 earlier.2 ∧ Settles transaction later.1 later.2)
  others : ∀ answer ∈ answers, ¬ answer.1.Touches answer.2 →
    ¬ Settles transaction answer.1 answer.2 → answer.1.dispatch answer.2 = answer.1

/-- What a run from the start has led to when an answer comes in. -/
theorem sane_of_mem_answersIn {settings : ClientSettings} {answer : Client × Bytes}
    (member : answer ∈ answersIn transaction (start settings) actions) :
    answer.1.Orderly ∧ answer.1.Accounted ∧
      (ClientAction.allCreated actions < 2 ^ 32 - 1 → answer.1.Sound) := by
  obtain ⟨_, earlier, ⟨later, rfl⟩, reached⟩ := mem_answersIn member
  rw [reached]
  refine ⟨(Orderly.start settings).run earlier,
    (Inherits.run (.start settings) (.start settings) earlier).accounted, fun few => ?_⟩
  rw [List.append_assoc, ClientAction.allCreated_append] at few
  exact (Evolves.start settings (Nat.lt_of_le_of_lt (Nat.le_add_right _ _) few)).sound

/-- In every run from the start in which no transaction is drawn twice, the answers in one
transaction are acted on once.  As long as numbers for sessions do not run out, at most one of
them takes away any request at all. -/
theorem answersIn_actedOnOnce (settings : ClientSettings) (actions : List ClientAction)
    (transaction : UInt32) (nodup : ((start settings).run actions).drawn.Nodup) :
    ActedOnOnce transaction (answersIn transaction (start settings) actions) ∧
      (ClientAction.allCreated actions < 2 ^ 32 - 1 →
        (answersIn transaction (start settings) actions).Pairwise fun earlier later =>
          ¬ (earlier.1.Removes earlier.2 ∧ later.1.Removes later.2)) := by
  have orderly := Orderly.start settings
  have accounted := Accounted.start settings
  refine ⟨⟨?_, ?_, ?_⟩, fun few => ?_⟩
  · refine (once_touches transaction).pairwise orderly accounted nodup fun answer member => ?_
    obtain ⟨inOrder, accounts, _⟩ := sane_of_mem_answersIn member
    exact ⟨inOrder, accounts⟩
  · exact (once_settles transaction).pairwise orderly accounted nodup fun answer member =>
      (sane_of_mem_answersIn member).2.1
  · intro answer member untouched unsettled
    exact dispatch_eq_self (sane_of_mem_answersIn member).1 (mem_answersIn member).1 untouched
      unsettled
  · refine (once_removes transaction).pairwise orderly accounted nodup fun answer member => ?_
    obtain ⟨_, accounts, sound⟩ := sane_of_mem_answersIn member
    exact ⟨sound few, accounts⟩

/-- A confirm that comes twice, and an answer of another kind in its transaction. -/
def repeatedConfirm : List ClientAction :=
  let confirm := sampleDatagram (.setupConfirm ⟨sampleId 1, ⟨0⟩, .zero, [], {}⟩) 1
  [.create (.ofVendor .arris) {}, .operate .setup 0, .dispatch confirm, .dispatch confirm,
    .operate .requestStatus 0,
    .dispatch (sampleDatagram (.statusConfirm ⟨.normal, .zero, 1, []⟩) 1)]

theorem answersIn_actedOnOnce_repeated :
    ((start sampleSettings).run repeatedConfirm).drawn.Nodup ∧
      ClientAction.allCreated repeatedConfirm < 2 ^ 32 - 1 ∧
      (answersIn 1 (start sampleSettings) repeatedConfirm).length = 3 ∧
      ActedOnOnce 1 (answersIn 1 (start sampleSettings) repeatedConfirm) ∧
      (answersIn 1 (start sampleSettings) repeatedConfirm).Pairwise fun earlier later =>
        ¬ (earlier.1.Removes earlier.2 ∧ later.1.Removes later.2) := by
  have few : ClientAction.allCreated repeatedConfirm < 2 ^ 32 - 1 := by decide
  obtain ⟨once, removed⟩ :=
    answersIn_actedOnOnce sampleSettings repeatedConfirm 1 (by decide +kernel)
  exact ⟨by decide +kernel, few, by decide +kernel, once, removed few⟩

/-! ## Sessions of one number -/

theorem answersIn_append (client : Client) (earlier later : List ClientAction) :
    answersIn transaction client (earlier ++ later) =
      answersIn transaction client earlier ++
        answersIn transaction (client.run earlier) later := by
  induction earlier generalizing client with
  | nil => rfl
  | cons action rest ih =>
      simp only [List.cons_append, answersIn, ih]
      split
      · split <;> rfl
      · rfl

/-- An answer that names a live session is handled by it, once its request is settled. -/
theorem dispatch_of_lookup {id : SessionId} (decoded : Signal.decode datagram = .ok message)
    (answers : message.kind.request? = some kind) (names : message.body.session? = some id)
    (named : id.isZero = false) (found : client.routes.lookup client.isLive id.number = some ref) :
    client.dispatch datagram = (client.settled message).handle arrival ref message := by
  have routed : client.route message = some ref := by
    rw [route_of_named names named, found, Option.some_or]
  simp only [dispatch, receiveBytes, decoded, receive_eq]
  exact deliver_of_request? (answers ▸ rfl) ((route_settled message client).trans routed)

/-- The confirm of a release, under the number of some session. -/
def releaseConfirm (number : UInt32) : Signal :=
  ⟨2, [], .release .confirm ⟨sampleId number, .clientRelease, {}⟩⟩

/-- After all numbers were given out, one session of number 1 asks for its release, and then another
for its setup.  The confirm of the release comes twice, at first under the number of a session that
does not await it. -/
def entanglingRun : List ClientAction :=
  List.replicate (2 ^ 32) (.create (.ofVendor .arris) {}) ++
    ([.operate .setup (2 ^ 32 - 1), .operate .teardown (2 ^ 32 - 1), .operate .setup 0] ++
      [.dispatch (sampleDatagram (releaseConfirm 2).body 2),
        .dispatch (sampleDatagram (releaseConfirm 1).body 2)])

/-- The confirm under another number does no more than settle the request for the release. -/
theorem Entangled.dispatch_stray {first last bystander : SessionRef}
    (entangled : Entangled first last client next)
    (found : next.session? bystander = some session) (idle : session.release = none)
    (reached : next.routes.lookup next.isLive 2 = some bystander) :
    next.dispatch (sampleDatagram (releaseConfirm 2).body 2) =
      { next with courier := next.courier.drop 2 } := by
  have decoded : Signal.decode (sampleDatagram (releaseConfirm 2).body 2) =
      .ok (releaseConfirm 2) := by decide +kernel
  have answers : (releaseConfirm 2).kind.request? = some (.release .request) := rfl
  have foreign : session.slot (.release .request) ≠ some 2 := by
    intro same
    cases idle.symm.trans same
  obtain ⟨request, asked, kind⟩ := entangled.asked
  rw [dispatch_of_lookup decoded answers rfl rfl reached,
    handle_of_foreign ((session?_settled _ _ _).trans found) answers foreign]
  rcases settled_eq next answers with ⟨_, _, _, dropped⟩ | ⟨other, _⟩
  · exact dropped
  · exact absurd kind (other request asked)

/-- The confirm under its own number ends the session. -/
theorem dispatch_releaseConfirm
    (found : client.session? ref =
      some { namesake with state := .releasing, release := some 2 })
    (reached : client.routes.lookup client.isLive 1 = some ref)
    (settled : client.courier.isPending 2 = false) :
    client.dispatch (sampleDatagram (releaseConfirm 1).body 2) =
      client.finish ref .clientRelease false := by
  have decoded : Signal.decode (sampleDatagram (releaseConfirm 1).body 2) =
      .ok (releaseConfirm 1) := by decide +kernel
  have answers : (releaseConfirm 1).kind.request? = some (.release .request) := rfl
  rw [dispatch_of_lookup decoded answers rfl rfl reached]
  rcases settled_eq client answers with ⟨_, kept, _⟩ | ⟨_, same⟩
  · rw [Courier.isPending, Option.isSome_eq_false_iff, Option.isNone_iff_eq_none] at settled
    cases settled.symm.trans kept
  · rw [same]
    simp [handle, releaseConfirm, onReleaseConfirm, found]

/-- With the session that ends, the request of the other session of its number goes. -/
theorem removes_releaseConfirm {first last : SessionRef} (accounted : client.Accounted)
    (nodup : client.drawn.Nodup)
    (releasing : client.session? last =
      some { namesake with state := .releasing, release := some 2 })
    (awaiting : client.session? first =
      some { namesake with state := .setupSent, setup := some 3 })
    (reached : client.routes.lookup client.isLive 1 = some last)
    (settled : client.courier.isPending 2 = false) (kept : client.courier.isPending 3 = true) :
    client.Removes (sampleDatagram (releaseConfirm 1).body 2) := by
  refine ⟨3, kept, ?_⟩
  rw [dispatch_releaseConfirm releasing reached settled, ← Bool.not_eq_true, isPending_iff]
  rintro ⟨request, left⟩
  rw [pending_finish releasing] at left
  obtain ⟨present, other⟩ := List.mem_filter.mp left
  have slot : Session.slot .setupRequest
      { namesake with state := .setupSent, setup := some 3 } = some 3 := rfl
  obtain ⟨_, owner⟩ := accounted.matched nodup awaiting slot present
  obtain ⟨session, found, number⟩ := accounted.owned present
  rw [owner] at found
  cases awaiting.symm.trans found
  exact bne_iff_ne.mp other number.symm

/-- So the confirm that strays takes the request for the release away, and the other one that of the
other session. -/
theorem Entangled.removes {first last : SessionRef} (entangled : Entangled first last client next)
    (accounted : (next.dispatch (sampleDatagram (releaseConfirm 2).body 2)).Accounted)
    (found : next.session? ref = some session) (idle : session.release = none)
    (strays : next.routes.lookup next.isLive 2 = some ref)
    (reached : next.routes.lookup next.isLive 1 = some last) :
    let stray := sampleDatagram (releaseConfirm 2).body 2
    let confirm := sampleDatagram (releaseConfirm 1).body 2
    next.Removes stray ∧ (next.dispatch stray).Removes confirm ∧
      ((next.dispatch stray).dispatch confirm).drawn.Nodup := by
  have settles := entangled.dispatch_stray found idle strays
  have nodup : next.drawn.Nodup := by
    rw [entangled.drawn]
    decide
  have gone : (next.courier.drop 2).isPending 2 = false := isPending_drop
  have kept : (next.courier.drop 2).isPending 3 = true := by
    rw [Courier.isPending, Courier.pending_drop, if_neg (by decide)]
    exact entangled.kept
  obtain ⟨request, asked, _⟩ := entangled.asked
  refine ⟨⟨2, Option.isSome_iff_exists.mpr ⟨request, asked⟩, by rw [settles]; exact gone⟩, ?_⟩
  rw [settles] at accounted ⊢
  have releasing : session? last { next with courier := next.courier.drop 2 } = _ :=
    entangled.releasing
  have awaiting : session? first { next with courier := next.courier.drop 2 } = _ :=
    entangled.awaiting
  refine ⟨removes_releaseConfirm accounted nodup releasing awaiting reached gone kept, ?_⟩
  rw [dispatch_releaseConfirm releasing reached gone, drawn_finish]
  exact nodup

/-- When each of two answers that follow each other takes a request away, this is not done once. -/
theorem not_pairwise_answersIn {stray confirm : Bytes}
    (strayAnswers : isAnswerIn transaction stray = true)
    (confirmAnswers : isAnswerIn transaction confirm = true) (first : client.Removes stray)
    (second : (client.dispatch stray).Removes confirm) :
    ¬ (answersIn transaction client [.dispatch stray, .dispatch confirm]).Pairwise
      fun earlier later => ¬ (earlier.1.Removes earlier.2 ∧ later.1.Removes later.2) := by
  simp only [answersIn, strayAnswers, confirmAnswers, if_true]
  intro once
  exact (List.pairwise_cons.mp once).1 _ List.mem_cons_self ⟨first, second⟩

/-- Without the bound on the sessions created, two answers in one transaction can take requests
away. -/
theorem not_answersIn_removes_once :
    ((start sampleSettings).run entanglingRun).drawn.Nodup ∧
      ¬ (answersIn 2 (start sampleSettings) entanglingRun).Pairwise fun earlier later =>
        ¬ (earlier.1.Removes earlier.2 ∧ later.1.Removes later.2) := by
  have populated := populated_run (rfl : sampleSettings.serverAssigns = false) (.ofVendor .arris) {}
    (2 ^ 32)
  obtain ⟨entangled, found, strays, reached⟩ := populated.entangled
  have accounted := fun actions =>
    (Inherits.run (.start sampleSettings) (.start sampleSettings) actions).accounted
  simp only [entanglingRun]
  -- what follows does not depend on how many sessions were created
  generalize List.replicate (2 ^ 32) (ClientAction.create (.ofVendor .arris) {}) = creations at *
  generalize [ClientAction.operate .setup (2 ^ 32 - 1), .operate .teardown (2 ^ 32 - 1),
    .operate .setup 0] = operations at *
  rw [← List.append_assoc, run_append, answersIn_append]
  rw [← run_append] at entangled found strays reached
  have after := accounted (creations ++ operations ++
    [.dispatch (sampleDatagram (releaseConfirm 2).body 2)])
  rw [run_append] at after
  generalize (start sampleSettings).run (creations ++ operations) = client at *
  have one : ∀ datagram, client.run [.dispatch datagram] = client.dispatch datagram :=
    fun _ => rfl
  have two : ∀ datagram other, client.run [.dispatch datagram, .dispatch other] =
      (client.dispatch datagram).dispatch other := fun _ _ => rfl
  rw [one] at after
  rw [two]
  obtain ⟨first, second, nodup⟩ := entangled.removes after found rfl strays reached
  refine ⟨nodup, fun once => ?_⟩
  exact not_pairwise_answersIn (by decide +kernel) (by decide +kernel) first second
    (List.pairwise_append.mp once).2.1

end Client

end OnDemand
