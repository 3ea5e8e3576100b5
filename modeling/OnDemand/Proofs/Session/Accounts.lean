import OnDemand.Proofs.Session.Abiding

/-!
# Transactions are spent once

A transaction that a session awaits, or in which a request is kept, was drawn for that.  As long
as none is drawn twice, a transaction that is spent, so that nobody awaits it or no request is
kept in it, stays spent in the rest of the run.
-/

namespace OnDemand

namespace Client

variable {client middle next quiet : Client} {ref other : SessionRef} {session stored : Session}
  {transaction : UInt32} {kind : SignalKind}

/-- All that is awaited or kept is accounted for by the transactions drawn. -/
structure Accounted (client : Client) : Prop where
  awaited : ∀ {ref session kind transaction}, client.session? ref = some session →
    session.slot kind = some transaction → transaction ∈ client.drawn
  kept : ∀ {transaction request}, (transaction, request) ∈ client.courier.pending →
    transaction ∈ client.drawn
  owned : ∀ {transaction request}, (transaction, request) ∈ client.courier.pending →
    ∃ session, client.session? request.owner = some session ∧ session.number = request.session
  /-- As long as no transaction is drawn twice, each is awaited in one place. -/
  apart : client.drawn.Nodup → ∀ {ref other session otherSession kind otherKind transaction},
    client.session? ref = some session → session.slot kind = some transaction →
    client.session? other = some otherSession →
    otherSession.slot otherKind = some transaction → ref = other ∧ kind = otherKind
  /-- The request that is kept in a transaction is that of the session that awaits it. -/
  matched : client.drawn.Nodup → ∀ {ref session kind transaction request},
    client.session? ref = some session → session.slot kind = some transaction →
    (transaction, request) ∈ client.courier.pending → request.kind = kind ∧ request.owner = ref
  /-- A session that awaits its release has no other requests. -/
  alone : ∀ {transaction request session other}, (transaction, request) ∈ client.courier.pending →
    client.session? request.owner = some session →
    session.slot (.release .request) = some other → transaction = other

/-- All stays accounted for, and no transaction that was drawn before comes to be awaited, or to
have a request, again. -/
structure Inherits (client next : Client) : Prop where
  accounted : next.Accounted
  drawn : client.drawn <:+ next.drawn
  slots : next.drawn.Nodup → ∀ {ref session kind transaction}, next.session? ref = some session →
    session.slot kind = some transaction → transaction ∈ client.drawn →
    ∃ before, client.session? ref = some before ∧ before.slot kind = some transaction
  requests : next.drawn.Nodup → ∀ {transaction request},
    (transaction, request) ∈ next.courier.pending → transaction ∈ client.drawn →
    ∃ before, (transaction, before) ∈ client.courier.pending

theorem Inherits.trans (first : Inherits client middle) (second : Inherits middle next) :
    Inherits client next where
  accounted := second.accounted
  drawn := first.drawn.trans second.drawn
  slots nodup {ref session kind transaction} found slot drawn := by
    obtain ⟨between, betweenFound, awaited⟩ :=
      second.slots nodup found slot (first.drawn.subset drawn)
    exact first.slots (nodup.sublist second.drawn.sublist) betweenFound awaited drawn
  requests nodup {transaction request} left drawn := by
    obtain ⟨between, kept⟩ := second.requests nodup left (first.drawn.subset drawn)
    exact first.requests (nodup.sublist second.drawn.sublist) kept drawn

theorem Lessens.accounted (lessens : Lessens client next) (accounted : client.Accounted) :
    next.Accounted where
  awaited found slot := by
    obtain ⟨before, beforeFound, awaited⟩ := lessens.slots found slot
    exact lessens.drawn.subset (accounted.awaited beforeFound awaited)
  kept left := by
    obtain ⟨before, present, _⟩ := lessens.requests left
    exact lessens.drawn.subset (accounted.kept present)
  owned left := by
    obtain ⟨before, present, _, number, owner⟩ := lessens.requests left
    obtain ⟨session, found, own⟩ := accounted.owned present
    obtain ⟨after, afterFound, same⟩ := lessens.numbers found
    exact ⟨after, owner ▸ afterFound, same.trans (own.trans number.symm)⟩
  apart nodup := by
    intro one two oneAfter twoAfter oneKind twoKind transaction oneFound oneSlot twoFound twoSlot
    obtain ⟨oneBefore, oneBeforeFound, oneAwaited⟩ := lessens.slots oneFound oneSlot
    obtain ⟨twoBefore, twoBeforeFound, twoAwaited⟩ := lessens.slots twoFound twoSlot
    exact accounted.apart (nodup.sublist lessens.drawn.sublist) oneBeforeFound oneAwaited
      twoBeforeFound twoAwaited
  matched nodup := by
    intro ref after kind transaction request found slot left
    obtain ⟨before, beforeFound, awaited⟩ := lessens.slots found slot
    obtain ⟨older, present, sameKind, _, sameOwner⟩ := lessens.requests left
    obtain ⟨own, owner⟩ := accounted.matched (nodup.sublist lessens.drawn.sublist) beforeFound
      awaited present
    exact ⟨sameKind.trans own, sameOwner.trans owner⟩
  alone left found slot := by
    obtain ⟨older, present, _, _, sameOwner⟩ := lessens.requests left
    obtain ⟨before, beforeFound, awaited⟩ := lessens.slots found slot
    exact accounted.alone present (sameOwner ▸ beforeFound) awaited

theorem Lessens.inherits (lessens : Lessens client next) (accounted : client.Accounted) :
    Inherits client next where
  accounted := lessens.accounted accounted
  drawn := lessens.drawn
  slots _ _ _ _ _ found slot _ := lessens.slots found slot
  requests _ _ _ left _ := by
    obtain ⟨before, present, _⟩ := lessens.requests left
    exact ⟨before, present⟩

theorem Accounted.start (settings : ClientSettings) : (Client.start settings).Accounted where
  awaited found := nomatch (session?_start settings _).symm.trans found
  kept left := nomatch left
  owned left := nomatch left
  apart _ := fun found => nomatch (session?_start settings _).symm.trans found
  matched _ := fun found => nomatch (session?_start settings _).symm.trans found
  alone left := nomatch left

/-! ## Requests -/

section Asking

variable {sender : Session} {mark : Session → Session} {message : Signal} {retries : Nat}

/-- When a session asks for something, only it comes to await an answer, in the transaction that
is drawn for that. -/
theorem slots_asking (found : quiet.session? ref = some stored)
    (marks : stored.Retouches (some (kind, quiet.drawTransaction.1)) (mark stored))
    {after : Session} {awaitedKind : SignalKind}
    (afterFound : (quiet.asking ref mark sender message retries).2.session? other = some after)
    (slot : after.slot awaitedKind = some transaction) :
    (∃ before, quiet.session? other = some before ∧
        before.slot awaitedKind = some transaction) ∨
      other = ref ∧ awaitedKind = kind ∧ transaction = quiet.drawTransaction.1 := by
  obtain ⟨before, beforeFound, rfl⟩ := session?_modify_eq_some.mp afterFound
  split at slot
  · next own =>
      cases found.symm.trans (own ▸ beforeFound)
      rcases marks.slots slot with same | granted
      · exact .inl ⟨stored, beforeFound, same⟩
      · cases granted
        exact .inr ⟨own, rfl, rfl⟩
  · exact .inl ⟨before, beforeFound, slot⟩

/-- When a session asks for something, only the request in the transaction that is drawn for
that comes to be kept, and it is the request of the session. -/
theorem requests_asking (number : sender.number = stored.number)
    (own : message.transaction = quiet.drawTransaction.1) (named : message.kind = kind)
    {request : PendingRequest}
    (left : (transaction, request) ∈
      (quiet.asking ref mark sender message retries).2.courier.pending) :
    (transaction, request) ∈ quiet.courier.pending ∨
      transaction = quiet.drawTransaction.1 ∧ request.kind = kind ∧
        request.session = stored.number ∧ request.owner = ref := by
  rw [← own, ← named, ← number]
  exact Courier.mem_pending_submit left

/-- What was drawn before a session asks for something is not what is drawn for that. -/
theorem nodup_of_asking
    (nodup : (quiet.asking ref mark sender message retries).2.drawn.Nodup) :
    quiet.drawn.Nodup ∧ quiet.drawTransaction.1 ∉ quiet.drawn :=
  (List.nodup_cons.mp nodup).symm

/-- When all that is awaited was drawn, and each transaction is awaited in one place, the one that
is drawn for a request comes to be awaited in one place, too. -/
theorem apart_asking (found : quiet.session? ref = some stored)
    (marks : stored.Retouches (some (kind, quiet.drawTransaction.1)) (mark stored))
    (awaited : ∀ {ref session kind transaction}, quiet.session? ref = some session →
      session.slot kind = some transaction → transaction ∈ quiet.drawn)
    (apart : ∀ {ref other session otherSession kind otherKind transaction},
      quiet.session? ref = some session → session.slot kind = some transaction →
      quiet.session? other = some otherSession →
      otherSession.slot otherKind = some transaction → ref = other ∧ kind = otherKind)
    (nodup : (quiet.asking ref mark sender message retries).2.drawn.Nodup) {one two : SessionRef}
    {oneAfter twoAfter : Session} {oneKind twoKind : SignalKind}
    (oneFound : (quiet.asking ref mark sender message retries).2.session? one = some oneAfter)
    (oneSlot : oneAfter.slot oneKind = some transaction)
    (twoFound : (quiet.asking ref mark sender message retries).2.session? two = some twoAfter)
    (twoSlot : twoAfter.slot twoKind = some transaction) : one = two ∧ oneKind = twoKind := by
  have fresh := (nodup_of_asking nodup).2
  rcases slots_asking found marks oneFound oneSlot with
    ⟨_, oneBefore, oneWas⟩ | ⟨oneRef, oneMine, oneNew⟩
  · rcases slots_asking found marks twoFound twoSlot with
      ⟨_, twoBefore, twoWas⟩ | ⟨_, _, twoNew⟩
    · exact apart oneBefore oneWas twoBefore twoWas
    · exact absurd (awaited oneBefore oneWas) (twoNew ▸ fresh)
  · rcases slots_asking found marks twoFound twoSlot with
      ⟨_, twoBefore, twoWas⟩ | ⟨twoRef, twoMine, _⟩
    · exact absurd (awaited twoBefore twoWas) (oneNew ▸ fresh)
    · exact ⟨oneRef.trans twoRef.symm, oneMine.trans twoMine.symm⟩

theorem Accounted.asking (accounted : quiet.Accounted) (found : quiet.session? ref = some stored)
    (number : sender.number = stored.number)
    (own : message.transaction = quiet.drawTransaction.1) (named : message.kind = kind)
    (marks : stored.Retouches (some (kind, quiet.drawTransaction.1)) (mark stored))
    (alone : ∀ {other}, (mark stored).slot (.release .request) = some other →
      other = quiet.drawTransaction.1 ∧
        ∀ entry ∈ quiet.courier.pending, entry.2.session ≠ stored.number) :
    (quiet.asking ref mark sender message retries).2.Accounted where
  awaited afterFound slot := by
    rcases slots_asking found marks afterFound slot with ⟨before, beforeFound, was⟩ | ⟨_, _, rfl⟩
    · exact List.mem_cons_of_mem _ (accounted.awaited beforeFound was)
    · exact List.mem_cons_self
  kept left := by
    rcases requests_asking number own named left with same | ⟨rfl, _⟩
    · exact List.mem_cons_of_mem _ (accounted.kept same)
    · exact List.mem_cons_self
  owned {_ request} left := by
    have holder : ∃ before, quiet.session? request.owner = some before ∧
        before.number = request.session := by
      rcases requests_asking number own named left with same | ⟨_, _, session, owner⟩
      · exact accounted.owned same
      · exact ⟨stored, owner ▸ found, session.symm⟩
    obtain ⟨before, beforeFound, same⟩ := holder
    refine ⟨_, session?_modify_eq_some.mpr ⟨before, beforeFound, rfl⟩, ?_⟩
    split
    · next mine =>
        cases found.symm.trans (mine ▸ beforeFound)
        exact marks.number.trans same
    · exact same
  apart nodup :=
    apart_asking found marks accounted.awaited (accounted.apart (nodup_of_asking nodup).1) nodup
  matched nodup := by
    intro other after awaitedKind transaction request afterFound slot left
    obtain ⟨before, fresh⟩ := nodup_of_asking nodup
    rcases slots_asking found marks afterFound slot with
      ⟨_, beforeFound, was⟩ | ⟨mine, mineKind, new⟩
    · rcases requests_asking number own named left with same | ⟨keptNew, _⟩
      · exact accounted.matched before beforeFound was same
      · exact absurd (accounted.awaited beforeFound was) (keptNew ▸ fresh)
    · rcases requests_asking number own named left with same | ⟨_, sameKind, _, owner⟩
      · exact absurd (accounted.kept same) (new ▸ fresh)
      · exact ⟨sameKind.trans mineKind.symm, owner.trans mine.symm⟩
  alone {_ request after _} left afterFound slot := by
    obtain ⟨before, beforeFound, rfl⟩ := session?_modify_eq_some.mp afterFound
    split at slot
    · next mine =>
        cases found.symm.trans (mine ▸ beforeFound)
        obtain ⟨new, forgotten⟩ := alone slot
        rcases requests_asking number own named left with same | ⟨keptNew, _⟩
        · obtain ⟨holder, holderFound, session⟩ := accounted.owned same
          cases beforeFound.symm.trans holderFound
          exact absurd session.symm (forgotten _ same)
        · exact keptNew.trans new.symm
    · next other =>
        rcases requests_asking number own named left with same | ⟨_, _, _, owner⟩
        · exact accounted.alone same beforeFound slot
        · exact absurd owner other

/-- A transaction that is drawn for a request is new, so it is awaited and kept for that
only. -/
theorem Inherits.asking (retries : Nat) (accounted : quiet.Accounted)
    (found : quiet.session? ref = some stored) (number : sender.number = stored.number)
    (own : message.transaction = quiet.drawTransaction.1) (named : message.kind = kind)
    (marks : stored.Retouches (some (kind, quiet.drawTransaction.1)) (mark stored))
    (alone : ∀ {other}, (mark stored).slot (.release .request) = some other →
      other = quiet.drawTransaction.1 ∧
        ∀ entry ∈ quiet.courier.pending, entry.2.session ≠ stored.number) :
    Inherits quiet (quiet.asking ref mark sender message retries).2 where
  accounted := accounted.asking found number own named marks alone
  drawn := List.suffix_cons _ _
  slots nodup {other after awaitedKind awaited} afterFound slot before := by
    rcases slots_asking found marks afterFound slot with same | ⟨_, _, rfl⟩
    · exact same
    · exact absurd before (nodup_of_asking nodup).2
  requests nodup {awaited request} left before := by
    rcases requests_asking number own named left with same | ⟨rfl, _⟩
    · exact ⟨request, same⟩
    · exact absurd before (nodup_of_asking nodup).2

end Asking

theorem Asks.inherits (asks : Asks ref client next) (accounted : client.Accounted) :
    Inherits client next := by
  cases asks with
  | @intro _ _ _ _ _ _ _ retries quieted found number transaction named marks id alone rest =>
      have before := quieted.toLessens.inherits accounted
      have asked := before.trans
        (.asking retries before.accounted found number transaction named marks alone)
      exact asked.trans (rest.toLessens.inherits asked.accounted)

/-! ## Runs -/

theorem Inherits.create (orderly : client.Orderly) (accounted : client.Accounted)
    (profile : VendorProfile) (asset : AssetRequest) :
    Inherits client (client.create profile asset).2 := by
  obtain ⟨routes, id, created, _⟩ := create_eq orderly.routes profile asset
  rw [created]
  have idle : ∀ {kind transaction}, Session.slot kind
      { profile, asset, number := (draw client.nextNumber).1, id } ≠ some transaction := by
    intro kind transaction slot
    simp only [Session.slot] at slot
    split at slot <;> cases slot
  have slots : ∀ {ref session kind transaction}, session? ref { client with
      nextNumber := (draw client.nextNumber).2
      routes
      sessions := client.sessions ++
        [{ profile, asset, number := (draw client.nextNumber).1, id }] } = some session →
      session.slot kind = some transaction → client.session? ref = some session := by
    intro ref session kind transaction found slot
    rcases (session?_append rfl).mp found with old | ⟨_, rfl⟩
    · exact old
    · exact absurd slot idle
  constructor
  case drawn => exact List.suffix_refl _
  case slots => exact fun _ _ _ _ _ found slot _ => ⟨_, slots found slot, slot⟩
  case requests => exact fun _ _ request left _ => ⟨request, left⟩
  case accounted =>
    constructor
    case awaited => exact fun found slot => accounted.awaited (slots found slot) slot
    case kept => exact accounted.kept
    case owned =>
      intro transaction request left
      obtain ⟨session, found, own⟩ := accounted.owned left
      exact ⟨session, (session?_append rfl).mpr (.inl found), own⟩
    case apart =>
      intro nodup one two oneAfter twoAfter oneKind twoKind transaction oneFound oneSlot twoFound
        twoSlot
      exact accounted.apart nodup (slots oneFound oneSlot) oneSlot (slots twoFound twoSlot) twoSlot
    case matched =>
      intro nodup ref session kind transaction request found slot left
      exact accounted.matched nodup (slots found slot) slot left
    case alone =>
      intro transaction request session other left found slot
      exact accounted.alone left (slots found slot) slot

theorem Inherits.perform (orderly : client.Orderly) (accounted : client.Accounted)
    (action : ClientAction) : Inherits client (client.perform action) := by
  obtain ⟨profile, asset, rfl⟩ | ⟨datagram, rfl⟩ | abides | ⟨ref, asks⟩ :=
    perform_cases orderly action
  · exact .create orderly accounted profile asset
  · exact (Lessens.dispatch orderly datagram).inherits accounted
  · exact abides.toLessens.inherits accounted
  · exact asks.inherits accounted

theorem Inherits.run (orderly : client.Orderly) (accounted : client.Accounted)
    (actions : List ClientAction) : Inherits client (client.run actions) := by
  induction actions generalizing client with
  | nil => exact (Abides.refl client).toLessens.inherits accounted
  | cons action rest ih =>
      have first := Inherits.perform orderly accounted action
      exact first.trans (ih (orderly.perform action) first.accounted)

end Client

end OnDemand
