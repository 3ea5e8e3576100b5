import OnDemand.Proofs.Request.Courier
import OnDemand.Proofs.Signal.RoundTrip

/-!
# Tickets and transactions

Every kept request has a ticket of its own, and all its copies are sent in one transaction.  What a
courier has sent so far therefore tells in which transaction the request of a ticket was submitted,
also when the request is gone.  As long as no transaction is drawn twice, each belongs to the
request of one ticket.  Then no request comes to be kept in the place of another.
-/

namespace OnDemand

/-- A datagram is that of a message in a transaction. -/
def WrittenIn (transaction : UInt32) (datagram : Bytes) : Prop :=
  ∃ message, Signal.decode datagram = .ok message ∧ message.transaction = transaction

theorem WrittenIn.eq {one other : UInt32} {datagram : Bytes} (first : WrittenIn one datagram)
    (second : WrittenIn other datagram) : one = other := by
  obtain ⟨message, decoded, rfl⟩ := first
  obtain ⟨again, decodedAgain, rfl⟩ := second
  cases decoded.symm.trans decodedAgain
  rfl

theorem writtenIn_of_encode {message : Signal} {bytes : Bytes} (canonical : message.IsCanonical)
    (encoded : message.encode = .ok bytes) : WrittenIn message.transaction bytes :=
  ⟨message, Signal.decode_of_encode_eq_ok canonical encoded, rfl⟩

namespace Courier

variable {courier next : Courier} {drawn : List UInt32} {transaction other : UInt32}
  {ticket : AlarmHandle} {request : PendingRequest} {message : Signal} {bytes : Bytes}
  {retries owner : Nat} {session : UInt32}

/-- The request of a ticket was submitted in a transaction: some copy of it was sent, whether the
transport took it or not. -/
def Submitted (ticket : AlarmHandle) (transaction : UInt32) (courier : Courier) : Prop :=
  ∃ attempt ∈ courier.transport.attempts,
    attempt.ticket = some ticket ∧ WrittenIn transaction attempt.bytes

/-- A new request has been submitted in a transaction in which another was still kept. -/
def Replaces (courier next : Courier) : Prop :=
  ∃ ticket transaction, courier.agenda.nextHandle ≤ ticket ∧ next.Submitted ticket transaction ∧
    courier.isPending transaction = true

/-- Requests are submitted in transactions that were drawn, and those that are kept are among
them. -/
structure Registered (drawn : List UInt32) (courier : Courier) : Prop where
  kept : ∀ {transaction request}, (transaction, request) ∈ courier.pending →
    courier.Submitted request.ticket transaction ∧ WrittenIn transaction request.bytes
  issued : ∀ {ticket transaction}, courier.Submitted ticket transaction →
    ticket < courier.agenda.nextHandle ∧ transaction ∈ drawn
  /-- As long as no transaction is drawn twice, each is that of one request. -/
  once : drawn.Nodup → ∀ {one other transaction}, courier.Submitted one transaction →
    courier.Submitted other transaction → one = other

theorem Registered.start (timer : Time) : Registered [] { timer } where
  kept left := nomatch left
  issued | ⟨_, sent, _⟩ => nomatch sent
  once _ := fun | ⟨_, sent, _⟩ => nomatch sent

theorem Registered.draw (registered : courier.Registered drawn) (transaction : UInt32) :
    courier.Registered (transaction :: drawn) where
  kept := registered.kept
  issued submitted := (registered.issued submitted).imp_right (List.mem_cons_of_mem _)
  once nodup := registered.once nodup.of_cons

theorem Submitted.of_suffix (submitted : courier.Submitted ticket transaction)
    (attempts : courier.transport.attempts <:+ next.transport.attempts) :
    next.Submitted ticket transaction := by
  obtain ⟨attempt, sent, named⟩ := submitted
  exact ⟨attempt, attempts.subset sent, named⟩

/-- What was sent last is a copy of a request, or all copies were sent before. -/
theorem submitted_cons {attempt : SendAttempt}
    (attempts : next.transport.attempts = attempt :: courier.transport.attempts) :
    next.Submitted ticket transaction ↔
      (attempt.ticket = some ticket ∧ WrittenIn transaction attempt.bytes) ∨
        courier.Submitted ticket transaction := by
  rw [Submitted, attempts, List.exists_mem_cons_iff, Submitted]

/-! ## Requests that are kept already -/

/-- No request is kept that was not kept before, and copies are sent of no other requests. -/
structure Retains (courier next : Courier) : Prop where
  requests : ∀ {transaction request}, (transaction, request) ∈ next.pending →
    ∃ before, (transaction, before) ∈ courier.pending ∧ request.ticket = before.ticket ∧
      request.bytes = before.bytes
  attempts : courier.transport.attempts <:+ next.transport.attempts
  sent : ∀ attempt ∈ next.transport.attempts, attempt ∈ courier.transport.attempts ∨
    attempt.ticket = none ∨ ∃ transaction request, (transaction, request) ∈ courier.pending ∧
      attempt.ticket = some request.ticket ∧ attempt.bytes = request.bytes
  nextHandle : courier.agenda.nextHandle ≤ next.agenda.nextHandle

theorem Retains.submitted (retains : Retains courier next) (registered : courier.Registered drawn)
    (submitted : next.Submitted ticket transaction) : courier.Submitted ticket transaction := by
  obtain ⟨attempt, sent, named, written⟩ := submitted
  rcases retains.sent attempt sent with before | unnamed | ⟨other, request, kept, own, bytes⟩
  · exact ⟨attempt, before, named, written⟩
  · cases unnamed.symm.trans named
  · obtain ⟨first, writtenFirst⟩ := registered.kept kept
    rw [bytes] at written
    cases written.eq writtenFirst
    cases own.symm.trans named
    exact first

theorem Retains.registered (retains : Retains courier next)
    (registered : courier.Registered drawn) : next.Registered drawn where
  kept left := by
    obtain ⟨before, kept, ticket, bytes⟩ := retains.requests left
    obtain ⟨submitted, written⟩ := registered.kept kept
    rw [ticket, bytes]
    exact ⟨submitted.of_suffix retains.attempts, written⟩
  issued submitted := by
    obtain ⟨issued, used⟩ := registered.issued (retains.submitted registered submitted)
    exact ⟨Nat.lt_of_lt_of_le issued retains.nextHandle, used⟩
  once nodup _ _ _ first second :=
    registered.once nodup (retains.submitted registered first)
      (retains.submitted registered second)

/-- What sends nothing and adds no requests. -/
theorem Retains.of_subset (pending : next.pending ⊆ courier.pending)
    (attempts : next.transport.attempts = courier.transport.attempts)
    (nextHandle : courier.agenda.nextHandle ≤ next.agenda.nextHandle) : Retains courier next where
  requests left := ⟨_, pending left, rfl, rfl⟩
  attempts := attempts ▸ List.suffix_refl _
  sent _ sent := .inl (attempts ▸ sent)
  nextHandle := nextHandle

theorem Retains.refl (courier : Courier) : Retains courier courier :=
  .of_subset (List.Subset.refl _) rfl (Nat.le_refl _)

theorem Retains.send (courier : Courier) (sender : Option Nat) (bytes : Bytes) :
    Retains courier (courier.send sender bytes).2 where
  requests left := ⟨_, left, rfl, rfl⟩
  attempts := List.suffix_cons _ _
  sent attempt sent := by
    rcases List.mem_cons.mp sent with rfl | before
    · exact .inr (.inl rfl)
    · exact .inl before
  nextHandle := Nat.le_refl _

/-- A message that is not to be repeated is a copy of no request. -/
theorem Retains.submit_zero (courier : Courier) (message : Signal) (session : UInt32)
    (owner : Nat) : Retains courier (courier.submit message 0 session owner).2 := by
  simp only [submit_eq, if_true]
  split
  · exact .refl courier
  · exact .send courier _ _

theorem Retains.drop (courier : Courier) (transaction : UInt32) :
    Retains courier (courier.drop transaction) :=
  .of_subset subset_pending_drop (by rw [transport_drop]) (Nat.le_of_eq nextHandle_drop.symm)

theorem Retains.acknowledgeReply (courier : Courier) (transaction : UInt32) (reply : SignalKind) :
    Retains courier (courier.acknowledgeReply transaction reply).2 := by
  rw [acknowledgeReply_eq]
  split
  · exact .drop courier transaction
  · exact .refl courier

theorem Retains.cancelSession (courier : Courier) (session : UInt32) :
    Retains courier (courier.cancelSession session).2 := by
  obtain ⟨agenda, folded, _, _, nextHandle, _⟩ := foldl_disarm
    (courier.pending.filter fun entry => entry.2.session == session) courier
  apply Retains.of_subset
  · rw [pending_cancelSession]
    exact List.filter_subset_self _
  · rw [transport_cancelSession]
  · simp only [Courier.cancelSession, folded]
    exact Nat.le_of_eq nextHandle.symm

theorem Retains.expire (courier : Courier) (transaction : UInt32) :
    Retains courier (courier.expire transaction).1 := by
  simp only [Courier.expire]
  split
  · exact .refl courier
  · next request found =>
      have kept := KeyedList.mem_of_get? found
      split
      · exact .of_subset (List.filter_subset_self _) rfl (Nat.le_refl _)
      · constructor
        case requests =>
          intro other again left
          obtain ⟨⟨key, before⟩, present, same⟩ := List.mem_map.mp left
          split at same
          · next own =>
              -- what is sent again stands in the place of the request, with its ticket and bytes
              cases own
              cases same
              exact ⟨request, kept, rfl, rfl⟩
          · cases same
            exact ⟨again, present, rfl, rfl⟩
        case attempts => exact List.suffix_cons _ _
        case sent =>
          intro attempt sent
          rcases List.mem_cons.mp sent with rfl | before
          · exact .inr (.inr ⟨transaction, request, kept, rfl, rfl⟩)
          · exact .inl before
        case nextHandle => exact Nat.le_succ _

/-! ## Requests that are submitted -/

/-- A request that is sent for the first time is the only one of its transaction. -/
theorem Registered.withFirst (registered : courier.Registered drawn)
    (written : WrittenIn message.transaction bytes) :
    (courier.withFirst message.transaction
      (courier.firstRequest message bytes retries session owner)).Registered
        (message.transaction :: drawn) where
  kept left := by
    rcases mem_pending_withFirst left with kept | ⟨rfl, rfl⟩
    · obtain ⟨submitted, writtenBefore⟩ := registered.kept kept
      exact ⟨(submitted_cons attempts_withFirst).mpr (.inr submitted), writtenBefore⟩
    · exact ⟨(submitted_cons attempts_withFirst).mpr (.inl ⟨rfl, written⟩), written⟩
  issued submitted := by
    rw [nextHandle_withFirst]
    rcases (submitted_cons attempts_withFirst).mp submitted with ⟨own, writtenNow⟩ | before
    · cases own
      exact ⟨Nat.lt_succ_self _, writtenNow.eq written ▸ List.mem_cons_self⟩
    · obtain ⟨issued, used⟩ := registered.issued before
      exact ⟨Nat.lt_succ_of_lt issued, List.mem_cons_of_mem _ used⟩
  once nodup := by
    obtain ⟨fresh, nodupBefore⟩ := List.nodup_cons.mp nodup
    -- no request was submitted before in the transaction that is used now
    have unused : ∀ {one other}, WrittenIn other bytes → ¬ courier.Submitted one other :=
      fun writtenNow before => fresh (writtenNow.eq written ▸ (registered.issued before).2)
    intro one other transaction oneSubmitted otherSubmitted
    rcases (submitted_cons attempts_withFirst).mp oneSubmitted with ⟨oneNow, writtenNow⟩ | oneBefore
    · rcases (submitted_cons attempts_withFirst).mp otherSubmitted with ⟨otherNow, _⟩ | otherBefore
      · exact Option.some.inj (oneNow.symm.trans otherNow)
      · exact absurd otherBefore (unused writtenNow)
    · rcases (submitted_cons attempts_withFirst).mp otherSubmitted with
        ⟨_, writtenNow⟩ | otherBefore
      · exact absurd oneBefore (unused writtenNow)
      · exact registered.once nodupBefore oneBefore otherBefore

theorem Registered.submit (registered : courier.Registered drawn)
    (canonical : message.IsCanonical) (retries : Nat) (session : UInt32) (owner : Nat) :
    (courier.submit message retries session owner).2.Registered (message.transaction :: drawn) := by
  rw [submit_eq]
  split
  · exact registered.draw _
  · next bytes encoded =>
      split
      · exact (Retains.send courier (some owner) bytes).registered (registered.draw _)
      · have first : (courier.withFirst message.transaction
            (courier.firstRequest message bytes retries session owner)).Registered _ :=
          registered.withFirst (writtenIn_of_encode canonical encoded)
        simp only
        split
        · exact (Retains.drop _ message.transaction).registered first
        · exact first

theorem suffix_attempts_submit : courier.transport.attempts <:+
    (courier.submit message retries session owner).2.transport.attempts := by
  rw [submit_eq]
  split
  · exact List.suffix_refl _
  · split
    · exact List.suffix_cons _ _
    · have first : ∀ {request}, courier.transport.attempts <:+
          (courier.withFirst message.transaction request).transport.attempts := by
        intro request
        rw [attempts_withFirst]
        exact List.suffix_cons _ _
      simp only
      split
      · exact first.trans (Retains.drop _ message.transaction).attempts
      · exact first

/-- As long as no transaction is drawn twice, no request that is kept is replaced. -/
theorem Registered.not_replaces {drawnLater : List UInt32} (registered : courier.Registered drawn)
    (later : next.Registered drawnLater) (nodup : drawnLater.Nodup)
    (attempts : courier.transport.attempts <:+ next.transport.attempts) :
    ¬ courier.Replaces next := by
  rintro ⟨ticket, transaction, fresh, submitted, pending⟩
  obtain ⟨request, found⟩ := Option.isSome_iff_exists.mp pending
  obtain ⟨before, _⟩ := registered.kept (KeyedList.mem_of_get? found)
  cases later.once nodup (before.of_suffix attempts) submitted
  exact absurd (registered.issued before).1 (Nat.not_lt.mpr fresh)

end Courier

end OnDemand
