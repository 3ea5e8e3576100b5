import OnDemand.Proofs.Session.Indication
import OnDemand.Proofs.Session.Reachability
import OnDemand.Proofs.Signal.RoundTrip

/-!
# When a release indication is answered

The network repeats a release indication until it is answered.  A session answers it wherever it
stands and lets go of its route in the same breath, so a repeated indication no longer reaches
it: the second copy is answered only if another live session has the same name.
-/

namespace OnDemand

/-- The answer to a release indication. -/
def Signal.released (transaction : UInt32) (id : SessionId) (reason : ReasonCode) : Signal :=
  ⟨transaction, [], .release .response ⟨id, reason, {}⟩⟩

theorem Signal.exists_encode_released (transaction : UInt32) (id : SessionId)
    (reason : ReasonCode) : ∃ bytes, (released transaction id reason).encode = .ok bytes := by
  refine ⟨_, encode_eq_ok_iff.mpr ⟨?_, ?_, rfl⟩⟩
  · exact Nat.zero_lt_succ _
  · have length : (released transaction id reason).payloadLength = 16 := rfl
    rw [length]
    decide

theorem Signal.isCanonical_released (transaction : UInt32) (id : SessionId)
    (reason : ReasonCode) : (released transaction id reason).IsCanonical := trivial

/-- The datagram of an answer tells whose answer it is. -/
theorem Signal.released_inj {transaction : UInt32} {id other : SessionId} {reason : ReasonCode}
    {bytes : Bytes} (encoded : (released transaction id reason).encode = .ok bytes)
    (otherEncoded : (released transaction other reason).encode = .ok bytes) : other = id := by
  have decoded := decode_of_encode_eq_ok (isCanonical_released _ _ _) encoded
  rw [decode_of_encode_eq_ok (isCanonical_released _ _ _) otherEncoded] at decoded
  cases decoded
  rfl

namespace Client

variable {client next : Client} {ref other : SessionRef} {session otherSession : Session}
  {message : Signal} {release : Release} {datagram : Bytes}

/-- One datagram is sent, the answer to a release indication, and the session is released. -/
structure AnswersRelease (ref : SessionRef) (id : SessionId) (transaction : UInt32)
    (reason : ReasonCode) (client next : Client) : Prop where
  sent : ∃ attempt : SendAttempt,
    (Signal.released transaction id reason).encode = .ok attempt.bytes ∧
      next.courier.transport.attempts = attempt :: client.courier.transport.attempts
  released : ∃ after, next.session? ref = some after ∧ after.state = .released

/-- A session that is not released answers the indication in its own name. -/
theorem answersRelease_onReleaseIndication (found : client.session? ref = some session)
    (unreleased : session.state ≠ .released) (transaction : UInt32) (release : Release) :
    AnswersRelease ref session.id transaction release.reason client
      (client.onReleaseIndication ref transaction release) := by
  obtain ⟨bytes, encoded⟩ :=
    Signal.exists_encode_released transaction session.id release.reason
  obtain ⟨attempt, rfl, attempts⟩ :=
    client.courier.attempts_submit_zero encoded session.number ref
  have sent : (client.submit ref session
      (.released transaction session.id release.reason) 0).2.session? ref = some session := found
  rw [onReleaseIndication_eq found unreleased]
  constructor
  case sent =>
    refine ⟨attempt, encoded, ?_⟩
    rw [← attempts]
    exact congrArg Transport.attempts (transport_finish sent)
  case released =>
    obtain ⟨events, finished⟩ := session?_finish sent release.reason true
    exact ⟨_, finished, rfl⟩

/-- A live session that is named in the indication answers it. -/
theorem Sound.answersRelease (sound : client.Sound) (numbered : client.Numbered)
    (found : client.session? ref = some session) (active : session.IsActive)
    (decoded : Signal.decode datagram = .ok message)
    (body : message.body = .release .indication release) (same : release.session = session.id)
    (named : session.id.isZero = false) :
    AnswersRelease ref session.id message.transaction release.reason client
      (client.dispatch datagram) := by
  have reached := sound.lookup_eq numbered found active named
  rw [dispatch_releaseIndication_eq decoded body (same ▸ named), same, reached, Option.some_or]
  exact answersRelease_onReleaseIndication found active.2 _ release

/-- Whoever answers an indication with a name is a live session of that name. -/
theorem Sound.exists_active_of_answersRelease (sound : client.Sound) {id : SessionId}
    (decoded : Signal.decode datagram = .ok message)
    (body : message.body = .release .indication release) (same : release.session = id)
    (named : id.isZero = false)
    (answers : AnswersRelease ref id message.transaction release.reason client
      (client.dispatch datagram)) :
    ∃ other otherSession, client.session? other = some otherSession ∧ otherSession.IsActive ∧
      otherSession.id = id := by
  obtain ⟨attempt, encoded, attempts⟩ := answers.sent
  rw [dispatch_releaseIndication_eq decoded body (same ▸ named)] at attempts
  split at attempts
  · next other reached =>
      obtain ⟨owner, handler⟩ : ∃ owner, client.routes.handler? owner = some other := by
        rcases Option.or_eq_some_iff.mp reached with bound | ⟨_, awaiting⟩
        · exact (handler?_of_lookup bound).2
        · exact (handler?_of_routeTransaction sound.routes awaiting).2.2
      obtain ⟨otherSession, found, _, active⟩ := sound.routed.mp handler
      obtain ⟨again, againEncoded, againAttempts⟩ :=
        (answersRelease_onReleaseIndication found active.2 message.transaction release).sent
      cases againAttempts.symm.trans attempts
      exact ⟨other, otherSession, found, active, Signal.released_inj encoded againEncoded⟩
  · exact absurd attempts (List.cons_ne_self _ _).symm

/-- In every run from the start, as long as numbers for sessions do not run out, a release
indication with the name of a live session is answered once in that name, and leaves the session
released, exactly when the session was not released before or shares its name with a live
session that was not. -/
theorem answersRelease_iff (settings : ClientSettings) (actions : List ClientAction)
    (few : ClientAction.allCreated actions < 2 ^ 32 - 1)
    (found : ((start settings).run actions).session? ref = some session)
    (held : session.isHeld = true) (named : session.id.isZero = false)
    (decoded : Signal.decode datagram = .ok message)
    (body : message.body = .release .indication release) (same : release.session = session.id) :
    AnswersRelease ref session.id message.transaction release.reason
        ((start settings).run actions) (((start settings).run actions).dispatch datagram) ↔
      session.state ≠ .released ∨
        ∃ other otherSession, ((start settings).run actions).session? other = some otherSession ∧
          otherSession.isHeld = true ∧ otherSession.state ≠ .released ∧
          otherSession.id = session.id := by
  have sound := (Evolves.start settings few).sound
  have numbered := (Numbered.start settings).run (.start settings)
    (Nat.lt_of_le_of_lt (Nat.le_of_eq (Nat.zero_add _)) few)
  generalize (start settings).run actions = client at *
  constructor
  · intro answers
    obtain ⟨other, otherSession, otherFound, active, shared⟩ :=
      sound.exists_active_of_answersRelease decoded body same named answers
    exact .inr ⟨other, otherSession, otherFound, active.1, active.2, shared⟩
  · rintro (unreleased | ⟨other, otherSession, otherFound, otherHeld, unreleased, shared⟩)
    · exact sound.answersRelease numbered found ⟨held, unreleased⟩ decoded body same named
    · by_cases released : session.state = .released
      · -- the other session answers in the name that they share
        have active : otherSession.IsActive := ⟨otherHeld, unreleased⟩
        have answers := sound.answersRelease numbered otherFound active decoded body
          (same.trans shared.symm) (shared ▸ named)
        have reached := sound.lookup_eq numbered otherFound active (shared ▸ named)
        obtain ⟨_, alone⟩ := (sound.orderly.releaseIndication decoded body (same ▸ named)).1 other
          (same ▸ shared ▸ reached)
        have different : ref ≠ other := by
          rintro rfl
          cases found.symm.trans otherFound
          exact unreleased released
        exact ⟨shared ▸ answers.sent, session, (alone.others different).trans found, released⟩
      · exact sound.answersRelease numbered found ⟨held, released⟩ decoded body same named

/-- A release indication for the first session of a client. -/
def firstIndication : Signal := ⟨1, [], .release .indication ⟨sampleId 1, .normal, {}⟩⟩

/-- The first session is asked for, and the network releases it. -/
def releasedOnce : List ClientAction :=
  awaitedSetup ++ [.dispatch (sampleDatagram firstIndication.body 1)]

theorem answersRelease_iff_firstIndication :
    ClientAction.allCreated awaitedSetup < 2 ^ 32 - 1 ∧
    Signal.decode (sampleDatagram firstIndication.body 1) = .ok firstIndication ∧
    AnswersRelease 0 (sampleId 1) 1 .normal ((start sampleSettings).run awaitedSetup)
      (((start sampleSettings).run awaitedSetup).dispatch
        (sampleDatagram firstIndication.body 1)) := by
  have few : ClientAction.allCreated awaitedSetup < 2 ^ 32 - 1 := by decide
  have decoded : Signal.decode (sampleDatagram firstIndication.body 1) = .ok firstIndication := by
    decide +kernel
  obtain ⟨session, found, held, id, sent⟩ :
      ∃ session, ((start sampleSettings).run awaitedSetup).session? 0 = some session ∧
        session.isHeld = true ∧ session.id = sampleId 1 ∧ session.state = .setupSent :=
    ⟨_, rfl, rfl, rfl, rfl⟩
  have unreleased : session.state ≠ .released := fun released => nomatch sent.symm.trans released
  have answers := (answersRelease_iff sampleSettings awaitedSetup few found held
    (by rw [id]; rfl) decoded rfl id.symm).mpr (.inl unreleased)
  rw [id] at answers
  exact ⟨few, decoded, answers⟩

/-- A session that was released does not answer when the indication is repeated. -/
theorem not_answersRelease_repeated :
    ¬ ∀ (settings : ClientSettings) (actions : List ClientAction) (ref : SessionRef)
      (session : Session) (datagram : Bytes) (message : Signal) (release : Release),
      ((start settings).run actions).session? ref = some session → session.isHeld = true →
      session.id.isZero = false → Signal.decode datagram = .ok message →
      message.body = .release .indication release → release.session = session.id →
      AnswersRelease ref session.id message.transaction release.reason
        ((start settings).run actions) (((start settings).run actions).dispatch datagram) := by
  intro answers
  have decoded : Signal.decode (sampleDatagram firstIndication.body 1) = .ok firstIndication := by
    decide +kernel
  have before : ((start sampleSettings).run releasedOnce).courier.transport.attempts.length =
      2 := rfl
  have after : (((start sampleSettings).run releasedOnce).dispatch
      (sampleDatagram firstIndication.body 1)).courier.transport.attempts.length = 2 := rfl
  obtain ⟨attempt, _, attempts⟩ :=
    (answers sampleSettings releasedOnce 0 _ _ firstIndication _ rfl rfl rfl decoded rfl rfl).sent
  rw [attempts, List.length_cons, before] at after
  cases after

end Client

end OnDemand
