import OnDemand.Proofs.Session.Acts
import OnDemand.Proofs.Session.Retouch
import OnDemand.Session.Operations

/-!
# Operations act for their session alone

Each operation on a session that its owner holds affects that session only and keeps it
tended, whether it succeeds or fails.  On a released session an operation does nothing.
-/

namespace OnDemand

namespace Client

variable {client : Client} {ref : SessionRef} {session : Session}

/-! ## Operations -/

theorem Acts.setup (sound : client.Sound) (found : client.session? ref = some session)
    (held : session.isHeld = true) : Acts ref client (client.setup ref).2 := by
  simp only [Client.setup]
  simp only [found]
  split
  · exact .refl sound ref
  · next idle =>
      simp only [ne_eq, Decidable.not_not] at idle
      have active : session.IsActive := ⟨held, by rw [idle]; nofun⟩
      split
      · exact .refl sound ref
      · refine Acts.ask sound found active rfl rfl rfl (Session.retouches_setup idle) ?_ rfl
        exact Session.retouches_setup_none rfl (.inl rfl)

theorem Gentle.sendInProgress (sound : client.Sound) (found : client.session? ref = some session)
    (active : session.IsActive) : Gentle ref client (client.sendInProgress ref session).2 := by
  have drawn := Gentle.draw sound ref
  have present : client.drawTransaction.2.session? ref = some session := found
  exact drawn.trans (Gentle.send drawn.sound present rfl active)

theorem Acts.sendKeepAlive (sound : client.Sound) (found : client.session? ref = some session)
    (held : session.isHeld = true) : Acts ref client (client.sendKeepAlive ref).2 := by
  simp only [Client.sendKeepAlive]
  simp only [found]
  split
  · exact .refl sound ref
  · next established =>
      rw [Bool.not_eq_true, Bool.not_eq_false] at established
      have active : session.IsActive :=
        ⟨held, SessionState.ne_released_of_isEstablished established⟩
      exact (Gentle.sendInProgress sound found active).acts

theorem Acts.connect (sound : client.Sound) (found : client.session? ref = some session)
    (held : session.isHeld = true) : Acts ref client (client.connect ref).2 := by
  simp only [Client.connect]
  simp only [found]
  split
  · exact .refl sound ref
  · next ready =>
      simp only [ne_eq, Decidable.not_not] at ready
      have active : session.IsActive := ⟨held, by rw [ready]; nofun⟩
      have drawn := Gentle.draw sound ref
      have present : client.drawTransaction.2.session? ref = some session := found
      have sent : Gentle ref client (client.drawTransaction.2.submit ref session
          ⟨client.drawTransaction.1, [], .connectRequest ⟨session.id, {}⟩⟩ 0).2 :=
        drawn.trans (Gentle.send drawn.sound present rfl active)
      split
      · next submitted outcome =>
          obtain rfl : _ = submitted := congrArg Prod.snd outcome
          have stepped := Gentle.retouch sent.sound found
            (fun session => { session with state := .connectSent })
            (Session.retouches_connect ready)
          exact (sent.trans stepped).acts
      · next cause submitted outcome => exact (congrArg Prod.snd outcome ▸ sent).acts

theorem Acts.requestStatus (sound : client.Sound) (found : client.session? ref = some session)
    (held : session.isHeld = true) : Acts ref client (client.requestStatus ref).2 := by
  simp only [Client.requestStatus]
  simp only [found]
  split
  · exact .refl sound ref
  · next allowed =>
      have unreleased := (SessionState.not_ending fun refused =>
        allowed ⟨refused.1, refused.2.2⟩).2
      exact Acts.ask sound found ⟨held, unreleased⟩ rfl rfl rfl
        (Session.retouches_status unreleased) Session.retouches_status_none rfl

theorem Acts.reset (sound : client.Sound) (found : client.session? ref = some session)
    (held : session.isHeld = true) : Acts ref client (client.reset ref).2 := by
  simp only [Client.reset]
  simp only [found]
  split
  · exact .refl sound ref
  · next allowed =>
      have unreleased := (SessionState.not_ending allowed).2
      exact Acts.ask sound found ⟨held, unreleased⟩ rfl rfl rfl
        (Session.retouches_reset unreleased) Session.retouches_reset_none rfl

/-- A session that has forgotten its requests asks for its release, or is released at once
when it cannot. -/
theorem Acts.asking_release {quiet : Client} {stored : Session} {message : Signal}
    {retries : Nat} (quieted : Affects ref (fun _ owner => owner = ref) client quiet)
    (present : quiet.session? ref = some stored) (number : session.number = stored.number)
    (active : stored.IsActive) (unset : stored.keepAlive = none) (stands : stored.release = none)
    (transaction : message.transaction = quiet.drawTransaction.1)
    (named : message.kind = .release .request)
    (repeats : retries = quiet.settings.retryCount.toNat) :
    Acts ref client
      (match quiet.asking ref (Session.releasing quiet.drawTransaction.1) session message
          retries with
        | (.ok (), next) => ((.ok (), next) : Except SessionError Unit × Client)
        | (.error cause, next) =>
            (.error (.notSubmitted cause), next.finish ref .clientRelease false)).2 := by
  have marks : stored.RetouchesInside (some (.release .request, quiet.drawTransaction.1))
      (stored.releasing quiet.drawTransaction.1) := Session.retouches_release active.2 unset
  have sender : quiet.asking ref (Session.releasing quiet.drawTransaction.1) session message
      retries = quiet.asking ref (Session.releasing quiet.drawTransaction.1) stored message
        retries := by
    simp only [asking, Client.submit, number]
  rw [sender]
  have asked : Affects ref _ _ (quiet.asking ref (Session.releasing quiet.drawTransaction.1)
      stored message retries).2 := Affects.asking quieted.sound present active transaction marks
  have fresh : ∀ {transaction owner}, quiet.drawTransaction.2.drawn.Nodup →
      owner = ref ∨ transaction = quiet.drawTransaction.1 →
        owner = ref ∨ transaction ∉ client.drawn := by
    rintro _ owner nodup (own | rfl)
    · exact .inl own
    · exact .inr fun drawn => drawTransaction_notMem nodup (quieted.drawn.subset drawn)
  split
  · next next outcome =>
      have accepted := congrArg Prod.fst outcome
      obtain rfl : _ = next := congrArg Prod.snd outcome
      refine (quieted.trans asked).acts (fun nodup _ _ gone => fresh nodup gone) fun nodup _ => ?_
      refine tended_asking quieted.sound present active transaction named marks repeats accepted
        nodup fun slot before => ?_
      rw [Session.slot_releasing slot] at before
      cases stands.symm.trans before
  · next cause next outcome =>
      obtain rfl : _ = next := congrArg Prod.snd outcome
      have finished := Affects.finish asked.sound ref .clientRelease false
      refine ((quieted.trans asked).trans finished).acts ?_ fun _ _ => ?_
      · rintro nodup _ _ (gone | own)
        · exact fresh (nodup.sublist finished.drawn.sublist) gone
        · exact .inl own
      · exact tended_finish asked.sound ref .clientRelease false

theorem Acts.teardown (sound : client.Sound) (found : client.session? ref = some session)
    (held : session.isHeld = true) : Acts ref client (client.teardown ref).2 := by
  have cancelled := Affects.cancel sound found
  have disarmed := Gentle.disarm cancelled.sound ref
  have quieted := (cancelled.trans disarmed.toAffects).mono
    fun _ owner (gone : owner = ref ∨ False) => gone.resolve_right id
  have present : (disarmKeepAlive ref { client with
      courier := (client.courier.cancelSession session.number).2 }).session? ref = _ :=
    session?_disarmKeepAlive found
  simp only [Client.teardown]
  simp only [found]
  have coherent := sound.coherent found
  cases state : session.state
  case releasing => exact .refl sound ref
  case released => exact .refl sound ref
  case idle => exact Acts.finish sound ref .clientRelease false
  all_goals
    refine Acts.asking_release quieted present rfl ⟨held, ?_⟩ rfl ?_ rfl rfl rfl
    · simp only [state, ne_eq, reduceCtorEq, not_false_eq_true]
    · exact coherent.release_eq_none (by rw [state]; nofun)

/-- A session that its owner drops lets go of all it holds. -/
theorem Acts.drop (sound : client.Sound) (ref : SessionRef) :
    Acts ref client (client.drop ref) := by
  simp only [Client.drop]
  split
  · exact .refl sound ref
  · next session found =>
      have disarmed := Gentle.disarm sound ref
      have present := session?_disarmKeepAlive found
      have gone := Affects.letGo disarmed.sound
        (fun session => { session with isHeld := false }) present rfl
        ⟨rfl, rfl, fun coherent =>
          ⟨coherent.setup, coherent.release, coherent.keepAlive, coherent.released⟩, .inl⟩
        rfl (fun active => nomatch active.1)
      refine (disarmed.toAffects.trans gone).acts ?_ fun _ _ => ?_
      · rintro _ _ _ (never | own)
        · exact never.elim
        · exact .inl own
      · refine gone.sound.tended_of_released fun after afterFound => .inl ?_
        cases (session?_modify_self present).symm.trans afterFound
        rfl

theorem Gentle.takeEvents (sound : client.Sound) (ref : SessionRef) :
    Gentle ref client (client.takeEvents ref).2 := by
  simp only [Client.takeEvents]
  split
  · exact .refl sound ref
  · exact Gentle.modify sound fun _ _ => Session.retouches_eventsTaken

theorem Gentle.awaitReady (sound : client.Sound) (ref : SessionRef) :
    Gentle ref client (client.awaitReady ref).2 := by
  simp only [Client.awaitReady]
  split
  · exact .refl sound ref
  · next session found =>
      apply Gentle.retouch sound found (fun _ => session.awaitReady.2)
      unfold Session.awaitReady
      simp only
      split
      · exact Session.retouches_eventsTaken
      · exact Session.retouches_eventsTaken

end Client

end OnDemand
