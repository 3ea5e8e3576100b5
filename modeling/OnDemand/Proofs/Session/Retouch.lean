import OnDemand.Proofs.Session.Sound

/-!
# Changes of a session that leave it coherent

What operations and messages do to the session itself, one change after another.  None
of them touches what ties the session to routes and alarms.
-/

namespace OnDemand

namespace Session

variable {session : Session} {transaction : UInt32}

/-! ## What a coherent session does not have -/

theorem Coherent.setup_eq_none (coherent : session.Coherent) (other : session.state ≠ .setupSent) :
    session.setup = none :=
  Option.not_isSome_iff_eq_none.mp fun some => other (coherent.setup.mp some)

theorem Coherent.release_eq_none (coherent : session.Coherent)
    (other : session.state ≠ .releasing) : session.release = none :=
  Option.not_isSome_iff_eq_none.mp fun some => other (coherent.release.mp some)

theorem Coherent.keepAlive_eq_none (coherent : session.Coherent)
    (other : session.state.isEstablished = false) : session.keepAlive = none :=
  Option.not_isSome_iff_eq_none.mp fun some => nomatch other.symm.trans (coherent.keepAlive some)

/-! ## Operations -/

theorem retouches_setup (idle : session.state = .idle) :
    session.RetouchesInside (some (.setupRequest, transaction))
      { session with state := .setupSent, setup := some transaction } where
  number := rfl
  profile := rfl
  coherent coherent := by
    have release := coherent.release_eq_none (by rw [idle]; nofun)
    have keepAlive := coherent.keepAlive_eq_none (by rw [idle]; rfl)
    constructor
    case setup => exact iff_of_true rfl rfl
    case release => exact iff_of_false (by rw [release]; nofun) nofun
    case keepAlive => exact fun some => nomatch keepAlive ▸ some
    case released => nofun
  slots := by
    intro kind other slot
    simp only [Session.slot] at slot ⊢
    split at slot
    · cases slot
      exact .inr rfl
    all_goals exact .inl slot
  keepAlive := rfl
  isHeld := rfl
  released := by simp only [idle, reduceCtorEq]

/-- A setup that was asked for comes to nothing. -/
theorem retouches_setup_none {state : SessionState} (sent : session.state = .setupSent)
    (ends : state = .idle ∨ state = .error) :
    session.RetouchesInside none { session with setup := none, state } where
  number := rfl
  profile := rfl
  coherent coherent := by
    have release := coherent.release_eq_none (by rw [sent]; nofun)
    have keepAlive := coherent.keepAlive_eq_none (by rw [sent]; rfl)
    constructor
    case setup => rcases ends with rfl | rfl <;> simp
    case release => rcases ends with rfl | rfl <;> simp [release]
    case keepAlive => exact fun some => nomatch keepAlive ▸ some
    case released => rcases ends with rfl | rfl <;> simp
  slots := by
    intro kind other slot
    unfold Session.slot at slot ⊢
    split at slot
    · cases slot
    all_goals exact .inl slot
  keepAlive := rfl
  isHeld := rfl
  released := by
    rw [sent]
    rcases ends with rfl | rfl <;> exact iff_of_false nofun nofun

theorem retouches_status (unreleased : session.state ≠ .released) :
    session.RetouchesInside (some (.statusRequest, transaction))
      { session with status := some transaction } where
  number := rfl
  profile := rfl
  coherent coherent :=
    ⟨coherent.setup, coherent.release, coherent.keepAlive,
      fun released => absurd released unreleased⟩
  slots := by
    intro kind other slot
    simp only [Session.slot] at slot ⊢
    split at slot
    case h_3 =>
      cases slot
      exact .inr rfl
    all_goals exact .inl slot
  keepAlive := rfl
  isHeld := rfl
  released := .rfl

theorem retouches_status_none : session.RetouchesInside none { session with status := none } where
  number := rfl
  profile := rfl
  coherent coherent :=
    ⟨coherent.setup, coherent.release, coherent.keepAlive,
      fun released => ⟨rfl, (coherent.released released).2⟩⟩
  slots := by
    intro kind other slot
    simp only [Session.slot] at slot ⊢
    split at slot
    case h_3 => cases slot
    all_goals exact .inl slot
  keepAlive := rfl
  isHeld := rfl
  released := .rfl

theorem retouches_reset (unreleased : session.state ≠ .released) :
    session.RetouchesInside (some (.reset .request, transaction))
      { session with reset := some transaction } where
  number := rfl
  profile := rfl
  coherent coherent :=
    ⟨coherent.setup, coherent.release, coherent.keepAlive,
      fun released => absurd released unreleased⟩
  slots := by
    intro kind other slot
    simp only [Session.slot] at slot ⊢
    split at slot
    case h_4 =>
      cases slot
      exact .inr rfl
    all_goals exact .inl slot
  keepAlive := rfl
  isHeld := rfl
  released := .rfl

theorem retouches_reset_none : session.RetouchesInside none { session with reset := none } where
  number := rfl
  profile := rfl
  coherent coherent :=
    ⟨coherent.setup, coherent.release, coherent.keepAlive,
      fun released => ⟨(coherent.released released).1, rfl, (coherent.released released).2.2⟩⟩
  slots := by
    intro kind other slot
    simp only [Session.slot] at slot ⊢
    split at slot
    case h_4 => cases slot
    all_goals exact .inl slot
  keepAlive := rfl
  isHeld := rfl
  released := .rfl

/-- A session that awaits its release and nothing else. -/
def releasing (transaction : UInt32) (session : Session) : Session :=
  { session with
    state := .releasing
    setup := none
    status := none
    reset := none
    release := some transaction }

theorem slot_releasing {kind : SignalKind} {other : UInt32}
    (slot : (session.releasing transaction).slot kind = some other) : kind = .release .request := by
  simp only [Session.slot] at slot
  split at slot
  case h_2 => rfl
  all_goals cases slot

theorem retouches_release (unreleased : session.state ≠ .released)
    (none : session.keepAlive = none) :
    session.RetouchesInside (some (.release .request, transaction))
      (session.releasing transaction) where
  number := rfl
  profile := rfl
  coherent _ := by
    constructor
    case setup => exact iff_of_false nofun nofun
    case release => exact iff_of_true rfl rfl
    case keepAlive => exact fun some => nomatch none ▸ some
    case released => nofun
  slots := by
    intro kind other slot
    cases slot_releasing slot
    cases slot
    exact .inr rfl
  keepAlive := rfl
  isHeld := rfl
  released := by simp only [releasing, unreleased, reduceCtorEq]

theorem retouches_connect (ready : session.state = .serverReady) :
    session.RetouchesInside none { session with state := .connectSent } where
  number := rfl
  profile := rfl
  coherent coherent := by
    have setup := coherent.setup_eq_none (by rw [ready]; nofun)
    have release := coherent.release_eq_none (by rw [ready]; nofun)
    constructor
    case setup => exact iff_of_false (by rw [setup]; nofun) nofun
    case release => exact iff_of_false (by rw [release]; nofun) nofun
    case keepAlive => exact fun _ => rfl
    case released => nofun
  slots := .inl
  keepAlive := rfl
  isHeld := rfl
  released := by simp only [ready, reduceCtorEq]

/-- The owner takes events. -/
theorem retouches_eventsTaken {eventsTaken : Nat} :
    session.RetouchesInside none { session with eventsTaken } where
  number := rfl
  profile := rfl
  coherent coherent :=
    ⟨coherent.setup, coherent.release, coherent.keepAlive, coherent.released⟩
  slots := .inl
  keepAlive := rfl
  isHeld := rfl
  released := .rfl

/-! ## Messages -/

/-- The session takes a name. -/
theorem retouches_id {id : SessionId} : session.RetouchesInside none { session with id } where
  number := rfl
  profile := rfl
  coherent coherent :=
    ⟨coherent.setup, coherent.release, coherent.keepAlive, coherent.released⟩
  slots := .inl
  keepAlive := rfl
  isHeld := rfl
  released := .rfl

/-- Conditional access begins. -/
theorem retouches_caActive (unreleased : session.state ≠ .released) :
    session.RetouchesInside none { session with caActive := true } where
  number := rfl
  profile := rfl
  coherent coherent :=
    ⟨coherent.setup, coherent.release, coherent.keepAlive,
      fun released => absurd released unreleased⟩
  slots := .inl
  keepAlive := rfl
  isHeld := rfl
  released := .rfl

theorem applyResource_eq (session : Session) (resource : Resource) :
    ∃ tuning caInfo entitlementId,
      session.applyResource resource = { session with tuning, caInfo, entitlementId } := by
  simp only [applyResource]
  split <;> exact ⟨_, _, _, rfl⟩

theorem foldl_applyResource_eq (resources : List Resource) (session : Session) :
    ∃ tuning caInfo entitlementId,
      resources.foldl applyResource session =
        { session with tuning, caInfo, entitlementId } := by
  induction resources generalizing session with
  | nil => exact ⟨_, _, _, rfl⟩
  | cons resource rest ih =>
      obtain ⟨tuning, caInfo, entitlementId, first⟩ := session.applyResource_eq resource
      rw [List.foldl_cons, first]
      exact ih _

/-- A granting confirm changes nothing but what it is about. -/
theorem applyConfirm_eq (session : Session) (confirm : SetupConfirm) :
    ∃ tuning caInfo entitlementId resources endpoint handle duration,
      session.applyConfirm confirm =
        { session with
          tuning, caInfo, entitlementId, resources, endpoint, handle, duration
          state := .serverReady } := by
  obtain ⟨tuning, caInfo, entitlementId, folded⟩ :=
    foldl_applyResource_eq confirm.resources session
  simp only [applyConfirm, applyPrivateData]
  rw [folded]
  simp only
  split
  · exact ⟨_, _, _, _, _, _, _, rfl⟩
  · split <;> exact ⟨_, _, _, _, _, _, _, rfl⟩

/-- What an accepted confirm makes of a session. -/
def granted (confirm : SetupConfirm) (session : Session) : Session :=
  { session with setup := none }.applyConfirm confirm

/-- A session that was waiting for its confirm is granted. -/
theorem retouches_granted (sent : session.state = .setupSent) (confirm : SetupConfirm) :
    session.RetouchesInside none (session.granted confirm) := by
  obtain ⟨tuning, caInfo, entitlementId, resources, endpoint, handle, duration, applied⟩ :=
    applyConfirm_eq { session with setup := none } confirm
  rw [granted, applied]
  constructor
  case toRetouches =>
    refine ⟨rfl, rfl, fun coherent => ?_, fun {kind other} slot => ?_⟩
    · have release := coherent.release_eq_none (by rw [sent]; nofun)
      constructor
      case setup => exact iff_of_false nofun nofun
      case release => exact iff_of_false (by rw [release]; nofun) nofun
      case keepAlive => exact fun _ => rfl
      case released => nofun
    · simp only [Session.slot] at slot ⊢
      split at slot
      · cases slot
      all_goals exact .inl slot
  case keepAlive => rfl
  case isHeld => rfl
  case released => simp only [sent, reduceCtorEq]

/-- A session that was granted awaits its setup no more. -/
theorem setup_granted (confirm : SetupConfirm) : (session.granted confirm).setup = none := by
  obtain ⟨_, _, _, _, _, _, _, applied⟩ := applyConfirm_eq { session with setup := none } confirm
  rw [granted, applied]

theorem state_granted (confirm : SetupConfirm) :
    (session.granted confirm).state = .serverReady := by
  obtain ⟨_, _, _, _, _, _, _, applied⟩ := applyConfirm_eq { session with setup := none } confirm
  rw [granted, applied]

theorem isEstablished_granted (confirm : SetupConfirm) :
    (session.granted confirm).state.isEstablished = true := by
  rw [state_granted]
  rfl

/-- Granting a session tells nothing yet. -/
theorem events_granted (confirm : SetupConfirm) :
    (session.granted confirm).events = session.events := by
  obtain ⟨_, _, _, _, _, _, _, applied⟩ := applyConfirm_eq { session with setup := none } confirm
  rw [granted, applied]

end Session

end OnDemand
