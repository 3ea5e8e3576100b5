import OnDemand.Proofs.Session.Run

/-!
# Released is final

A session that is released has let go of everything, whichever way it was released, and
whatever happens to its client afterwards, it stays as it is and nothing is sent for it.
-/

namespace OnDemand

namespace Client

variable {client : Client} {ref : SessionRef} {session : Session}

/-- Nothing that a session had, awaited or was reached by is left. -/
structure LeavesNothing (client : Client) (ref : SessionRef) (session : Session) : Prop where
  setup : session.setup = none
  release : session.release = none
  status : session.status = none
  reset : session.reset = none
  keepAlive : session.keepAlive = none
  /-- No keep-alive alarm is set for it. -/
  alarms : ∀ alarm ∈ client.courier.agenda.alarms, alarm.task ≠ .keepAlive ref
  caActive : session.caActive = false
  /-- It is on no route. -/
  route : client.routes.sessions.get? session.number = none
  /-- No number on the wire leads to it. -/
  numbers : ∀ number, client.routes.byNumber.get? number ≠ some session.number
  /-- No request is kept for it. -/
  requests : ∀ transaction request, client.courier.pending.get? transaction = some request →
    request.session ≠ session.number

/-- In a sound client a released session leaves nothing behind. -/
theorem Sound.leavesNothing (sound : client.Sound) (found : client.session? ref = some session)
    (released : session.state = .released) : LeavesNothing client ref session := by
  have coherent := sound.coherent found
  obtain ⟨status, reset, caActive⟩ := coherent.released released
  have unset : session.keepAlive = none := coherent.keepAlive_eq_none (by rw [released]; rfl)
  -- only an active session has the number, and sessions with one number are one session
  have inactive : ∀ {other again}, client.session? other = some again →
      again.number = session.number → ¬ again.IsActive := by
    intro other again againFound same active
    obtain rfl : other = ref := (sound.number_eq_iff found againFound).mp same
    cases found.symm.trans againFound
    exact active.2 released
  have unrouted : client.routes.handler? session.number = none := by
    cases handler : client.routes.handler? session.number with
    | none => rfl
    | some other =>
        obtain ⟨again, againFound, same, active⟩ := sound.routed.mp handler
        exact absurd active (inactive againFound same)
  constructor
  case setup => exact coherent.setup_eq_none (by rw [released]; nofun)
  case release => exact coherent.release_eq_none (by rw [released]; nofun)
  case status => exact status
  case reset => exact reset
  case keepAlive => exact unset
  case alarms =>
    intro alarm set task
    obtain ⟨again, againFound, same⟩ := sound.ringing set task
    cases found.symm.trans againFound
    cases unset.symm.trans same
  case caActive => exact caActive
  case route => exact Option.map_eq_none_iff.mp unrouted
  case numbers => exact sound.routes.byNumber_ne unrouted
  case requests =>
    intro transaction request present same
    obtain ⟨again, againFound, number, active⟩ := sound.owned present
    exact inactive againFound (number.trans same) active

/-- A session that is released at some time in a run has left nothing behind.  Whatever
comes later in the run, its state, its events and all else that it knows stay the same,
apart from what its owner takes and holds, and nothing more is sent on its behalf. -/
theorem released_isFinal (settings : ClientSettings) (earlier later : List ClientAction)
    (few : ClientAction.allCreated (earlier ++ later) < 2 ^ 32 - 1)
    (found : ((start settings).run earlier).session? ref = some session)
    (released : session.state = .released) :
    LeavesNothing ((start settings).run earlier) ref session ∧
      Undisturbed ref ((start settings).run earlier) ((start settings).run (earlier ++ later)) := by
  have rest := Evolves.resume settings few
  rw [ClientAction.allCreated_append] at few
  have first := Evolves.start settings (Nat.lt_of_le_of_lt (Nat.le_add_right _ _) few)
  exact ⟨first.sound.leavesNothing found released, rest.final found released⟩

/-- A session is granted and used, and its release is never answered. -/
def unansweredRelease : List ClientAction :=
  [.create (.ofVendor .arris) {}, .operate .setup 0,
    .dispatch (sampleDatagram (.setupConfirm ⟨sampleId 1, ⟨0⟩, .zero, [], {}⟩) 1),
    .operate .connect 0, .operate .teardown 0, .advance 8000000]

/-- A late confirm, a reset of the network, and an owner who tries again. -/
def lateStimuli : List ClientAction :=
  [.dispatch (sampleDatagram (.release .confirm ⟨sampleId 1, .clientRelease, {}⟩) 3),
    .dispatch (sampleDatagram (.reset .indication ⟨.zero, .normal⟩) 9),
    .operate .teardown 0, .operate .takeEvents 0, .advance 600000000]

theorem released_isFinal_unanswered :
    ClientAction.allCreated (unansweredRelease ++ lateStimuli) < 2 ^ 32 - 1 ∧
    ∃ session, ((start sampleSettings).run unansweredRelease).session? 0 = some session ∧
      session.state = .released ∧
      LeavesNothing ((start sampleSettings).run unansweredRelease) 0 session ∧
      Undisturbed 0 ((start sampleSettings).run unansweredRelease)
        ((start sampleSettings).run (unansweredRelease ++ lateStimuli)) :=
  ⟨by decide, _, rfl, rfl,
    released_isFinal sampleSettings unansweredRelease lateStimuli (by decide) rfl rfl⟩

end Client

end OnDemand
