import OnDemand.Session.Basic

/-!
# The course of a session

Where a session stands and what its owner has been told go together.  The course of a
session is made of turns.  Each of them tells some events, possibly none, and leads to the
same state or to a neighbour.  What the events told so far say about the state is an
invariant of every course, whatever makes the session turn.
-/

namespace OnDemand

/-- Whether a session may go from one state straight to another. -/
def SessionState.leadsTo : SessionState → SessionState → Bool
  | .idle, .setupSent => true
  | .setupSent, .serverReady | .setupSent, .error => true
  | .serverReady, .connectSent => true
  | .setupSent, .releasing | .serverReady, .releasing | .connectSent, .releasing
  | .error, .releasing => true
  | _, .released => true
  | _, _ => false

namespace SessionEvent

/-- Whether an event says that the setup came to nothing. -/
def isSetupFailure : SessionEvent → Bool
  | setupFailed _ | deliveryFailed .setupRequest => true
  | _ => false

/-- Whether an event says what came of the setup. -/
def isVerdict : SessionEvent → Bool
  | ready .. => true
  | event => event.isSetupFailure

/-- Whether an event says that the session is gone. -/
def isRelease : SessionEvent → Bool
  | released .. => true
  | _ => false

/-- Whether an event says neither. -/
def isMinor (event : SessionEvent) : Bool := !event.isVerdict && !event.isRelease

/-- The events among some that say what came of the setup. -/
def verdicts (events : List SessionEvent) : List SessionEvent := events.filter isVerdict

/-- The events among some that say that the session is gone. -/
def releases (events : List SessionEvent) : List SessionEvent := events.filter isRelease

variable {event : SessionEvent} {events told : List SessionEvent}

/-- All of the events are minor. -/
def AllMinor (events : List SessionEvent) : Prop := ∀ event ∈ events, event.isMinor = true

theorem AllMinor.nil : AllMinor [] := nofun

theorem AllMinor.single (minor : event.isMinor = true) : AllMinor [event] := by
  intro other member
  rw [List.mem_singleton.mp member]
  exact minor

theorem AllMinor.append (first : AllMinor events) (second : AllMinor told) :
    AllMinor (events ++ told) := by
  intro event member
  cases List.mem_append.mp member with
  | inl before => exact first event before
  | inr after => exact second event after

@[simp] theorem verdicts_append : verdicts (events ++ told) = verdicts events ++ verdicts told :=
  List.filter_append ..

@[simp] theorem releases_append : releases (events ++ told) = releases events ++ releases told :=
  List.filter_append ..

theorem AllMinor.verdicts_eq_nil (minor : AllMinor told) : verdicts told = [] := by
  apply List.filter_eq_nil_iff.mpr
  intro event member verdict
  have isMinor := minor event member
  rw [SessionEvent.isMinor, verdict] at isMinor
  cases isMinor

theorem AllMinor.releases_eq_nil (minor : AllMinor told) : releases told = [] := by
  apply List.filter_eq_nil_iff.mpr
  intro event member release
  have isMinor := minor event member
  rw [SessionEvent.isMinor, release, Bool.not_true, Bool.and_false] at isMinor
  cases isMinor

/-- What minor events leave of those around them. -/
theorem AllMinor.verdicts_append_append (minor : AllMinor told) (events last : List SessionEvent) :
    verdicts (events ++ (told ++ last)) = verdicts events ++ verdicts last := by
  rw [verdicts_append, verdicts_append, minor.verdicts_eq_nil, List.nil_append]

theorem AllMinor.releases_append_append (minor : AllMinor told) (events last : List SessionEvent) :
    releases (events ++ (told ++ last)) = releases events ++ releases last := by
  rw [releases_append, releases_append, minor.releases_eq_nil, List.nil_append]

theorem verdicts_of_isSetupFailure (failure : event.isSetupFailure = true) :
    verdicts [event] = [event] ∧ releases [event] = [] := by
  cases event with
  | setupFailed code => exact ⟨rfl, rfl⟩
  | deliveryFailed kind =>
      simp only [isSetupFailure] at failure
      split at failure
      · next same => cases same
      · next same => cases same; exact ⟨rfl, rfl⟩
      · cases failure
  | ready _ _ _ | caFailed _ | status _ _ _ | resetIndicated _ | released _ _ => cases failure

end SessionEvent

open SessionEvent (AllMinor verdicts releases)

/-- A session turns from one state to another, and its owner is told some events. -/
inductive SessionState.Turns : SessionState → List SessionEvent → SessionState → Prop where
  | stays {state : SessionState} {told : List SessionEvent} (minor : AllMinor told)
      (silent : state = .released → told = []) : Turns state told state
  | asked : Turns .idle [] .setupSent
  | granted {told : List SessionEvent} {session : SessionId} {endpoint : Option Ipv4Endpoint}
      {handle : Option UInt32} (minor : AllMinor told) :
      Turns .setupSent (told ++ [.ready session endpoint handle]) .serverReady
  | failed {event : SessionEvent} (failure : event.isSetupFailure = true) :
      Turns .setupSent [event] .error
  | connected : Turns .serverReady [] .connectSent
  | releases {state : SessionState} (releasable : state.leadsTo .releasing = true) :
      Turns state [] .releasing
  | ended {state : SessionState} {told : List SessionEvent} {reason : ReasonCode}
      {byServer : Bool} (unreleased : state ≠ .released) (minor : AllMinor told) :
      Turns state (told ++ [.released reason byServer]) .released

/-- The states that a session can be in after some events, from when it is idle and nothing
has been told. -/
inductive SessionState.After : List SessionEvent → SessionState → Prop where
  | start : After [] .idle
  | turn {events told : List SessionEvent} {state next : SessionState}
      (after : After events state) (turns : state.Turns told next) : After (events ++ told) next

namespace SessionState

variable {state next : SessionState} {events told : List SessionEvent}

/-- A turn leads to the same state or to a neighbour. -/
theorem Turns.eq_or_leadsTo (turns : state.Turns told next) :
    state = next ∨ state.leadsTo next = true := by
  cases turns with
  | stays minor silent => exact .inl rfl
  | asked => exact .inr rfl
  | granted minor => exact .inr rfl
  | failed failure => exact .inr rfl
  | connected => exact .inr rfl
  | releases releasable => exact .inr releasable
  | ended unreleased minor => cases state <;> exact .inr rfl

/-- What has been told agrees with the state. -/
structure Agrees (events : List SessionEvent) (state : SessionState) : Prop where
  /-- What came of the setup is told at most once. -/
  once : (verdicts events).length ≤ 1
  undecided : state = .idle ∨ state = .setupSent → verdicts events = []
  granted : state = .serverReady ∨ state = .connectSent →
    ∃ session endpoint handle, verdicts events = [.ready session endpoint handle]
  failed : state = .error → ∃ event, event.isSetupFailure = true ∧ verdicts events = [event]
  released : state = .released ↔ (releases events).length = 1
  unreleased : state ≠ .released → releases events = []
  /-- Nothing is told after the release. -/
  last : state = .released → ∃ earlier reason byServer,
    events = earlier ++ [.released reason byServer]

/-- A state other than released agrees with events of which none is a release. -/
theorem Agrees.of_unreleased (unreleased : state ≠ .released) (none : releases events = [])
    (once : (verdicts events).length ≤ 1)
    (undecided : state = .idle ∨ state = .setupSent → verdicts events = [])
    (granted : state = .serverReady ∨ state = .connectSent →
      ∃ session endpoint handle, verdicts events = [.ready session endpoint handle])
    (failed : state = .error →
      ∃ event, event.isSetupFailure = true ∧ verdicts events = [event]) :
    Agrees events state where
  once := once
  undecided := undecided
  granted := granted
  failed := failed
  released := iff_of_false unreleased (by rw [none]; nofun)
  unreleased _ := none
  last released := absurd released unreleased

/-- A turn keeps what has been told in agreement with the state. -/
theorem Agrees.turn (agrees : Agrees events state) (turns : state.Turns told next) :
    Agrees (events ++ told) next := by
  cases turns with
  | stays minor silent =>
      have sameVerdicts : verdicts (events ++ told) = verdicts events := by
        rw [SessionEvent.verdicts_append, minor.verdicts_eq_nil, List.append_nil]
      have sameReleases : releases (events ++ told) = releases events := by
        rw [SessionEvent.releases_append, minor.releases_eq_nil, List.append_nil]
      constructor
      case last =>
        intro released
        rw [silent released, List.append_nil]
        exact agrees.last released
      all_goals simp only [sameVerdicts, sameReleases]
      · exact agrees.once
      · exact agrees.undecided
      · exact agrees.granted
      · exact agrees.failed
      · exact agrees.released
      · exact agrees.unreleased
  | asked =>
      have none := agrees.undecided (.inl rfl)
      rw [List.append_nil]
      exact .of_unreleased nofun (agrees.unreleased nofun) agrees.once (fun _ => none) nofun nofun
  | @granted told session endpoint handle minor =>
      have one := minor.verdicts_append_append events [.ready session endpoint handle]
      have none := minor.releases_append_append events [.ready session endpoint handle]
      rw [agrees.undecided (.inr rfl)] at one
      rw [agrees.unreleased nofun] at none
      exact .of_unreleased nofun none (Nat.le_of_eq (congrArg List.length one)) nofun
        (fun _ => ⟨session, endpoint, handle, one⟩) nofun
  | @failed event failure =>
      obtain ⟨verdict, noRelease⟩ := SessionEvent.verdicts_of_isSetupFailure failure
      have one : verdicts (events ++ [event]) = [event] := by
        rw [SessionEvent.verdicts_append, agrees.undecided (.inr rfl), verdict, List.nil_append]
      have none : releases (events ++ [event]) = [] := by
        rw [SessionEvent.releases_append, agrees.unreleased nofun, noRelease, List.nil_append]
      exact .of_unreleased nofun none (Nat.le_of_eq (congrArg List.length one)) nofun nofun
        (fun _ => ⟨event, failure, one⟩)
  | connected =>
      rw [List.append_nil]
      exact .of_unreleased nofun (agrees.unreleased nofun) agrees.once nofun
        (fun _ => agrees.granted (.inl rfl)) nofun
  | releases releasable =>
      have unreleased : state ≠ .released := by
        intro released
        rw [released] at releasable
        cases releasable
      rw [List.append_nil]
      exact .of_unreleased nofun (agrees.unreleased unreleased) agrees.once nofun nofun nofun
  | @ended _ told reason byServer unreleased minor =>
      have same := minor.verdicts_append_append events [.released reason byServer]
      have one := minor.releases_append_append events [.released reason byServer]
      rw [show verdicts [.released reason byServer] = [] from rfl, List.append_nil] at same
      rw [agrees.unreleased unreleased] at one
      constructor
      case once =>
        rw [same]
        exact agrees.once
      case undecided => nofun
      case granted => nofun
      case failed => nofun
      case released => exact iff_of_true rfl (congrArg List.length one)
      case unreleased => exact fun other => absurd rfl other
      case last => exact fun _ => ⟨events ++ told, reason, byServer, (List.append_assoc ..).symm⟩

theorem After.agrees (after : After events state) : Agrees events state := by
  induction after with
  | start => exact ⟨Nat.zero_le 1, fun _ => rfl, nofun, nofun, ⟨nofun, nofun⟩, fun _ => rfl, nofun⟩
  | turn after turns ih => exact ih.turn turns

end SessionState

end OnDemand
