import OnDemand.Proofs.Session.Upkeep
import OnDemand.Proofs.Session.Following

/-!
# Whether conditional access works decides nothing else

A client is unaided by its conditional-access component when the component never fails and nobody
is told of it.  Everything that a client does comes to the same for the unaided client, so failures
of the component change no state, no route and no request.
-/

namespace OnDemand

/-- The session without all that conditional access and its failures leave with it.  What the owner
has taken depends on the failures told in between. -/
def Session.unaided (session : Session) : Session :=
  { session with
    caActive := false
    events := session.events.filter fun event => event.caFault?.isNone
    eventsTaken := 0 }

/-- The client without all that conditional access and its failures leave with it. -/
def Client.unaided (client : Client) : Client :=
  { client with sessions := client.sessions.map Session.unaided, ca := {}, caCalls := [] }

/-- The action, except that it makes no call of conditional access fail. -/
def ClientAction.unaided : ClientAction → ClientAction
  | setFaults _ => setFaults fun _ _ => none
  | action => action

theorem ClientAction.unaided_unaided (action : ClientAction) :
    action.unaided.unaided = action.unaided := by
  cases action <;> rfl

namespace Session

theorem unaided_unaided (session : Session) : session.unaided.unaided = session.unaided := by
  simp [unaided, List.filter_filter]

/-- Of anything but a failure of conditional access the unaided session is told, too. -/
theorem tell_unaided {event : SessionEvent} (other : event.caFault? = none) (session : Session) :
    session.unaided.tell event = (session.tell event).unaided := by
  simp [unaided, tell, List.filter_append, other]

theorem unaided_tell_caFailed (session : Session) (fault : CaFault) :
    (session.tell (.caFailed fault)).unaided = session.unaided := by
  simp [unaided, tell, List.filter_append, SessionEvent.caFault?]

end Session

namespace Client

variable {client : Client} {ref : SessionRef} {session : Session} {change : Session → Session}

theorem unaided_unaided (client : Client) : client.unaided.unaided = client.unaided := by
  simp only [unaided, List.map_map]
  refine congrArg (fun sessions => { client with sessions, ca := {}, caCalls := [] }) ?_
  exact List.map_congr_left fun session _ => session.unaided_unaided

theorem session?_unaided (client : Client) (ref : SessionRef) :
    client.unaided.session? ref = (client.session? ref).map Session.unaided :=
  List.getElem?_map

theorem isLive_unaided (client : Client) : client.unaided.isLive = client.isLive := by
  funext ref
  rw [isLive, isLive, session?_unaided, Option.any_map]
  rfl

theorem awaits_unaided (client : Client) : client.unaided.awaits = client.awaits := by
  funext ref transaction
  rw [awaits, awaits, session?_unaided, Option.any_map]
  rfl

/-! ## Changes of one session -/

/-- A change that has nothing to do with conditional access. -/
def IsApart (change : Session → Session) : Prop :=
  ∀ session : Session, change session.unaided = (change session).unaided

theorem IsApart.comp {later : Session → Session} (second : IsApart later)
    (first : IsApart change) : IsApart (later ∘ change) :=
  fun session => (congrArg later (first session)).trans (second (change session))

/-- Two changes that come to the same, the one of the unaided session and the other of the
session. -/
theorem modify_unaided_of {again : Session → Session}
    (same : ∀ session : Session, client.session? ref = some session →
      again session.unaided = (change session).unaided) :
    client.unaided.modify ref again = (client.modify ref change).unaided := by
  have sessions : (client.sessions.map Session.unaided).modify ref again =
      (client.sessions.modify ref change).map Session.unaided := by
    apply List.ext_getElem?
    intro other
    rw [List.getElem?_modify, List.getElem?_map, List.getElem?_map, List.getElem?_modify]
    cases found : client.sessions[other]? with
    | none => rfl
    | some session =>
        by_cases own : ref = other
        · simp only [own, if_true]
          exact congrArg some (same session (own ▸ found))
        · simp only [own, if_false]
          rfl
  simp only [modify, unaided, sessions]

theorem modify_unaided (apart : IsApart change) (ref : SessionRef) (client : Client) :
    client.unaided.modify ref change = (client.modify ref change).unaided :=
  modify_unaided_of fun session _ => apart session

theorem tell_unaided {event : SessionEvent} (other : event.caFault? = none) (ref : SessionRef)
    (client : Client) : client.unaided.tell ref event = (client.tell ref event).unaided :=
  modify_unaided (fun session => session.tell_unaided other) ref client

/-- A change of what only conditional access leaves with a session makes no difference. -/
theorem unaided_modify (unchanged : ∀ session, client.session? ref = some session →
      (change session).unaided = session.unaided) :
    (client.modify ref change).unaided = client.unaided := by
  have same : client.unaided.modify ref (fun session => session) =
      (client.modify ref change).unaided :=
    modify_unaided_of fun session found => (unchanged session found).symm
  rw [← same]
  exact congrArg (fun sessions => { client.unaided with sessions }) (List.modify_id ref _)

theorem unaided_tell_caFailed (fault : CaFault) (ref : SessionRef) (client : Client) :
    (client.tell ref (.caFailed fault)).unaided = client.unaided :=
  unaided_modify fun session _ => session.unaided_tell_caFailed fault

/-! ## Choices -/

/-- The same choice leads to what is the same. -/
theorem ite_image {α β : Type} {p q : Prop} [Decidable p] [Decidable q] {f : α → β}
    {yes no : β} {one two : α} (same : p ↔ q) (yesSame : yes = f one) (noSame : no = f two) :
    (if p then yes else no) = f (if q then one else two) :=
  (if_congr same yesSame noSame).trans (apply_ite f q one two).symm

/-- What is done with bytes, if there is an encoding. -/
theorem encoded_image {α β : Type} {f : α → β} {encoded : Except WireError Bytes}
    {failedSame : WireError → β} {doneSame : Bytes → β} {failed : WireError → α} {done : Bytes → α}
    (error : ∀ fault, failedSame fault = f (failed fault))
    (ok : ∀ bytes, doneSame bytes = f (done bytes)) :
    (match encoded with
      | .error fault => failedSame fault
      | .ok bytes => doneSame bytes) =
    f (match encoded with
      | .error fault => failed fault
      | .ok bytes => done bytes) := by
  cases encoded with
  | error fault => exact error fault
  | ok bytes => exact ok bytes

/-- What is done with a session, if it is there. -/
theorem lookup_unaided {α β : Type} {f : α → β} {absent : β} {missing : α} {again : Session → β}
    {present : Session → α} (none : absent = f missing)
    (some : ∀ session, client.session? ref = some session →
      again session.unaided = f (present session)) :
    (match client.unaided.session? ref with
      | .none => absent
      | .some session => again session) =
    f (match client.session? ref with
      | .none => missing
      | .some session => present session) := by
  rw [session?_unaided]
  cases found : client.session? ref with
  | none => exact none
  | some session => exact some session found

/-- What comes of an operation, for the unaided client. -/
def unaidedResult {α : Type} (result : α × Client) : α × Client := (result.1, result.2.unaided)

/-- What is done when a request was sent, and what when it was not. -/
theorem attempt_unaided (sent : Client → Client) {unsent : Client → Client}
    (sends : ∀ next, sent (unaided next) = (sent next).unaided)
    (fails : ∀ next, unsent (unaided next) = (unsent next).unaided) :
    ∀ {again attempt : Except SubmitError Unit × Client}, again = unaidedResult attempt →
      (match again with
        | (.ok (), next) => ((.ok (), sent next) : Except SessionError Unit × Client)
        | (.error cause, next) => (.error (.notSubmitted cause), unsent next)) =
      unaidedResult
        (match attempt with
          | (.ok (), next) => ((.ok (), sent next) : Except SessionError Unit × Client)
          | (.error cause, next) => (.error (.notSubmitted cause), unsent next)) := by
  rintro _ ⟨result, next⟩ rfl
  cases result with
  | ok => exact Prod.ext rfl (sends next)
  | error cause => exact Prod.ext rfl (fails next)

/-! ## The parts of operations -/

theorem armKeepAlive_unaided (ref : SessionRef) (client : Client) :
    client.unaided.armKeepAlive ref = (client.armKeepAlive ref).unaided := by
  refine ite_image .rfl rfl ?_
  let armed := client.courier.arm client.settings.keepAliveInterval (.keepAlive ref)
  have apart : IsApart fun session => { session with keepAlive := some armed.1 } := fun _ => rfl
  exact modify_unaided apart ref { client with courier := armed.2 }

theorem disarmKeepAlive_unaided (ref : SessionRef) (client : Client) :
    client.unaided.disarmKeepAlive ref = (client.disarmKeepAlive ref).unaided := by
  have known : (client.unaided.session? ref).bind (·.keepAlive) =
      (client.session? ref).bind (·.keepAlive) := by
    rw [session?_unaided]
    cases client.session? ref <;> rfl
  simp only [disarmKeepAlive]
  rw [known]
  cases (client.session? ref).bind (·.keepAlive) with
  | none => rfl
  | some alarm =>
      have apart : IsApart fun session => { session with keepAlive := none } := fun _ => rfl
      exact modify_unaided apart ref { client with courier := _ }

theorem unaided_stopCa (ref : SessionRef) (session : Session) (client : Client) :
    (client.stopCa ref session).unaided = client.unaided := by
  rw [stopCa_eq]
  split
  · split
    · rfl
    · exact unaided_tell_caFailed _ ref { client with caCalls := _ :: client.caCalls }
  · rfl

/-- A session whose conditional access has not begun is released without a call. -/
theorem finish_unaided (ref : SessionRef) (reason : ReasonCode) (byServer : Bool)
    (client : Client) :
    client.unaided.finish ref reason byServer = (client.finish ref reason byServer).unaided := by
  cases found : client.session? ref with
  | none => simp only [finish, session?_unaided, found, Option.map_none]
  | some session =>
      have present : client.unaided.session? ref = some session.unaided := by
        rw [session?_unaided, found, Option.map_some]
      have gone : (client.unaided.disarmKeepAlive ref).letGo ref closed session.number =
          ((client.disarmKeepAlive ref).letGo ref closed session.number).unaided := by
        have apart : IsApart closed := fun _ => rfl
        rw [disarmKeepAlive_unaided]
        exact congrArg (releaseHoldings session.number) (modify_unaided apart ref _)
      have inactive (client : Client) : client.stopCa ref session.unaided = client := rfl
      rw [finish_eq found, ← tell_unaided rfl, unaided_stopCa, ← gone, finish_eq present, inactive]
      rfl

theorem asking_unaided {mark : Session → Session} (apart : IsApart mark) (ref : SessionRef)
    (session : Session) (message : Signal) (retries : Nat) (client : Client) :
    client.unaided.asking ref mark session.unaided message retries =
      unaidedResult (client.asking ref mark session message retries) :=
  congrArg (submit ref session.unaided message retries)
    (modify_unaided apart ref client.drawTransaction.2)

/-- What is asked for a session is asked for the unaided session. -/
theorem ask_unaided {mark unmark : Session → Session} (marks : IsApart mark)
    (unmarks : IsApart unmark) (ref : SessionRef) (session : Session) (message : Signal)
    (retries : Nat) (client : Client) :
    (match client.unaided.asking ref mark session.unaided message retries with
      | (.ok (), next) => ((.ok (), next) : Except SessionError Unit × Client)
      | (.error cause, next) => (.error (.notSubmitted cause), next.modify ref unmark)) =
    unaidedResult
      (match client.asking ref mark session message retries with
        | (.ok (), next) => ((.ok (), next) : Except SessionError Unit × Client)
        | (.error cause, next) => (.error (.notSubmitted cause), next.modify ref unmark)) :=
  attempt_unaided (fun next => next) (fun _ => rfl) (modify_unaided unmarks ref)
    (asking_unaided marks ref session message retries client)

/-! ## Operations -/

theorem setup_unaided (ref : SessionRef) (client : Client) :
    client.unaided.setup ref = unaidedResult (client.setup ref) := by
  refine lookup_unaided rfl fun session _ => ite_image .rfl rfl ?_
  refine encoded_image (fun _ => rfl) fun bytes => ?_
  refine ask_unaided ?_ ?_ ref session _ _ client <;> exact fun _ => rfl

theorem connect_unaided (ref : SessionRef) (client : Client) :
    client.unaided.connect ref = unaidedResult (client.connect ref) := by
  refine lookup_unaided rfl fun session _ => ite_image .rfl rfl ?_
  refine attempt_unaided _ (fun next => ?_) (fun _ => ?_) ?_
  · exact modify_unaided (by exact fun _ => rfl) ref next
  · rfl
  · rfl

theorem sendKeepAlive_unaided (ref : SessionRef) (client : Client) :
    client.unaided.sendKeepAlive ref = unaidedResult (client.sendKeepAlive ref) :=
  lookup_unaided rfl fun _ _ => ite_image .rfl rfl rfl

theorem requestStatus_unaided (ref : SessionRef) (client : Client) :
    client.unaided.requestStatus ref = unaidedResult (client.requestStatus ref) := by
  refine lookup_unaided rfl fun session _ => ite_image .rfl rfl ?_
  refine ask_unaided ?_ ?_ ref session _ _ client <;> exact fun _ => rfl

theorem reset_unaided (ref : SessionRef) (client : Client) :
    client.unaided.reset ref = unaidedResult (client.reset ref) := by
  refine lookup_unaided rfl fun session _ => ite_image .rfl rfl ?_
  refine ask_unaided ?_ ?_ ref session _ _ client <;> exact fun _ => rfl

/-- The release of a session is asked for. -/
def askRelease (ref : SessionRef) (session : Session) (client : Client) :
    Except SubmitError Unit × Client :=
  client.asking ref (Session.releasing client.drawTransaction.1) session
    ⟨client.drawTransaction.1, [], .release .request ⟨session.id, .clientRelease, {}⟩⟩
    client.settings.retryCount.toNat

theorem askRelease_unaided (ref : SessionRef) (session : Session) (client : Client) :
    client.unaided.askRelease ref session.unaided =
      unaidedResult (client.askRelease ref session) :=
  have apart : IsApart (Session.releasing client.drawTransaction.1) := fun _ => rfl
  asking_unaided apart ref session _ _ client

theorem teardown_unaided (ref : SessionRef) (client : Client) :
    client.unaided.teardown ref = unaidedResult (client.teardown ref) := by
  refine lookup_unaided rfl fun session _ => ?_
  have finish (next : Client) := finish_unaided ref .clientRelease false next
  have quiet := disarmKeepAlive_unaided ref
    { client with courier := (client.courier.cancelSession session.number).2 }
  have standing : session.unaided.state = session.state := rfl
  cases state : session.state
  all_goals simp only [standing, state]
  case releasing | released => rfl
  case idle => exact Prod.ext rfl (finish client)
  all_goals
    exact attempt_unaided (fun next => next) (fun _ => rfl) finish
      ((congrArg (askRelease ref session.unaided) quiet).trans (askRelease_unaided ..))

theorem drop_unaided (ref : SessionRef) (client : Client) :
    client.unaided.drop ref = (client.drop ref).unaided := by
  refine lookup_unaided rfl fun session _ => ?_
  have apart : IsApart fun session => { session with isHeld := false } := fun _ => rfl
  have dropped := modify_unaided apart ref (client.disarmKeepAlive ref)
  rw [← disarmKeepAlive_unaided] at dropped
  exact congrArg (releaseHoldings session.number) dropped

/-- What the owner takes is no matter of the unaided client. -/
theorem unaided_awaitReady (ref : SessionRef) (client : Client) :
    (client.awaitReady ref).2.unaided = client.unaided := by
  simp only [awaitReady]
  split
  · rfl
  · next session found =>
      refine unaided_modify fun again againFound => ?_
      cases found.symm.trans againFound
      unfold Session.awaitReady
      simp only
      split <;> rfl

theorem unaided_takeEvents (ref : SessionRef) (client : Client) :
    (client.takeEvents ref).2.unaided = client.unaided := by
  simp only [takeEvents]
  split
  · rfl
  · exact unaided_modify fun _ _ => rfl

/-! ## Alarms -/

theorem keepAliveDue_unaided (ref : SessionRef) (client : Client) :
    client.unaided.keepAliveDue ref = (client.keepAliveDue ref).unaided :=
  lookup_unaided rfl fun session _ =>
    ite_image .rfl (armKeepAlive_unaided ref (client.sendInProgress ref session).2) rfl

/-- A session forgets a request and is told why. -/
theorem modify_tell_unaided {event : SessionEvent} (apart : IsApart change)
    (other : event.caFault? = none) (ref : SessionRef) (client : Client) :
    (client.unaided.modify ref change).tell ref event =
      ((client.modify ref change).tell ref event).unaided := by
  rw [modify_unaided apart, tell_unaided other]

theorem deliveryFailed_unaided (notice : FailureNotice) (client : Client) :
    client.unaided.deliveryFailed notice = (client.deliveryFailed notice).unaided := by
  obtain ⟨ref, transaction, kind, ticket⟩ := notice
  refine lookup_unaided rfl fun session _ => ?_
  cases kind with
  | setupRequest =>
      exact ite_image .rfl (modify_tell_unaided (by exact fun _ => rfl) rfl ref client) rfl
  | release step =>
      cases step with
      | request =>
          refine ite_image .rfl ?_ rfl
          rw [tell_unaided rfl, finish_unaided]
      | _ => rfl
  | statusRequest =>
      exact ite_image .rfl (modify_tell_unaided (by exact fun _ => rfl) rfl ref client) rfl
  | reset step =>
      cases step with
      | request =>
          exact ite_image .rfl (modify_tell_unaided (by exact fun _ => rfl) rfl ref client) rfl
      | _ => rfl
  | _ => rfl

theorem ring_unaided (reminder : Reminder) (client : Client) :
    client.unaided.ring reminder = (client.ring reminder).unaided := by
  cases reminder with
  | keepAlive ref =>
      exact ite_image (by rw [isLive_unaided]) (keepAliveDue_unaided ref client) rfl
  | unanswered transaction =>
      obtain ⟨courier, notice, expired⟩ : ∃ courier notice,
          client.courier.expire transaction = (courier, notice) := ⟨_, _, rfl⟩
      have again : client.unaided.courier.expire transaction = (courier, notice) := expired
      simp only [ring, expired, again]
      cases notice with
      | none => rfl
      | some notice =>
          have live := congrFun (isLive_unaided { client with courier }) notice.owner
          exact ite_image (Bool.eq_iff_iff.mp live)
            (deliveryFailed_unaided notice { client with courier }) rfl

theorem step_unaided (limit : Time) (client : Client) :
    client.unaided.step limit = (client.step limit).map unaided := by
  have courier : client.unaided.courier = client.courier := rfl
  cases popped : client.courier.agenda.popDue? limit with
  | none => simp only [step, courier, popped, Option.map_none]
  | some first =>
      simp only [step, courier, popped, Option.map_some]
      exact congrArg some
        (ring_unaided first.1.task
          { client with courier := { client.courier with agenda := first.2 } })

theorem exhaust_unaided (limit : Time) (fuel : Nat) (client : Client) :
    exhaust (step limit) fuel client.unaided = (exhaust (step limit) fuel client).unaided := by
  induction fuel generalizing client with
  | zero => rfl
  | succ fuel ih =>
      cases stepped : client.step limit with
      | none => simp only [exhaust, step_unaided, stepped, Option.map_none]
      | some next => simp only [exhaust, step_unaided, stepped, Option.map_some, ih]

theorem advance_unaided (duration : Time) (client : Client) :
    client.unaided.advance duration = (client.advance duration).unaided := by
  let limit := client.courier.agenda.now + duration
  exact congrArg
    (fun client : Client =>
      { client with
        courier := { client.courier with agenda := client.courier.agenda.moveTo limit } })
    (exhaust_unaided limit (client.weight limit) client)

/-! ## Messages -/

section Granting

variable {during : Client → Client}

theorem adoptId_unaided (ref : SessionRef) (session : Session) (confirm : SetupConfirm)
    (client : Client) :
    client.unaided.adoptId ref session.unaided confirm =
      (client.adoptId ref session confirm).unaided := by
  refine ite_image .rfl ?_ rfl
  rw [isLive_unaided]
  have apart : IsApart fun session => { session with id := confirm.session } := fun _ => rfl
  exact modify_unaided apart ref { client with routes := _ }

theorem isApart_applyResources (resources : List Resource) :
    IsApart fun session => resources.foldl Session.applyResource session := by
  intro session
  induction resources generalizing session with
  | nil => rfl
  | cons resource rest ih =>
      have first : session.unaided.applyResource resource =
          (session.applyResource resource).unaided := by
        unfold Session.applyResource
        cases resource.content <;> rfl
      exact (congrArg (rest.foldl Session.applyResource) first).trans (ih _)

theorem isApart_applyPrivateData (bytes : Bytes) :
    IsApart fun session => session.applyPrivateData bytes := by
  intro session
  refine ite_image .rfl rfl ?_
  have profile : session.unaided.profile = session.profile := rfl
  rw [profile]
  cases PrivateData.decode session.profile.format bytes <;> rfl

theorem isApart_granted (confirm : SetupConfirm) : IsApart (Session.granted confirm) := by
  have forgets : IsApart fun session => { session with setup := none } := fun _ => rfl
  have lists : IsApart fun session => { session with resources := confirm.resources } :=
    fun _ => rfl
  have readies : IsApart fun session => { session with state := .serverReady } := fun _ => rfl
  have resources := (isApart_applyResources confirm.resources).comp forgets
  have userData := isApart_applyPrivateData confirm.userData.privateData
  exact readies.comp (userData.comp (lists.comp resources))

/-- Whether conditional access begins makes no other difference. -/
theorem unaided_beginCa (quiet : client.ca.arrival = none) (idle : IsIdle during)
    (found : client.session? ref = some session) (unreleased : session.state ≠ .released) :
    (client.beginCa during ref session).unaided = client.unaided := by
  rw [beginCa]
  split
  · rfl
  · next info _ =>
      rw [startCa_eq quiet idle found unreleased]
      refine unaided_modify fun session _ => ?_
      split
      · exact session.unaided_tell_caFailed _
      · rfl

/-- A session that has just been granted is told so whether or not its conditional access begins. -/
theorem unaided_welcome (quiet : client.ca.arrival = none) (idle : IsIdle during)
    (found : client.session? ref = some session) (ready : session.state = .serverReady) :
    (client.unaided.welcome during ref).unaided = (client.welcome during ref).unaided := by
  have told {client : Client} {stored : Session} (quiet : client.ca.arrival = none)
      (armed : (client.armKeepAlive ref).session? ref = some stored)
      (unreleased : stored.state ≠ .released) :
      (client.welcome during ref).unaided =
        (client.armKeepAlive ref).unaided.tell ref
          (.ready stored.id stored.endpoint stored.handle) := by
    have stillQuiet : (client.armKeepAlive ref).ca.arrival = none := by
      rw [ca_armKeepAlive]
      exact quiet
    rw [welcome_eq armed, ← tell_unaided rfl, unaided_beginCa stillQuiet idle armed unreleased]
  obtain ⟨stored, armed, state⟩ : ∃ stored,
      (client.armKeepAlive ref).session? ref = some stored ∧ stored.state = session.state := by
    simp only [armKeepAlive]
    split
    · exact ⟨session, found, rfl⟩
    · exact ⟨_, session?_modify_self found, rfl⟩
  have unreleased : stored.state ≠ .released := by
    rw [state, ready]
    decide
  have again : (client.unaided.armKeepAlive ref).session? ref = some stored.unaided := by
    rw [armKeepAlive_unaided, session?_unaided, armed, Option.map_some]
  rw [told quiet armed unreleased, told rfl again unreleased, armKeepAlive_unaided, unaided_unaided]
  rfl

/-- Choices that come to the same for the unaided client. -/
theorem unaided_ite {p q : Prop} [Decidable p] [Decidable q] {yes no one two : Client}
    (same : p ↔ q) (yesSame : yes.unaided = one.unaided) (noSame : no.unaided = two.unaided) :
    (if p then yes else no).unaided = (if q then one else two).unaided := by
  rw [apply_ite unaided, apply_ite unaided]
  exact if_congr same yesSame noSame

theorem unaided_onSetupConfirm (quiet : client.ca.arrival = none) (idle : IsIdle during)
    (ref : SessionRef) (transaction : UInt32) (confirm : SetupConfirm) :
    (client.unaided.onSetupConfirm during ref transaction confirm).unaided =
      (client.onSetupConfirm during ref transaction confirm).unaided := by
  cases found : client.session? ref with
  | none => simp only [onSetupConfirm, session?_unaided, found, Option.map_none, unaided_unaided]
  | some session =>
      have present : client.unaided.session? ref = some session.unaided := by
        rw [session?_unaided, found, Option.map_some]
      by_cases expected : session.state = .setupSent ∧ session.setup = some transaction
      · obtain ⟨sent, awaited⟩ := expected
        by_cases positive : confirm.response.isOk = true
        · obtain ⟨id, adopted⟩ := session?_adoptId_eq found session confirm
          have stillQuiet : ((client.adoptId ref session confirm).modify ref
              (Session.granted confirm)).ca.arrival = none := by
            simp only [adoptId]
            split <;> exact quiet
          rw [onSetupConfirm_granted found sent awaited positive,
            onSetupConfirm_granted present sent awaited positive, adoptId_unaided,
            modify_unaided (isApart_granted confirm)]
          exact unaided_welcome stillQuiet idle (session?_modify_self adopted)
            (Session.state_granted confirm)
        · have apart : IsApart fun session => { session with setup := none, state := .error } :=
            fun _ => rfl
          have other : SessionEvent.caFault? (.setupFailed confirm.response) = none := rfl
          have refused := modify_tell_unaided apart other ref client
          simp only [onSetupConfirm, present, found]
          refine unaided_ite .rfl client.unaided_unaided ?_
          rw [if_pos positive, if_pos positive, refused, unaided_unaided]
      · have passed : session.state ≠ .setupSent ∨ session.setup ≠ some transaction :=
          not_and_or.mp expected
        simp only [onSetupConfirm, present, found]
        rw [if_pos passed]
        exact (congrArg unaided (if_pos passed)).trans client.unaided_unaided

theorem onReleaseConfirm_unaided (ref : SessionRef) (transaction : UInt32) (release : Release)
    (client : Client) :
    client.unaided.onReleaseConfirm ref transaction release =
      (client.onReleaseConfirm ref transaction release).unaided :=
  lookup_unaided rfl fun _ _ => ite_image .rfl (finish_unaided ref release.reason false client) rfl

theorem onReleaseIndication_unaided (ref : SessionRef) (transaction : UInt32) (release : Release)
    (client : Client) :
    client.unaided.onReleaseIndication ref transaction release =
      (client.onReleaseIndication ref transaction release).unaided := by
  refine lookup_unaided rfl fun session _ => ite_image .rfl rfl ?_
  let answered := (client.submit ref session ⟨transaction, [],
    .release .response ⟨session.id, release.reason, {}⟩⟩ 0).2
  exact finish_unaided ref release.reason true answered

theorem onStatusConfirm_unaided (ref : SessionRef) (transaction : UInt32) (status : ClientStatus)
    (client : Client) :
    client.unaided.onStatusConfirm ref transaction status =
      (client.onStatusConfirm ref transaction status).unaided := by
  refine lookup_unaided rfl fun _ _ => ite_image .rfl ?_ rfl
  exact modify_tell_unaided (by exact fun _ => rfl) rfl ref client

theorem onResetConfirm_unaided (ref : SessionRef) (transaction : UInt32) (reset : ClientReset)
    (client : Client) :
    client.unaided.onResetConfirm ref transaction reset =
      (client.onResetConfirm ref transaction reset).unaided := by
  refine lookup_unaided rfl fun _ _ => ite_image .rfl ?_ rfl
  have apart : IsApart fun session => { session with reset := none } := fun _ => rfl
  have cleared := modify_unaided apart ref client
  exact (congrArg (finish ref reset.reason false) cleared).trans (finish_unaided ..)

theorem unaided_handle (quiet : client.ca.arrival = none) (idle : IsIdle during)
    (ref : SessionRef) (message : Signal) :
    (client.unaided.handle during ref message).unaided =
      (client.handle during ref message).unaided := by
  simp only [handle]
  split
  · exact unaided_onSetupConfirm quiet idle ref _ _
  · rw [onReleaseConfirm_unaided, unaided_unaided]
  · rw [onReleaseIndication_unaided, unaided_unaided]
  · rw [onStatusConfirm_unaided, unaided_unaided]
  · rw [onResetConfirm_unaided, unaided_unaided]
  · exact client.unaided_unaided

theorem tellAll_unaided {event : SessionEvent} (other : event.caFault? = none)
    (refs : List SessionRef) (client : Client) :
    refs.foldl (fun client ref => client.tell ref event) client.unaided =
      (refs.foldl (fun client ref => client.tell ref event) client).unaided := by
  induction refs generalizing client with
  | nil => rfl
  | cons ref rest ih => rw [List.foldl_cons, List.foldl_cons, tell_unaided other, ih]

theorem onResetIndication_unaided (transaction : UInt32) (reset : ClientReset) (client : Client) :
    client.unaided.onResetIndication transaction reset =
      (client.onResetIndication transaction reset).unaided := by
  have other : SessionEvent.caFault? (.resetIndicated reset.reason) = none := rfl
  have told (client : Client) :=
    tellAll_unaided other (client.routes.handlers client.isLive) client
  have number : client.unaided.clientId = client.clientId := rfl
  cases encoded :
      (⟨transaction, [], .reset .response ⟨client.clientId, reset.reason⟩⟩ : Signal).encode with
  | error _ =>
      simp only [onResetIndication, number, encoded, isLive_unaided]
      exact told client
  | ok bytes =>
      let answered : Client := { client with courier := (client.courier.send none bytes).2 }
      have answers : { client.unaided with courier := (client.unaided.courier.send none bytes).2 } =
          answered.unaided := rfl
      simp only [onResetIndication, number, encoded]
      rw [answers, isLive_unaided]
      exact told answered

theorem route_unaided (message : Signal) (client : Client) :
    client.unaided.route message = client.route message := by
  simp only [route, isLive_unaided, awaits_unaided]
  rfl

theorem settled_unaided (message : Signal) (client : Client) :
    client.unaided.settled message = (client.settled message).unaided :=
  ite_image .rfl rfl rfl

theorem unaided_deliver (quiet : client.ca.arrival = none) (idle : IsIdle during)
    (message : Signal) :
    (client.unaided.deliver during message).unaided = (client.deliver during message).unaided := by
  simp only [deliver]
  split
  · rw [onResetIndication_unaided, unaided_unaided]
  · refine unaided_ite .rfl ?_ client.unaided_unaided
    rw [route_unaided]
    split
    · exact unaided_handle quiet idle _ message
    · exact client.unaided_unaided

theorem unaided_receive (quiet : client.ca.arrival = none) (idle : IsIdle during)
    (message : Signal) :
    (client.unaided.receive during message).unaided = (client.receive during message).unaided := by
  have stillQuiet : (client.settled message).ca.arrival = none := by
    simp only [settled]
    split <;> exact quiet
  rw [receive_eq, receive_eq, settled_unaided]
  exact unaided_deliver stillQuiet idle message

end Granting

/-- Whether conditional access works makes no other difference to what a datagram does. -/
theorem unaided_dispatch (quiet : client.ca.arrival = none) (datagram : Bytes) :
    (client.unaided.dispatch datagram).unaided = (client.dispatch datagram).unaided := by
  simp only [dispatch, receiveBytes]
  split
  · exact client.unaided_unaided
  · exact unaided_receive quiet isIdle_arrival _

/-! ## Runs -/

theorem create_unaided (profile : VendorProfile) (asset : AssetRequest) (client : Client) :
    (client.unaided.create profile asset).2 = (client.create profile asset).2.unaided := by
  simp only [create, unaided, List.map_append, List.length_map]
  rfl

theorem unaided_operate (action : OwnerAction) (ref : SessionRef) (client : Client) :
    (client.unaided.operate action ref).unaided = (client.operate action ref).unaided := by
  have result {α : Type} {again once : α × Client} (same : again = unaidedResult once) :
      again.2.unaided = once.2.unaided := by
    rw [same]
    exact once.2.unaided_unaided
  cases action with
  | setup => exact result (setup_unaided ref client)
  | connect => exact result (connect_unaided ref client)
  | sendKeepAlive => exact result (sendKeepAlive_unaided ref client)
  | requestStatus => exact result (requestStatus_unaided ref client)
  | reset => exact result (reset_unaided ref client)
  | teardown => exact result (teardown_unaided ref client)
  | awaitReady => simp only [operate, unaided_awaitReady, unaided_unaided]
  | takeEvents => simp only [operate, unaided_takeEvents, unaided_unaided]
  | drop => simp only [operate, drop_unaided, unaided_unaided]

/-- Whether conditional access works makes no other difference to what an action does. -/
theorem unaided_perform (quiet : client.ca.arrival = none) (action : ClientAction) :
    (client.unaided.perform action.unaided).unaided = (client.perform action).unaided := by
  cases action with
  | create profile asset =>
      exact (congrArg unaided (create_unaided profile asset client)).trans (unaided_unaided _)
  | operate action ref =>
      have live := congrFun client.isLive_unaided ref
      exact unaided_ite (Bool.eq_iff_iff.mp live) (unaided_operate action ref client)
        client.unaided_unaided
  | dispatch datagram => exact unaided_dispatch quiet datagram
  | advance duration =>
      exact (congrArg unaided (advance_unaided duration client)).trans (unaided_unaided _)
  | ringFirst duration =>
      have stepped := client.step_unaided (client.courier.agenda.now + duration)
      refine (congrArg (fun next => (Option.getD next client.unaided).unaided) stepped).trans ?_
      rw [Option.getD_map]
      exact unaided_unaided _
  | setRefusals refuses =>
      exact unaided_unaided { client with courier := _ }
  | setFaults fault => exact client.unaided_unaided
  | seedTransaction next => exact unaided_unaided (client.seedTransaction next)

/-- Whether and how the conditional-access component fails makes no other difference to a run. -/
theorem unaided_run {other : Client} (orderly : client.Orderly) (otherOrderly : other.Orderly)
    (same : other.unaided = client.unaided) (actions : List ClientAction) :
    (other.run (actions.map ClientAction.unaided)).unaided = (client.run actions).unaided := by
  induction actions generalizing client other with
  | nil => exact same
  | cons action rest ih =>
      refine ih (orderly.perform action) (otherOrderly.perform action.unaided) ?_
      rw [← unaided_perform orderly.quiet, ← unaided_perform otherOrderly.quiet, same,
        action.unaided_unaided]

end Client

end OnDemand
