import OnDemand.Proofs.Session.Inbound
import OnDemand.Proofs.Session.Operations
import OnDemand.Session.Run

/-!
# How a client evolves

Whatever happens to a client, it stays sound, it forgets no session, and a session that
is released is disturbed no more.  Most of what happens also leaves each session tended:
everything but a confirm that is brought to another session than the one that awaits it.
-/

namespace OnDemand

namespace Client

variable {client next : Client} {ref other : SessionRef} {excused : UInt32 → Prop}

/-- Nothing happens to a session but that its owner takes events or lets go of it. -/
structure Undisturbed (ref : SessionRef) (client next : Client) : Prop where
  session : ∀ ⦃before⦄, client.session? ref = some before →
    ∃ eventsTaken isHeld, next.session? ref = some { before with eventsTaken, isHeld }
  sent : next.sentBy ref = client.sentBy ref

theorem Undisturbed.of_eq (session : next.session? ref = client.session? ref)
    (sent : next.sentBy ref = client.sentBy ref) : Undisturbed ref client next where
  session before found := ⟨before.eventsTaken, before.isHeld, session.trans found⟩
  sent := sent

theorem Undisturbed.refl (ref : SessionRef) (client : Client) : Undisturbed ref client client :=
  .of_eq rfl rfl

theorem Undisturbed.trans {last : Client} (first : Undisturbed ref client next)
    (second : Undisturbed ref next last) : Undisturbed ref client last where
  session := by
    intro before found
    obtain ⟨_, _, middle⟩ := first.session found
    obtain ⟨eventsTaken, isHeld, after⟩ := second.session middle
    exact ⟨eventsTaken, isHeld, after⟩
  sent := second.sent.trans first.sent

/-- What affects one session leaves the others undisturbed. -/
theorem Affects.undisturbed {lost : UInt32 → SessionRef → Prop}
    (affects : Affects ref lost client next) (different : other ≠ ref) :
    Undisturbed other client next :=
  .of_eq (affects.others different) (affects.sent different)

/-- The client after something that leaves it sound and every released session undisturbed,
and by which some sessions are created. -/
structure Evolves (created : Nat) (client next : Client) : Prop where
  sound : next.Sound
  settings : next.settings = client.settings
  drawn : client.drawn <:+ next.drawn
  length : next.sessions.length = client.sessions.length + created
  final : ∀ {ref session}, client.session? ref = some session → session.state = .released →
    Undisturbed ref client next

/-- The client after something that also leaves every session tended, as long as no
transaction is drawn twice. -/
structure Proceeds (created : Nat) (client next : Client) : Prop
    extends Evolves created client next where
  tended : ∀ {excused}, next.drawn.Nodup → (∀ owner, client.Tended excused owner) →
    ∀ owner, next.Tended excused owner

theorem Evolves.refl (sound : client.Sound) : Evolves 0 client client :=
  ⟨sound, rfl, List.suffix_refl _, rfl, fun _ _ => .refl _ _⟩

theorem Evolves.trans {last : Client} {created later : Nat}
    (first : Evolves created client next) (second : Evolves later next last) :
    Evolves (created + later) client last where
  sound := second.sound
  settings := second.settings.trans first.settings
  drawn := first.drawn.trans second.drawn
  length := by rw [second.length, first.length, Nat.add_assoc]
  final := by
    intro ref session found released
    have before := first.final found released
    obtain ⟨eventsTaken, isHeld, after⟩ := before.session found
    exact before.trans (second.final after released)

theorem Proceeds.refl (sound : client.Sound) : Proceeds 0 client client :=
  ⟨.refl sound, fun _ tended => tended⟩

theorem Proceeds.trans {last : Client} {created later : Nat}
    (first : Proceeds created client next) (second : Proceeds later next last) :
    Proceeds (created + later) client last where
  toEvolves := first.toEvolves.trans second.toEvolves
  tended nodup tended :=
    second.tended nodup (first.tended (nodup.sublist second.drawn.sublist) tended)

/-- What affects one session that is not released, or is not disturbed, is an evolution. -/
theorem Affects.evolves {lost : UInt32 → SessionRef → Prop}
    (affects : Affects ref lost client next)
    (own : ∀ session, client.session? ref = some session → session.state = .released →
      Undisturbed ref client next) : Evolves 0 client next where
  sound := affects.sound
  settings := affects.settings
  drawn := affects.drawn
  length := affects.length
  final := by
    intro other session found released
    by_cases same : other = ref
    · subst same
      exact own session found released
    · exact affects.undisturbed same

theorem Acts.proceeds (acts : Acts ref client next) (sound : client.Sound)
    (own : ∀ session, client.session? ref = some session → session.state = .released →
      Undisturbed ref client next) : Proceeds 0 client next where
  toEvolves := acts.toAffects.evolves own
  tended nodup tended := acts.tended_all sound nodup tended

/-- What an active session does by itself. -/
theorem Acts.proceeds_of_active (acts : Acts ref client next) (sound : client.Sound)
    {session : Session} (found : client.session? ref = some session)
    (active : session.IsActive) : Proceeds 0 client next := by
  apply acts.proceeds sound
  intro again againFound released
  cases found.symm.trans againFound
  exact absurd released active.2

/-- What is gentle to every session disturbs none. -/
theorem Proceeds.of_gentle (gentle : ∀ ref, Gentle ref client next) (sound : client.Sound) :
    Proceeds 0 client next := by
  apply (gentle 0).acts.proceeds sound
  intro _ _ _
  exact (gentle 1).undisturbed Nat.zero_ne_one

/-! ## Messages -/

/-- The client after the request that a message answers, if it answers one, was
settled. -/
def settled (message : Signal) (client : Client) : Client :=
  if message.kind.isConfirm then
    { client with
      courier := (client.courier.acknowledgeReply message.transaction message.kind).2 }
  else client

/-- The client after a message was brought to where it belongs. -/
def deliver (during : Client → Client) (message : Signal) (client : Client) : Client :=
  match message.body with
  | .reset .indication reset => client.onResetIndication message.transaction reset
  | _ =>
      if isForSession message.kind then
        match client.route message with
        | some ref => client.handle during ref message
        | none => client
      else client

theorem receive_eq (during : Client → Client) (message : Signal) (client : Client) :
    client.receive during message = (client.settled message).deliver during message := rfl

theorem session?_settled (message : Signal) (client : Client) (ref : SessionRef) :
    (client.settled message).session? ref = client.session? ref := by
  simp only [settled]
  split <;> rfl

theorem route_settled (message : Signal) (client : Client) :
    (client.settled message).route message = client.route message := by
  simp only [settled]
  split <;> rfl

/-- Settling a request affects no session. -/
theorem Affects.settled (sound : client.Sound) (message : Signal) (ref : SessionRef) :
    Affects ref
      (fun transaction owner => transaction = message.transaction ∧
        ∃ kind, client.Keeps message.transaction kind owner ∧
          message.kind.request? = some kind)
      client (client.settled message) := by
  simp only [Client.settled]
  split
  · exact Affects.acknowledge sound message.transaction message.kind ref
  · exact (Affects.refl sound ref).mono fun _ _ never => never.elim

theorem Evolves.settled (sound : client.Sound) (message : Signal) :
    Evolves 0 client (client.settled message) := by
  apply (Affects.settled sound message 0).evolves
  intro _ _ _
  exact (Affects.settled sound message 1).undisturbed Nat.zero_ne_one

/-- What it means for a client that a message is brought to where it belongs. -/
inductive Delivery (message : Signal) (client : Client) : Client → Prop where
  | handled {ref : SessionRef} {session : Session} {next : Client}
      (routed : client.route message = some ref)
      (found : client.session? ref = some session)
      (active : session.IsActive)
      (handles : Handles ref message.transaction message.kind.request? client next) :
      Delivery message client next
  | unclaimed
      (unrouted : message.kind.request?.isSome → client.route message = none) :
      Delivery message client client
  | toAll {next : Client}
      (unasked : message.kind.request? = none)
      (proceeds : Proceeds 0 client next) :
      Delivery message client next

/-- Telling active sessions an event disturbs no other. -/
theorem Proceeds.tellAll (sound : client.Sound) (event : SessionEvent) {refs : List SessionRef}
    (active : ∀ ref ∈ refs, ∃ session, client.session? ref = some session ∧ session.IsActive) :
    Proceeds 0 client (refs.foldl (fun client ref => client.tell ref event) client) := by
  induction refs generalizing client with
  | nil => exact .refl sound
  | cons first rest ih =>
      obtain ⟨session, found, stands⟩ := active first List.mem_cons_self
      have told := Gentle.tell sound first event
      refine (told.acts.proceeds_of_active sound found stands).trans (ih told.sound ?_)
      intro ref member
      obtain ⟨session, found, stands⟩ := active ref (List.mem_cons_of_mem _ member)
      refine ⟨_, session?_modify_eq_some.mpr ⟨session, found, rfl⟩, ?_⟩
      split
      · exact stands
      · exact stands

/-- The client answers on its own behalf. -/
theorem Proceeds.answer (sound : client.Sound) (bytes : Bytes) :
    Proceeds 0 client { client with courier := (client.courier.send none bytes).2 } := by
  have nothing : Courier.Drops _ client.courier (client.courier.send none bytes).2 :=
    sound.courier.drops_nothing rfl rfl rfl
  apply Proceeds.of_gentle _ sound
  intro ref
  refine .of_sessions ((Affects.drops sound nothing fun other _ => ?_).mono ?_) rfl
  · have different : Option.none ≠ some other := nofun
    have sent : (client.courier.send none bytes).2.transport =
      (client.courier.transport.send client.courier.agenda.now none none bytes).2 := rfl
    exact sentBy_send different sent
  · rintro _ _ ⟨_, _, _, never⟩
    exact never

theorem Proceeds.onResetIndication (sound : client.Sound) (transaction : UInt32)
    (reset : ClientReset) : Proceeds 0 client (client.onResetIndication transaction reset) := by
  have told : ∀ {answered : Client}, answered.Sound → Proceeds 0 answered
      ((answered.routes.handlers answered.isLive).foldl
        (fun client ref => client.tell ref (.resetIndicated reset.reason)) answered) := by
    intro answered answeredSound
    exact .tellAll answeredSound _ fun _ member => answeredSound.active_of_mem_handlers member
  unfold Client.onResetIndication
  simp only
  split
  · exact told sound
  · next bytes _ =>
      have answered := Proceeds.answer sound bytes
      exact answered.trans (told answered.sound)

/-- All confirms are for sessions. -/
theorem isForSession_of_request? {kind : SignalKind} (answers : kind.request?.isSome) :
    isForSession kind = true := by
  simp only [SignalKind.request?] at answers
  split at answers
  · rfl
  · rfl
  · rfl
  · rfl
  · cases answers

/-- An answer is handled by the session that it is brought to. -/
theorem deliver_of_request? {during : Client → Client} {message : Signal}
    (answers : message.kind.request?.isSome) (routed : client.route message = some ref) :
    client.deliver during message = client.handle during ref message := by
  simp only [deliver]
  split
  · next reset body =>
      rw [Signal.kind, body] at answers
      cases answers
  · simp only [isForSession_of_request? answers, if_true, routed]

theorem Sound.delivery {during : Client → Client} (sound : client.Sound) (idle : IsIdle during)
    (message : Signal) : Delivery message client (client.deliver during message) := by
  simp only [deliver]
  split
  · next reset body =>
      refine .toAll ?_ (Proceeds.onResetIndication sound message.transaction reset)
      rw [Signal.kind, body]
      rfl
  · split
    · split
      · next ref routed =>
          obtain ⟨session, found, active⟩ := sound.active_of_route routed
          exact .handled routed found active (Handles.handle sound idle found active message)
      · next unrouted => exact .unclaimed fun _ => unrouted
    · next foreign =>
        exact .unclaimed fun answers => absurd (isForSession_of_request? answers) foreign

theorem Delivery.evolves {message : Signal} (sound : client.Sound)
    (delivery : Delivery message client next) : Evolves 0 client next := by
  cases delivery with
  | handled routed found active handles =>
      exact (handles.toActs.proceeds_of_active sound found active).toEvolves
  | unclaimed unrouted => exact .refl sound
  | toAll unasked proceeds => exact proceeds.toEvolves

theorem Evolves.receive {during : Client → Client} (sound : client.Sound)
    (idle : IsIdle during) (message : Signal) :
    Evolves 0 client (client.receive during message) := by
  have settled := Evolves.settled sound message
  exact settled.trans ((settled.sound.delivery idle message).evolves settled.sound)

theorem Evolves.dispatch (sound : client.Sound) (datagram : Bytes) :
    Evolves 0 client (client.dispatch datagram) := by
  simp only [Client.dispatch, receiveBytes]
  split
  · exact .refl sound
  · next message _ => exact .receive sound isIdle_arrival message

/-! ## Alarms -/

/-- When the request of one transaction is gone, all sessions are tended again once the
session that awaited its answer no longer does. -/
theorem tended_recover {transaction : UInt32} (tended : ∀ owner, client.Tended excused owner)
    (settings : next.settings = client.settings)
    (slots : ∀ owner, AwaitsLess owner client next)
    (left : ∀ owner, next.Tended (fun other => excused other ∨ other = transaction) owner)
    (settled : ∀ {owner session after kind}, client.session? owner = some session →
      session.isHeld = true → session.slot kind = some transaction →
      session.retries client.settings kind ≠ 0 → client.Keeps transaction kind owner →
      next.session? owner = some after → after.slot kind ≠ some transaction) :
    ∀ owner, next.Tended excused owner := by
  intro owner after kind awaited found held slot repeated stays
  by_cases same : awaited = transaction
  · subst same
    obtain ⟨before, beforeFound, profile, isHeld, slots⟩ := slots owner found
    rw [settings, Session.retries_congr profile] at repeated
    have beforeHeld := isHeld ▸ held
    have kept := tended owner beforeFound beforeHeld (slots slot) repeated stays
    exact absurd slot (settled beforeFound beforeHeld (slots slot) repeated kept found)
  · exact left owner found held slot repeated fun gone => gone.elim stays same

/-- A session handles the end of a request, and all others await what they awaited. -/
theorem Handles.awaitsLess {transaction : UInt32} {request : Option SignalKind}
    (handles : Handles ref transaction request client next) (owner : SessionRef) :
    AwaitsLess owner client next := by
  by_cases own : owner = ref
  · exact own ▸ handles.slots
  · intro after found
    rw [handles.others own] at found
    exact ⟨after, found, rfl, rfl, fun _ _ slot => slot⟩

/-- When at most the request of one transaction is gone, all else is tended still. -/
theorem tended_of_lost {transaction : UInt32} {lost : UInt32 → SessionRef → Prop}
    (affects : Affects ref lost client next)
    (sessions : ∀ owner, next.session? owner = client.session? owner)
    (one : ∀ other owner, lost other owner → other = transaction) {owner : SessionRef}
    (tended : client.Tended excused owner) :
    next.Tended (fun other => excused other ∨ other = transaction) owner := by
  intro session kind awaited found held slot repeated stays
  rw [sessions] at found
  rw [affects.settings] at repeated
  apply affects.keeps (tended found held slot repeated fun gone => stays (.inl gone))
  exact fun gone => stays (.inr (one awaited owner gone))

theorem keeps_unique {transaction : UInt32} {kind : SignalKind} {request : PendingRequest}
    (found : client.courier.pending.get? transaction = some request)
    (keeps : client.Keeps transaction kind ref) : kind = request.kind ∧ ref = request.owner := by
  obtain ⟨again, againFound, named, own⟩ := keeps
  cases found.symm.trans againFound
  exact ⟨named.symm, own.symm⟩

section Ring

variable {limit : Time} {alarm : Alarm Reminder} {agenda : Agenda Reminder}

/-- A keep-alive alarm that rings may be taken off the agenda. -/
theorem Gentle.popKeepAlive (sound : client.Sound)
    (popped : client.courier.agenda.popDue? limit = some (alarm, agenda))
    (task : alarm.task = .keepAlive ref) :
    Gentle ref client { client with courier := { client.courier with agenda } } := by
  have before : ∀ {other}, other ∈ agenda.alarms → other ∈ client.courier.agenda.alarms :=
    fun set => ((sound.courier.agenda.mem_alarms_popDue? popped).mp set).1
  refine .aside ?_ rfl rfl (List.suffix_refl _) rfl rfl
  exact
    { sound with
      courier := sound.courier.popDue?_keepAlive popped task
      ringing := fun set => sound.ringing (before set)
      named := fun found keepAlive =>
        have ⟨issued, own⟩ := sound.named found keepAlive
        ⟨Agenda.nextHandle_popDue? popped ▸ issued, fun other set => own other (before set)⟩ }

theorem agenda_sendInProgress {session : Session} :
    (client.sendInProgress ref session).2.courier.agenda = client.courier.agenda := by
  simp only [sendInProgress, Client.submit, Courier.submit_eq, if_true]
  split <;> rfl

/-- The keep-alive of a session falls due. -/
theorem Proceeds.ring_keepAlive (sound : client.Sound)
    (popped : client.courier.agenda.popDue? limit = some (alarm, agenda))
    (task : alarm.task = .keepAlive ref) :
    Proceeds 0 client (ring (.keepAlive ref)
      { client with courier := { client.courier with agenda } }) := by
  obtain ⟨session, found, keepAlive⟩ :=
    sound.ringing (Agenda.mem_alarms_of_popDue? popped) task
  have established := (sound.coherent found).keepAlive (keepAlive ▸ rfl)
  have unreleased := SessionState.ne_released_of_isEstablished established
  have rung := Gentle.popKeepAlive sound popped task
  suffices Gentle ref client (ring (.keepAlive ref)
      { client with courier := { client.courier with agenda } }) by
    apply this.acts.proceeds sound
    intro again againFound released
    cases found.symm.trans againFound
    exact absurd released unreleased
  have present : session? ref { client with courier := { client.courier with agenda } } =
      some session := found
  simp only [ring]
  split
  · next live =>
      have held : session.isHeld = true := by
        simpa only [isLive, present, Option.any_some] using live
      simp only [keepAliveDue]
      simp only [present, established, if_true]
      have sent := Gentle.sendInProgress rung.sound present ⟨held, unreleased⟩
      refine rung.trans (sent.trans (Gentle.arm sent.sound present established ?_))
      intro other set again
      rw [agenda_sendInProgress] at set
      obtain ⟨set, different⟩ := (sound.courier.agenda.mem_alarms_popDue? popped).mp set
      obtain ⟨_, againFound, same⟩ := sound.ringing set again
      cases found.symm.trans againFound
      exact different (Option.some.inj (same.symm.trans keepAlive))
  · exact rung

/-- A request is given up, and its session is told. -/
theorem Proceeds.giveUp (sound : client.Sound) {transaction : UInt32} {request : PendingRequest}
    {courier : Courier} (found : client.courier.pending.get? transaction = some request)
    (forgets : Courier.Forgets transaction client.courier courier)
    (transport : courier.transport = client.courier.transport) :
    Proceeds 0 client (deliveryFailed
      ⟨request.owner, transaction, request.kind, request.ticket⟩ { client with courier }) := by
  obtain ⟨session, present, _, active⟩ := sound.owned found
  have dropped : Affects request.owner _ client { client with courier } :=
    Affects.drops sound forgets fun other _ => by simp only [sentBy, transport]
  have one : ∀ other owner, (∃ gone, client.courier.pending.get? other = some gone ∧
      gone.owner = owner ∧ other = transaction) → other = transaction := by
    rintro _ _ ⟨_, _, _, same⟩
    exact same
  have handles := Handles.deliveryFailed dropped.sound
    ⟨request.owner, transaction, request.kind, request.ticket⟩ present
  constructor
  case toEvolves =>
    have first : Evolves 0 client { client with courier } := by
      apply dropped.evolves
      intro again againFound released
      cases present.symm.trans againFound
      exact absurd released active.2
    exact first.trans (handles.toActs.proceeds_of_active dropped.sound present active).toEvolves
  case tended =>
    intro excused nodup tended
    have left := handles.tended_all dropped.sound nodup fun owner =>
      tended_of_lost dropped (fun _ => rfl) one (tended owner)
    apply tended_recover tended handles.settings handles.awaitsLess left
    intro owner before after kind _ _ _ _ keeps afterFound
    obtain ⟨rfl, rfl⟩ := keeps_unique found keeps
    exact handles.settled afterFound rfl

/-- A request is sent again and kept under a new timer. -/
theorem Proceeds.sendAgain (sound : client.Sound) {transaction : UInt32}
    {request kept : PendingRequest} {deadline now : Time} {courier : Courier}
    (found : client.courier.pending.get? transaction = some request)
    (keeps : Courier.Keeps transaction kept deadline client.courier courier)
    (kind : kept.kind = request.kind) (owner : kept.owner = request.owner)
    (number : kept.session = request.session)
    (transport : courier.transport = (client.courier.transport.send now (some request.owner)
      (some request.ticket) request.bytes).2) :
    Proceeds 0 client { client with courier } := by
  obtain ⟨session, present, own, active⟩ := sound.owned found
  have affects : Affects request.owner (fun other _ => other = transaction) client
      { client with courier } := by
    apply Affects.of_keeps sound keeps (sound.kept found)
    · exact ⟨session, owner ▸ present, own.trans number.symm, active⟩
    · intro other different
      exact sentBy_send (fun same => different (Option.some.inj same).symm) transport
  constructor
  case toEvolves =>
    apply affects.evolves
    intro again againFound released
    cases present.symm.trans againFound
    exact absurd released active.2
  case tended =>
    intro excused nodup tended ref after awaitedKind awaited afterFound held slot repeated stays
    have before := tended ref afterFound held slot repeated stays
    by_cases same : awaited = transaction
    · subst same
      obtain ⟨rfl, rfl⟩ := keeps_unique found before
      exact ⟨kept, (keeps.pending _).trans (if_pos rfl), kind, owner⟩
    · exact affects.keeps before same

/-- The message timer of a request runs out. -/
theorem Proceeds.ring_unanswered (sound : client.Sound) {transaction : UInt32}
    (popped : client.courier.agenda.popDue? limit = some (alarm, agenda))
    (task : alarm.task = .unanswered transaction) :
    Proceeds 0 client (ring (.unanswered transaction)
      { client with courier := { client.courier with agenda } }) := by
  obtain ⟨request, found, _, cases⟩ := sound.courier.expire_eq popped task
  simp only [ring]
  split at cases
  · obtain ⟨courier, expired, forgets, _, transport⟩ := cases
    obtain ⟨session, present, _, active⟩ := sound.owned found
    have live : isLive { client with courier } request.owner = true := by
      change (client.session? request.owner).any _ = true
      rw [present]
      exact active.1
    simp only [expired, live, if_true]
    exact .giveUp sound found forgets transport
  · obtain ⟨courier, expired, keeps, _, transport⟩ := cases
    simp only [expired]
    exact .sendAgain sound found keeps rfl rfl rfl transport

/-- An alarm that rings lets the client proceed. -/
theorem Proceeds.step (sound : client.Sound) (stepped : step limit client = some next) :
    Proceeds 0 client next := by
  simp only [Client.step] at stepped
  split at stepped
  · cases stepped
  · next alarm agenda popped =>
      cases stepped
      cases task : alarm.task with
      | unanswered transaction => exact .ring_unanswered sound popped task
      | keepAlive ref => exact .ring_keepAlive sound popped task

end Ring

/-- Moving the clock on changes nothing else. -/
theorem Proceeds.moveTo (sound : client.Sound) (time : Time) :
    Proceeds 0 client
      { client with
        courier := { client.courier with agenda := client.courier.agenda.moveTo time } } := by
  apply Proceeds.of_gentle _ sound
  intro ref
  exact .aside { sound with courier := sound.courier.moveTo time } rfl rfl (List.suffix_refl _)
    rfl rfl

theorem Proceeds.advance (sound : client.Sound) (duration : Time) :
    Proceeds 0 client (client.advance duration) := by
  have stepped : ∀ before next, Client.step (client.courier.agenda.now + duration) before =
      some next → Proceeds 0 client before → Proceeds 0 client next :=
    fun _ _ taken before => before.trans (.step before.sound taken)
  have rung := exhaust_preserves stepped
    (client.weight (client.courier.agenda.now + duration)) (.refl sound)
  exact rung.trans (.moveTo rung.sound _)

end Client

end OnDemand
