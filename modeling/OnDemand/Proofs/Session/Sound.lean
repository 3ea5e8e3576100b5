import OnDemand.Proofs.Request.Courier
import OnDemand.Proofs.Route.Table
import OnDemand.Session.Client

/-!
# Sessions and what they share

A client is sound when its parts belong together: a session that is held and not
released is on the routes, and only such a session; requests and keep-alive alarms have
sessions; and what a session awaits agrees with where it stands.  Everything that a
client does is made of few steps, each of which keeps it sound and affects no session
but one.
-/

namespace OnDemand

theorem SessionState.ne_released_of_isEstablished {state : SessionState}
    (established : state.isEstablished = true) : state ≠ .released := by
  rintro rfl
  cases established

/-- A session that may ask for its status or for a reset is neither ending nor ended. -/
theorem SessionState.not_ending {state : SessionState}
    (allowed : ¬ (state ≠ .setupSent ∧ state ≠ .error ∧ ¬ state.isEstablished)) :
    state ≠ .releasing ∧ state ≠ .released := by
  constructor <;> rintro rfl <;> exact allowed ⟨nofun, nofun, nofun⟩

namespace Session

/-- The transaction in which a session awaits the answer to a kind of request. -/
def slot (kind : SignalKind) (session : Session) : Option UInt32 :=
  match kind with
  | .setupRequest => session.setup
  | .release .request => session.release
  | .statusRequest => session.status
  | .reset .request => session.reset
  | _ => none

/-- What a session awaits and holds agrees with where it stands. -/
structure Coherent (session : Session) : Prop where
  setup : session.setup.isSome ↔ session.state = .setupSent
  release : session.release.isSome ↔ session.state = .releasing
  keepAlive : session.keepAlive.isSome → session.state.isEstablished
  released : session.state = .released →
    session.status = none ∧ session.reset = none ∧ session.caActive = false

/-- The session is held by its owner and not released. -/
def IsActive (session : Session) : Prop := session.isHeld = true ∧ session.state ≠ .released

theorem awaits_iff {session : Session} {transaction : UInt32} :
    session.awaits transaction = true ↔ ∃ kind, session.slot kind = some transaction := by
  simp only [awaits, List.contains_iff_mem, List.mem_cons, List.not_mem_nil, or_false]
  constructor
  · rintro (own | own | own | own)
    · exact ⟨.setupRequest, own.symm⟩
    · exact ⟨.release .request, own.symm⟩
    · exact ⟨.statusRequest, own.symm⟩
    · exact ⟨.reset .request, own.symm⟩
  · rintro ⟨kind, own⟩
    simp only [slot] at own
    split at own
    · exact .inl own.symm
    · exact .inr (.inl own.symm)
    · exact .inr (.inr (.inl own.symm))
    · exact .inr (.inr (.inr own.symm))
    · cases own

/-- A released session awaits nothing. -/
theorem Coherent.slot_eq_none {session : Session} (coherent : session.Coherent)
    (released : session.state = .released) (kind : SignalKind) : session.slot kind = none := by
  obtain ⟨status, reset, _⟩ := coherent.released released
  simp only [slot]
  split
  · apply Option.not_isSome_iff_eq_none.mp
    intro some
    cases released.symm.trans (coherent.setup.mp some)
  · apply Option.not_isSome_iff_eq_none.mp
    intro some
    cases released.symm.trans (coherent.release.mp some)
  · exact status
  · exact reset
  · rfl

/-- A change of a session that leaves it coherent.  It may begin to await one
transaction. -/
structure Retouches (granted : Option (SignalKind × UInt32)) (before after : Session) :
    Prop where
  number : after.number = before.number
  profile : after.profile = before.profile
  coherent : before.Coherent → after.Coherent
  slots : ∀ {kind transaction}, after.slot kind = some transaction →
    before.slot kind = some transaction ∨ granted = some (kind, transaction)

/-- A change of a session that also leaves alone what ties it to routes and alarms. -/
structure RetouchesInside (granted : Option (SignalKind × UInt32)) (before after : Session) :
    Prop extends Retouches granted before after where
  keepAlive : after.keepAlive = before.keepAlive
  isHeld : after.isHeld = before.isHeld
  released : after.state = .released ↔ before.state = .released

theorem RetouchesInside.active {granted : Option (SignalKind × UInt32)}
    {before after : Session} (retouches : before.RetouchesInside granted after) :
    after.IsActive ↔ before.IsActive := by
  rw [IsActive, IsActive, retouches.isHeld, Ne, retouches.released]

end Session

namespace Client

/-- The parts of a client belong together. -/
structure Sound (client : Client) : Prop where
  courier : client.courier.Sound
  routes : client.routes.Consistent
  /-- No datagram waits for a call of the conditional-access component. -/
  quiet : client.ca.arrival = none
  next : client.nextNumber.toNat = client.sessions.length + 1
  number : ∀ {ref session}, client.session? ref = some session → session.number.toNat = ref + 1
  coherent : ∀ {ref session}, client.session? ref = some session → session.Coherent
  /-- The routes lead to the sessions that are held and not released. -/
  routed : ∀ {owner ref}, client.routes.handler? owner = some ref ↔
    ∃ session, client.session? ref = some session ∧ session.number = owner ∧ session.IsActive
  /-- Each request is kept for such a session. -/
  owned : ∀ {transaction request}, client.courier.pending.get? transaction = some request →
    ∃ session, client.session? request.owner = some session ∧
      session.number = request.session ∧ session.IsActive
  /-- Each keep-alive alarm is known to its session. -/
  ringing : ∀ {alarm ref}, alarm ∈ client.courier.agenda.alarms →
    alarm.task = .keepAlive ref →
    ∃ session, client.session? ref = some session ∧ session.keepAlive = some alarm.handle
  /-- What a session takes for its keep-alive alarm is no other alarm. -/
  named : ∀ {ref session handle}, client.session? ref = some session →
    session.keepAlive = some handle →
    handle < client.courier.agenda.nextHandle ∧
      ∀ alarm ∈ client.courier.agenda.alarms, alarm.handle = handle →
        alarm.task = .keepAlive ref
  /-- Transactions that are awaited or in which a request is kept were drawn. -/
  awaited : ∀ {ref session kind transaction}, client.session? ref = some session →
    session.slot kind = some transaction → transaction ∈ client.drawn
  kept : ∀ {transaction request}, client.courier.pending.get? transaction = some request →
    transaction ∈ client.drawn
  /-- As long as no transaction is drawn twice, each is awaited in one place. -/
  apart : client.drawn.Nodup → ∀ {ref other session otherSession kind otherKind transaction},
    client.session? ref = some session → session.slot kind = some transaction →
    client.session? other = some otherSession →
    otherSession.slot otherKind = some transaction → ref = other ∧ kind = otherKind

/-- The attempts to send a datagram on behalf of a session. -/
def sentBy (ref : SessionRef) (client : Client) : List SendAttempt :=
  client.courier.transport.attempts.filter (·.sender = some ref)

/-- A request of some kind is kept for a session in a transaction. -/
def Keeps (client : Client) (transaction : UInt32) (kind : SignalKind) (owner : SessionRef) :
    Prop :=
  ∃ request, client.courier.pending.get? transaction = some request ∧ request.kind = kind ∧
    request.owner = owner

/-- The client after something that affects no session but one, and loses no requests but
some. -/
structure Affects (ref : SessionRef) (lost : UInt32 → SessionRef → Prop)
    (client next : Client) : Prop where
  sound : next.Sound
  length : next.sessions.length = client.sessions.length
  settings : next.settings = client.settings
  drawn : client.drawn <:+ next.drawn
  others : ∀ {other}, other ≠ ref → next.session? other = client.session? other
  sent : ∀ {other}, other ≠ ref → next.sentBy other = client.sentBy other
  keeps : ∀ {transaction kind owner}, client.Keeps transaction kind owner →
    ¬ lost transaction owner → next.Keeps transaction kind owner

variable {client next : Client} {ref other : SessionRef}

/-- Sessions are told apart by their numbers. -/
theorem Sound.number_eq_iff (sound : client.Sound) {session otherSession : Session}
    (found : client.session? ref = some session)
    (otherFound : client.session? other = some otherSession) :
    otherSession.number = session.number ↔ other = ref := by
  constructor
  · intro same
    have number := sound.number otherFound
    rw [same, sound.number found] at number
    exact (Nat.succ.inj number).symm
  · rintro rfl
    cases found.symm.trans otherFound
    rfl

theorem Affects.refl (sound : client.Sound) (ref : SessionRef) :
    Affects ref (fun _ _ => False) client client :=
  ⟨sound, rfl, rfl, List.suffix_refl _, fun _ => rfl, fun _ => rfl, fun keeps _ => keeps⟩

theorem Affects.trans {last : Client} {lost lostLater : UInt32 → SessionRef → Prop}
    (first : Affects ref lost client next) (second : Affects ref lostLater next last) :
    Affects ref (fun transaction owner => lost transaction owner ∨ lostLater transaction owner)
      client last where
  sound := second.sound
  length := second.length.trans first.length
  settings := second.settings.trans first.settings
  drawn := first.drawn.trans second.drawn
  others different := (second.others different).trans (first.others different)
  sent different := (second.sent different).trans (first.sent different)
  keeps keeps stays :=
    second.keeps (first.keeps keeps fun gone => stays (.inl gone)) fun gone => stays (.inr gone)

/-- A session awaits nothing that it did not await before. -/
def AwaitsLess (ref : SessionRef) (client next : Client) : Prop :=
  ∀ ⦃after⦄, next.session? ref = some after →
    ∃ before, client.session? ref = some before ∧ after.profile = before.profile ∧
      after.isHeld = before.isHeld ∧
      ∀ ⦃kind transaction⦄, after.slot kind = some transaction →
        before.slot kind = some transaction

theorem AwaitsLess.trans {last : Client} (first : AwaitsLess ref client next)
    (second : AwaitsLess ref next last) : AwaitsLess ref client last := by
  intro after found
  obtain ⟨middle, middleFound, profile, isHeld, slots⟩ := second found
  obtain ⟨before, beforeFound, profileBefore, isHeldBefore, slotsBefore⟩ := first middleFound
  exact ⟨before, beforeFound, profile.trans profileBefore, isHeld.trans isHeldBefore,
    fun _ _ slot => slotsBefore (slots slot)⟩

/-- Something that affects one session, loses no requests, and makes the session await
nothing new. -/
structure Gentle (ref : SessionRef) (client next : Client) : Prop
    extends Affects ref (fun _ _ => False) client next where
  slots : AwaitsLess ref client next

theorem Gentle.of_sessions {ref : SessionRef}
    (affects : Affects ref (fun _ _ => False) client next)
    (sessions : next.sessions = client.sessions) : Gentle ref client next where
  toAffects := affects
  slots := by
    intro after found
    rw [session?, sessions] at found
    exact ⟨after, found, rfl, rfl, fun _ _ slot => slot⟩

theorem Gentle.refl (sound : client.Sound) (ref : SessionRef) : Gentle ref client client :=
  .of_sessions (.refl sound ref) rfl

theorem Gentle.trans {last : Client} (first : Gentle ref client next)
    (second : Gentle ref next last) : Gentle ref client last where
  toAffects :=
    { first.toAffects.trans second.toAffects with
      keeps := fun keeps _ => second.keeps (first.keeps keeps id) id }
  slots := first.slots.trans second.slots

theorem Affects.mono {lost wider : UInt32 → SessionRef → Prop}
    (affects : Affects ref lost client next)
    (wide : ∀ transaction owner, lost transaction owner → wider transaction owner) :
    Affects ref wider client next :=
  { affects with
    keeps := fun keeps stays => affects.keeps keeps fun gone => stays (wide _ _ gone) }

/-! ## Sessions -/

@[simp] theorem session?_modify {change : Session → Session} :
    (client.modify ref change).session? other =
      if other = ref then (client.session? other).map change else client.session? other := by
  simp only [session?, modify, List.getElem?_modify]
  by_cases same : ref = other
  · simp only [same, if_true]
    rfl
  · simp only [same, Ne.symm same, if_false]
    exact id_map _

theorem session?_modify_self {change : Session → Session} {session : Session}
    (found : client.session? ref = some session) :
    (client.modify ref change).session? ref = some (change session) := by
  rw [session?_modify, if_pos rfl, found, Option.map_some]

theorem session?_modify_of_ne {change : Session → Session} (different : other ≠ ref) :
    (client.modify ref change).session? other = client.session? other := by
  rw [session?_modify, if_neg different]

theorem modify_modify {change further : Session → Session} :
    (client.modify ref change).modify ref further = client.modify ref (further ∘ change) := by
  simp only [modify, List.modify_modify_eq]

/-- Who holds a session does not change when the session does in another respect. -/
theorem isLive_modify {change : Session → Session}
    (same : ∀ session, (change session).isHeld = session.isHeld) :
    (client.modify ref change).isLive = client.isLive := by
  funext other
  rw [isLive, isLive, session?_modify]
  split
  · simp only [Option.any_map, same]
  · rfl

theorem session?_modify_eq_some {change : Session → Session} {after : Session} :
    (client.modify ref change).session? other = some after ↔
      ∃ before, client.session? other = some before ∧
        after = if other = ref then change before else before := by
  rw [session?_modify]
  by_cases same : other = ref
  · simp only [same, if_true, Option.map_eq_some_iff]
    exact exists_congr fun before => and_congr_right fun _ => eq_comm
  · simp only [same, if_false, exists_eq_right']

/-- A sound client stays so when a session is retouched, with a transaction that was just
drawn if it begins to await one, and routes, requests and alarms still go with the
sessions. -/
theorem Sound.revise (sound : client.Sound) (granted : Option (SignalKind × UInt32))
    {change : Session → Session}
    (sessions : next.sessions = client.sessions.modify ref change)
    (nextNumber : next.nextNumber = client.nextNumber)
    (quiet : next.ca.arrival = none)
    (retouches : ∀ session, client.session? ref = some session →
      session.Retouches granted (change session))
    (suffix : client.drawn <:+ next.drawn)
    (fresh : ∀ kind transaction, granted = some (kind, transaction) →
      next.drawn = transaction :: client.drawn)
    (courier : next.courier.Sound) (routes : next.routes.Consistent)
    (routed : ∀ {owner ref}, next.routes.handler? owner = some ref ↔
      ∃ session, next.session? ref = some session ∧ session.number = owner ∧ session.IsActive)
    (owned : ∀ {transaction request}, next.courier.pending.get? transaction = some request →
      transaction ∈ client.drawn ∧ ∃ session, next.session? request.owner = some session ∧
        session.number = request.session ∧ session.IsActive)
    (ringing : ∀ {alarm ref}, alarm ∈ next.courier.agenda.alarms →
      alarm.task = .keepAlive ref →
      ∃ session, next.session? ref = some session ∧ session.keepAlive = some alarm.handle)
    (named : ∀ {ref session handle}, next.session? ref = some session →
      session.keepAlive = some handle →
      handle < next.courier.agenda.nextHandle ∧
        ∀ alarm ∈ next.courier.agenda.alarms, alarm.handle = handle →
          alarm.task = .keepAlive ref) : next.Sound := by
  have backward : ∀ {other after}, next.session? other = some after →
      ∃ before, client.session? other = some before ∧
        (other = ref ∧ before.Retouches granted after ∨ after = before) := by
    intro other after found
    rw [session?, sessions] at found
    obtain ⟨before, beforeFound, rfl⟩ := client.session?_modify_eq_some.mp found
    refine ⟨before, beforeFound, ?_⟩
    split
    · next same => exact .inl ⟨same, retouches before (same ▸ beforeFound)⟩
    · exact .inr rfl
  have awaits : ∀ {other after kind transaction}, next.session? other = some after →
      after.slot kind = some transaction →
        (∃ before, client.session? other = some before ∧ before.slot kind = some transaction) ∨
          other = ref ∧ granted = some (kind, transaction) := by
    intro other after kind transaction found slot
    obtain ⟨before, beforeFound, ⟨same, retouched⟩ | rfl⟩ := backward found
    · rcases retouched.slots slot with slot | new
      · exact .inl ⟨before, beforeFound, slot⟩
      · exact .inr ⟨same, new⟩
    · exact .inl ⟨after, beforeFound, slot⟩
  constructor
  case courier => exact courier
  case routes => exact routes
  case quiet => exact quiet
  case next =>
    rw [nextNumber, sessions, List.length_modify]
    exact sound.next
  case number =>
    intro other after found
    obtain ⟨before, beforeFound, ⟨_, retouched⟩ | rfl⟩ := backward found
    · exact retouched.number ▸ sound.number beforeFound
    · exact sound.number beforeFound
  case coherent =>
    intro other after found
    obtain ⟨before, beforeFound, ⟨_, retouched⟩ | rfl⟩ := backward found
    · exact retouched.coherent (sound.coherent beforeFound)
    · exact sound.coherent beforeFound
  case routed => exact routed
  case owned => exact fun found => (owned found).2
  case ringing => exact ringing
  case named => exact named
  case awaited =>
    intro other after kind transaction found slot
    rcases awaits found slot with ⟨before, beforeFound, slot⟩ | ⟨_, new⟩
    · exact suffix.subset (sound.awaited beforeFound slot)
    · exact fresh kind transaction new ▸ List.mem_cons_self
  case kept => exact fun found => suffix.subset (owned found).1
  case apart =>
    intro nodup one two oneAfter twoAfter oneKind twoKind transaction oneFound oneSlot twoFound
      twoSlot
    -- a transaction that was just drawn is awaited nowhere else
    have new : ∀ {other session kind otherKind}, granted = some (kind, transaction) →
        client.session? other = some session → session.slot otherKind ≠ some transaction := by
      intro other session kind otherKind new found slot
      rw [fresh kind transaction new, List.nodup_cons] at nodup
      exact nodup.1 (sound.awaited found slot)
    rcases awaits oneFound oneSlot with ⟨oneBefore, oneBeforeFound, oneSlot⟩ | ⟨oneRef, oneNew⟩
    · rcases awaits twoFound twoSlot with ⟨twoBefore, twoBeforeFound, twoSlot⟩ | ⟨_, twoNew⟩
      · exact sound.apart (nodup.sublist suffix.sublist) oneBeforeFound oneSlot twoBeforeFound
          twoSlot
      · exact absurd oneSlot (new twoNew oneBeforeFound)
    · rcases awaits twoFound twoSlot with ⟨twoBefore, twoBeforeFound, twoSlot⟩ | ⟨twoRef, twoNew⟩
      · exact absurd twoSlot (new oneNew twoBeforeFound)
      · cases oneNew.symm.trans twoNew
        exact ⟨oneRef.trans twoRef.symm, rfl⟩

/-- The sessions that are held and not released stay the same when one of them is changed
in another respect. -/
theorem exists_active_modify {change : Session → Session} {number : UInt32}
    (same : ∀ session, client.session? ref = some session →
      (change session).number = session.number ∧
        ((change session).IsActive ↔ session.IsActive)) :
    (∃ session, (client.modify ref change).session? other = some session ∧
        session.number = number ∧ session.IsActive) ↔
      ∃ session, client.session? other = some session ∧ session.number = number ∧
        session.IsActive := by
  constructor
  · rintro ⟨after, found, named, active⟩
    obtain ⟨before, beforeFound, rfl⟩ := client.session?_modify_eq_some.mp found
    split at named
    · next own =>
        subst own
        obtain ⟨number, activeIff⟩ := same before beforeFound
        rw [if_pos rfl] at active
        exact ⟨before, beforeFound, number.symm.trans named, activeIff.mp active⟩
    · next different =>
        rw [if_neg different] at active
        exact ⟨before, beforeFound, named, active⟩
  · rintro ⟨before, found, named, active⟩
    refine ⟨_, client.session?_modify_eq_some.mpr ⟨before, found, rfl⟩, ?_⟩
    split
    · next own =>
        subst own
        obtain ⟨number, activeIff⟩ := same before found
        exact ⟨number.trans named, activeIff.mpr active⟩
    · exact ⟨named, active⟩

/-- A session is retouched inside. -/
theorem Sound.retouch (sound : client.Sound) {granted : Option (SignalKind × UInt32)}
    {change : Session → Session} {drawn : List UInt32} {nextTransaction : UInt32}
    (retouches : ∀ session, client.session? ref = some session →
      session.RetouchesInside granted (change session))
    (suffix : client.drawn <:+ drawn)
    (fresh : ∀ kind transaction, granted = some (kind, transaction) →
      drawn = transaction :: client.drawn) :
    Sound ({ client with drawn, nextTransaction }.modify ref change) := by
  have active : ∀ {other : SessionRef} {number : UInt32},
      (∃ session, (client.modify ref change).session? other = some session ∧
          session.number = number ∧ session.IsActive) ↔
        ∃ session, client.session? other = some session ∧ session.number = number ∧
          session.IsActive :=
    exists_active_modify fun session found =>
      ⟨(retouches session found).number, (retouches session found).active⟩
  refine sound.revise granted rfl rfl sound.quiet (fun session found => (retouches session found).1)
    suffix fresh sound.courier sound.routes (sound.routed.trans active.symm)
    (fun found => ⟨sound.kept found, active.mpr (sound.owned found)⟩) ?_ ?_
  · intro alarm other set task
    obtain ⟨before, found, keepAlive⟩ := sound.ringing set task
    refine ⟨_, client.session?_modify_eq_some.mpr ⟨before, found, rfl⟩, ?_⟩
    split
    · next own => exact (retouches before (own ▸ found)).keepAlive.trans keepAlive
    · exact keepAlive
  · intro other after handle found keepAlive
    obtain ⟨before, beforeFound, rfl⟩ := client.session?_modify_eq_some.mp found
    apply sound.named beforeFound
    split at keepAlive
    · next own => exact (retouches before (own ▸ beforeFound)).keepAlive.symm.trans keepAlive
    · exact keepAlive

theorem Gentle.modify (sound : client.Sound) {change : Session → Session}
    (retouches : ∀ session, client.session? ref = some session →
      session.RetouchesInside none (change session)) :
    Gentle ref client (client.modify ref change) where
  sound := sound.retouch retouches (List.suffix_refl client.drawn) nofun
  length := List.length_modify ..
  settings := rfl
  drawn := List.suffix_refl _
  others := session?_modify_of_ne
  sent _ := rfl
  keeps keeps _ := keeps
  slots := by
    intro after found
    obtain ⟨before, beforeFound, rfl⟩ := client.session?_modify_eq_some.mp found
    have retouched := retouches before beforeFound
    rw [if_pos rfl]
    refine ⟨before, beforeFound, retouched.profile, retouched.isHeld, fun _ _ slot => ?_⟩
    exact (retouched.slots slot).resolve_right nofun

/-- A session that is known is retouched inside. -/
theorem Gentle.retouch (sound : client.Sound) {session : Session}
    (found : client.session? ref = some session) (change : Session → Session)
    (retouches : session.RetouchesInside none (change session)) :
    Gentle ref client (client.modify ref change) := by
  apply Gentle.modify sound
  intro again againFound
  cases found.symm.trans againFound
  exact retouches

/-- What touches neither sessions nor requests nor what was sent is gentle to all
sessions. -/
theorem Gentle.aside (sound : next.Sound) (sessions : next.sessions = client.sessions)
    (settings : next.settings = client.settings) (drawn : client.drawn <:+ next.drawn)
    (pending : next.courier.pending = client.courier.pending)
    (attempts : next.courier.transport.attempts = client.courier.transport.attempts) :
    Gentle ref client next := by
  apply Gentle.of_sessions _ sessions
  constructor
  case sound => exact sound
  case length => rw [sessions]
  case settings => exact settings
  case drawn => exact drawn
  case others =>
    intro other _
    rw [session?, sessions, session?]
  case sent =>
    intro other _
    rw [sentBy, attempts, sentBy]
  case keeps =>
    intro transaction kind owner keeps _
    rw [Keeps, pending]
    exact keeps

theorem Gentle.draw (sound : client.Sound) (ref : SessionRef) :
    Gentle ref client client.drawTransaction.2 := by
  refine .aside ?_ rfl rfl (List.suffix_cons _ _) rfl rfl
  exact
    { sound with
      awaited := fun found slot => List.mem_cons_of_mem _ (sound.awaited found slot)
      kept := fun found => List.mem_cons_of_mem _ (sound.kept found)
      apart := fun nodup => sound.apart (List.nodup_cons.mp nodup).2 }

/-- A session begins to await a transaction that is drawn for it. -/
theorem Affects.mark (sound : client.Sound) {kind : SignalKind} {change : Session → Session}
    (retouches : ∀ session, client.session? ref = some session →
      session.RetouchesInside (some (kind, client.drawTransaction.1)) (change session)) :
    Affects ref (fun _ _ => False) client (client.drawTransaction.2.modify ref change) where
  sound := by
    apply sound.retouch retouches (List.suffix_cons _ _)
    rintro _ _ ⟨⟩
    rfl
  length := List.length_modify ..
  settings := rfl
  drawn := List.suffix_cons _ _
  others := session?_modify_of_ne
  sent _ := rfl
  keeps keeps _ := keeps

/-! ## Requests -/

theorem sentBy_send {time : Time} {sender : Option Nat} {ticket : Option AlarmHandle}
    {bytes : Bytes} {courier : Courier} (different : sender ≠ some other)
    (transport : courier.transport =
      (client.courier.transport.send time sender ticket bytes).2) :
    sentBy other { client with courier } = client.sentBy other := by
  simp only [sentBy, transport, Transport.send, List.filter_cons, different, decide_false,
    Bool.false_eq_true, if_false]

/-- Requests are dropped. -/
theorem Affects.drops (sound : client.Sound) {gone : UInt32 → PendingRequest → Prop}
    {courier : Courier} (drops : Courier.Drops gone client.courier courier)
    (sent : ∀ other, other ≠ ref →
      sentBy other { client with courier } = client.sentBy other) :
    Affects ref
      (fun transaction owner => ∃ request,
        client.courier.pending.get? transaction = some request ∧ request.owner = owner ∧
          gone transaction request)
      client { client with courier } where
  sound :=
    { sound with
      courier := drops.sound sound.courier
      owned := fun found => sound.owned (drops.pending.mp found).1
      kept := fun found => sound.kept (drops.pending.mp found).1
      ringing := fun set => sound.ringing (drops.alarms.mp set).1
      named := fun found keepAlive =>
        have ⟨issued, own⟩ := sound.named found keepAlive
        ⟨Nat.lt_of_lt_of_le issued drops.nextHandle,
          fun alarm set => own alarm (drops.alarms.mp set).1⟩ }
  length := rfl
  settings := rfl
  drawn := List.suffix_refl _
  others _ := rfl
  sent := sent _
  keeps := by
    rintro transaction kind owner ⟨request, found, named, own⟩ stays
    refine ⟨request, drops.pending.mpr ⟨found, ?_⟩, named, own⟩
    exact fun gone => stays ⟨request, found, own, gone⟩

/-- A request is kept for a session under a new message timer. -/
theorem Affects.of_keeps (sound : client.Sound) {transaction : UInt32}
    {request : PendingRequest} {deadline : Time} {courier : Courier}
    (keeps : Courier.Keeps transaction request deadline client.courier courier)
    (drawn : transaction ∈ client.drawn)
    (owned : ∃ session, client.session? request.owner = some session ∧
      session.number = request.session ∧ session.IsActive)
    (sent : ∀ other, other ≠ ref →
      sentBy other { client with courier } = client.sentBy other) :
    Affects ref (fun other _ => other = transaction) client { client with courier } where
  sound :=
    { sound with
      courier := keeps.sound sound.courier
      owned := by
        intro other found present
        simp only [keeps.pending] at present
        split at present
        · cases present
          exact owned
        · exact sound.owned present
      kept := by
        intro other found present
        simp only [keeps.pending] at present
        split at present
        · next same => exact same ▸ drawn
        · exact sound.kept present
      ringing := by
        intro alarm ref set task
        rcases keeps.alarms.mp set with rfl | ⟨set, _⟩
        · cases task
        · exact sound.ringing set task
      named := by
        intro ref session handle found keepAlive
        obtain ⟨issued, own⟩ := sound.named found keepAlive
        refine ⟨keeps.nextHandle ▸ Nat.lt_succ_of_lt issued, ?_⟩
        intro alarm set same
        rcases keeps.alarms.mp set with rfl | ⟨set, _⟩
        · exact absurd (same.symm.trans keeps.fresh) (Nat.ne_of_lt issued)
        · exact own alarm set same }
  length := rfl
  settings := rfl
  drawn := List.suffix_refl _
  others _ := rfl
  sent := sent _
  keeps := by
    rintro other kind owner ⟨found, present, named, own⟩ stays
    refine ⟨found, ?_, named, own⟩
    rw [keeps.pending, if_neg stays]
    exact present

/-- A session submits a message. -/
theorem Affects.submit (sound : client.Sound) {session stored : Session} {message : Signal}
    {retries : Nat} (found : client.session? ref = some stored)
    (number : session.number = stored.number) (active : stored.IsActive)
    (drawn : retries ≠ 0 → message.transaction ∈ client.drawn) :
    Affects ref (fun transaction _ => retries ≠ 0 ∧ transaction = message.transaction) client
      (client.submit ref session message retries).2 := by
  have submission := sound.courier.submission message retries session.number ref
  have own : ∀ {courier : Courier} {ticket : Option AlarmHandle} {bytes : Bytes},
      courier.transport = (client.courier.transport.send client.courier.agenda.now (some ref)
        ticket bytes).2 →
      ∀ other, other ≠ ref → sentBy other { client with courier } = client.sentBy other := by
    intro courier ticket bytes transport other different
    exact sentBy_send (fun same => different (Option.some.inj same).symm) transport
  simp only [Client.submit]
  generalize client.courier.submit message retries session.number ref = outcome at submission
  cases submission with
  | unencodable encoded =>
      exact (Affects.refl sound ref).mono fun _ _ never => never.elim
  | @unkept bytes result encoded once =>
      have nothing : Courier.Drops _ client.courier (client.courier.send (some ref) bytes).2 :=
        sound.courier.drops_nothing rfl rfl rfl
      apply (Affects.drops sound nothing (own rfl)).mono
      rintro _ _ ⟨_, _, _, never⟩
      exact never.elim
  | kept encoded repeated keeps now transport =>
      refine (Affects.of_keeps sound keeps (drawn repeated) ?_ (own transport)).mono ?_
      · exact ⟨stored, found, number.symm, active⟩
      · exact fun _ _ same => ⟨repeated, same⟩
  | refused encoded repeated forgets issued now transport =>
      apply (Affects.drops sound forgets (own transport)).mono
      rintro _ _ ⟨_, _, _, same⟩
      exact ⟨repeated, same⟩

/-- A message with retries that was taken is kept. -/
theorem keeps_submit (sound : client.Sound) {session : Session} {message : Signal}
    {retries : Nat} (repeated : retries ≠ 0)
    (accepted : (client.submit ref session message retries).1 = .ok ()) :
    (client.submit ref session message retries).2.Keeps message.transaction message.kind ref := by
  have submission := sound.courier.submission message retries session.number ref
  simp only [Client.submit] at accepted ⊢
  generalize client.courier.submit message retries session.number ref = outcome
    at submission accepted
  cases submission with
  | unencodable encoded => cases accepted
  | unkept encoded once => exact absurd once repeated
  | kept encoded repeated keeps now transport =>
      exact ⟨_, (keeps.pending _).trans (if_pos rfl), rfl, rfl⟩
  | refused encoded repeated forgets issued now transport => cases accepted

/-- A session forgets its requests. -/
theorem Affects.cancel (sound : client.Sound) {session : Session}
    (found : client.session? ref = some session) :
    Affects ref (fun _ owner => owner = ref) client
      { client with courier := (client.courier.cancelSession session.number).2 } := by
  have drops := sound.courier.drops_cancelSession session.number
  refine (Affects.drops sound drops fun other _ => ?_).mono ?_
  · simp only [sentBy, Courier.transport_cancelSession]
  · rintro transaction owner ⟨request, present, rfl, own⟩
    obtain ⟨stored, storedFound, number, _⟩ := sound.owned present
    exact (sound.number_eq_iff found storedFound).mp (number.trans own)

/-- A confirm settles the request that it answers. -/
theorem Affects.acknowledge (sound : client.Sound) (transaction : UInt32) (reply : SignalKind)
    (ref : SessionRef) :
    Affects ref
      (fun other owner => other = transaction ∧ ∃ kind, client.Keeps transaction kind owner ∧
        reply.request? = some kind)
      client { client with courier := (client.courier.acknowledgeReply transaction reply).2 } := by
  rw [Courier.acknowledgeReply_eq]
  split
  · next answered =>
      obtain ⟨answers, answersFound, kind⟩ := answered
      have drops := sound.courier.forgets_drop transaction
      refine (Affects.drops sound drops fun other _ => ?_).mono ?_
      · simp only [sentBy, Courier.transport_drop]
      · rintro other owner ⟨request, found, own, rfl⟩
        cases found.symm.trans answersFound
        exact ⟨rfl, answers.kind, ⟨answers, found, rfl, own⟩, kind⟩
  · exact (Affects.refl sound ref).mono fun _ _ never => never.elim

end Client

end OnDemand
