import OnDemand.Proofs.Session.Sound

/-!
# What a session holds

A session holds a keep-alive alarm while it is established, a route until it is let go
of, and a conditional-access session.  Taking hold of these and letting go of them keeps
a client sound.
-/

namespace OnDemand

namespace Client

variable {client next : Client} {ref other : SessionRef}

/-! ## Keep-alive alarms -/

/-- The client with the keep-alive alarm of a session changed, in its agenda and in the
session. -/
def withKeepAlive (ref : SessionRef) (keepAlive : Option AlarmHandle) (courier : Courier)
    (client : Client) : Client :=
  { client with courier }.modify ref fun session => { session with keepAlive }

/-- A keep-alive alarm may be set or taken back, as long as all such alarms are known to
their sessions. -/
theorem Gentle.keepAlive (sound : client.Sound) {session : Session}
    {keepAlive : Option AlarmHandle} {courier : Courier}
    (found : client.session? ref = some session)
    (established : keepAlive.isSome → session.state.isEstablished)
    (courierSound : courier.Sound)
    (pending : courier.pending = client.courier.pending)
    (transport : courier.transport = client.courier.transport)
    (handles : client.courier.agenda.nextHandle ≤ courier.agenda.nextHandle)
    (ringing : ∀ {alarm other}, alarm ∈ courier.agenda.alarms →
      alarm.task = .keepAlive other →
      if other = ref then keepAlive = some alarm.handle
      else alarm ∈ client.courier.agenda.alarms)
    (older : ∀ alarm ∈ courier.agenda.alarms,
      alarm.handle < client.courier.agenda.nextHandle → alarm ∈ client.courier.agenda.alarms)
    (named : ∀ handle, keepAlive = some handle → handle < courier.agenda.nextHandle ∧
      ∀ alarm ∈ courier.agenda.alarms, alarm.handle = handle → alarm.task = .keepAlive ref) :
    Gentle ref client (client.withKeepAlive ref keepAlive courier) where
  sound := by
    have active : ∀ {other : SessionRef} {number : UInt32},
        (∃ session, (client.modify ref fun session =>
            { session with keepAlive }).session? other = some session ∧
            session.number = number ∧ session.IsActive) ↔
          ∃ session, client.session? other = some session ∧ session.number = number ∧
            session.IsActive :=
      exists_active_modify fun _ _ => ⟨rfl, .rfl⟩
    refine sound.revise .none rfl rfl sound.quiet ?_ (List.suffix_refl _) nofun courierSound
      sound.routes (sound.routed.trans active.symm) ?_ ?_ ?_
    · intro before beforeFound
      cases found.symm.trans beforeFound
      refine ⟨rfl, rfl, fun coherent => ?_, .inl⟩
      exact ⟨coherent.setup, coherent.release, established, coherent.released⟩
    · intro transaction request kept
      change courier.pending.get? transaction = some request at kept
      rw [pending] at kept
      exact ⟨sound.kept kept, active.mpr (sound.owned kept)⟩
    · intro alarm other set task
      have known := ringing set task
      split at known
      · next own =>
          subst own
          exact ⟨_, session?_modify_self found, known⟩
      · next different =>
          obtain ⟨before, beforeFound, same⟩ := sound.ringing known task
          exact ⟨before, (session?_modify_of_ne different).trans beforeFound, same⟩
    · intro other after handle afterFound same
      obtain ⟨before, beforeFound, rfl⟩ := client.session?_modify_eq_some.mp afterFound
      split at same
      · next own => exact own ▸ named handle same
      · obtain ⟨issued, own⟩ := sound.named beforeFound same
        refine ⟨Nat.lt_of_lt_of_le issued handles, ?_⟩
        intro alarm set equal
        exact own alarm (older alarm set (equal ▸ issued)) equal
  length := List.length_modify ..
  settings := rfl
  drawn := List.suffix_refl _
  others := session?_modify_of_ne
  sent _ := by
    change courier.transport.attempts.filter _ = client.courier.transport.attempts.filter _
    rw [transport]
  keeps := by
    rintro transaction kind owner ⟨request, present, kept⟩ _
    rw [← pending] at present
    exact ⟨request, present, kept⟩
  slots := by
    intro after afterFound
    obtain ⟨before, beforeFound, rfl⟩ := client.session?_modify_eq_some.mp afterFound
    rw [if_pos rfl]
    exact ⟨before, beforeFound, rfl, rfl, fun _ _ slot => slot⟩

/-- An established session may be given a keep-alive alarm when it has none. -/
theorem Gentle.arm (sound : client.Sound) {session : Session}
    (found : client.session? ref = some session) (established : session.state.isEstablished)
    (unset : ∀ alarm ∈ client.courier.agenda.alarms, alarm.task ≠ .keepAlive ref) :
    Gentle ref client (client.armKeepAlive ref) := by
  unfold armKeepAlive
  split
  · exact .refl sound ref
  · have issued := sound.courier.agenda.issued
    refine Gentle.keepAlive sound found (fun _ => established)
      (sound.courier.arm_keepAlive _ ref) rfl rfl (Nat.le_succ _) ?_ ?_ ?_
    · intro alarm other set task
      rcases Agenda.mem_alarms_after.mp set with rfl | older
      · cases task
        rw [if_pos rfl]
      · rw [if_neg]
        · exact older
        · rintro rfl
          exact unset alarm older task
    · intro alarm set before
      rcases Agenda.mem_alarms_after.mp set with rfl | set
      · exact absurd before (Nat.lt_irrefl _)
      · exact set
    · rintro handle ⟨⟩
      refine ⟨Nat.lt_succ_self _, ?_⟩
      intro alarm set same
      rcases Agenda.mem_alarms_after.mp set with rfl | set
      · rfl
      · exact absurd same (Nat.ne_of_lt (issued alarm set))

/-- A session that has no keep-alive alarm set may be rid of it. -/
theorem Gentle.disarm (sound : client.Sound) (ref : SessionRef) :
    Gentle ref client (client.disarmKeepAlive ref) := by
  simp only [disarmKeepAlive]
  split
  · exact .refl sound ref
  · next alarm keepAlive =>
      obtain ⟨session, found, keepAlive⟩ := Option.bind_eq_some_iff.mp keepAlive
      obtain ⟨issued, own⟩ := sound.named found keepAlive
      refine Gentle.keepAlive sound found nofun ?_ rfl rfl (Nat.le_refl _) ?_ ?_ nofun
      · exact sound.courier.disarm fun other set same => ⟨ref, own other set same⟩
      · intro other someone set task
        obtain ⟨set, different⟩ := Agenda.mem_alarms_cancel.mp set
        split
        · next same =>
            obtain ⟨_, again, handle⟩ := sound.ringing set task
            cases found.symm.trans (same ▸ again)
            cases keepAlive.symm.trans handle
            exact absurd rfl different
        · exact set
      · exact fun other set _ => (Agenda.mem_alarms_cancel.mp set).1

theorem session?_disarmKeepAlive {session : Session} (found : client.session? ref = some session) :
    (client.disarmKeepAlive ref).session? ref = some { session with keepAlive := none } := by
  simp only [disarmKeepAlive]
  rw [found, Option.bind_some]
  split
  · next none =>
      rw [found, ← none]
  · exact session?_modify_self found

/-! ## Letting go -/

/-- The client after a session has let go of its route and its requests. -/
def letGo (ref : SessionRef) (change : Session → Session) (number : UInt32) (client : Client) :
    Client :=
  (client.modify ref change).releaseHoldings number

/-- A session that is released, or no longer held, lets go of all that it holds. -/
theorem Affects.letGo (sound : client.Sound) {session : Session} (change : Session → Session)
    (found : client.session? ref = some session) (none : session.keepAlive = none)
    (retouches : session.Retouches .none (change session))
    (still : (change session).keepAlive = .none)
    (inactive : ¬ (change session).IsActive) :
    Affects ref (fun _ owner => owner = ref) client (client.letGo ref change session.number) where
  sound := by
    have drops := sound.courier.drops_cancelSession session.number
    have apart : ∀ {other stored}, client.session? other = some stored →
        stored.number = session.number → other = ref :=
      fun storedFound => (sound.number_eq_iff found storedFound).mp
    have kept : ∀ {other stored}, client.session? other = some stored → other ≠ ref →
        (client.letGo ref change session.number).session? other = some stored :=
      fun storedFound different => (session?_modify_of_ne different).trans storedFound
    have own : ∀ {other stored},
        (client.letGo ref change session.number).session? other = some stored → other = ref →
          stored = change session := by
      rintro other stored storedFound rfl
      exact Option.some.inj (storedFound.symm.trans (session?_modify_self found))
    refine sound.revise .none rfl rfl sound.quiet ?_ (List.suffix_refl _) nofun
      (drops.sound sound.courier) (sound.routes.unregister _) ?_ ?_ ?_ ?_
    · intro again againFound
      cases found.symm.trans againFound
      exact retouches
    · intro owner other
      change (client.routes.unregister session.number).handler? owner = some other ↔ _
      rw [RouteTable.handler?_unregister]
      split
      · next gone =>
          apply iff_of_false nofun
          rintro ⟨stored, storedFound, number, active⟩
          by_cases same : other = ref
          · exact inactive (own storedFound same ▸ active)
          · have before : client.session? other = some stored :=
              (session?_modify_of_ne same).symm.trans storedFound
            exact same (apart before (number.trans gone))
      · next different =>
          rw [sound.routed]
          constructor
          · rintro ⟨stored, storedFound, rfl, active⟩
            refine ⟨stored, kept storedFound ?_, rfl, active⟩
            rintro rfl
            cases found.symm.trans storedFound
            exact different rfl
          · rintro ⟨stored, storedFound, number, active⟩
            by_cases same : other = ref
            · exact absurd (own storedFound same ▸ active) inactive
            · exact ⟨stored, (session?_modify_of_ne same).symm.trans storedFound, number, active⟩
    · intro transaction request present
      obtain ⟨present, foreign⟩ := drops.pending.mp present
      obtain ⟨stored, storedFound, number, active⟩ := sound.owned present
      refine ⟨sound.kept present, stored, kept storedFound ?_, number, active⟩
      intro same
      cases found.symm.trans (same ▸ storedFound)
      exact foreign number.symm
    · intro alarm other set task
      obtain ⟨stored, storedFound, keepAlive⟩ := sound.ringing (drops.alarms.mp set).1 task
      refine ⟨stored, kept storedFound ?_, keepAlive⟩
      rintro rfl
      cases found.symm.trans storedFound
      rw [none] at keepAlive
      cases keepAlive
    · intro other stored handle storedFound keepAlive
      by_cases same : other = ref
      · rw [own storedFound same, still] at keepAlive
        cases keepAlive
      · obtain ⟨issued, named⟩ := sound.named
          ((session?_modify_of_ne same).symm.trans storedFound) keepAlive
        exact ⟨Nat.lt_of_lt_of_le issued drops.nextHandle,
          fun alarm set => named alarm (drops.alarms.mp set).1⟩
  length := List.length_modify ..
  settings := rfl
  drawn := List.suffix_refl _
  others := session?_modify_of_ne
  sent _ := congrArg (fun transport : Transport => transport.attempts.filter _)
    (Courier.transport_cancelSession session.number)
  keeps := by
    intro transaction kind owner keeps stays
    have cancelled := (Affects.cancel sound found).keeps keeps stays
    exact cancelled

/-! ## Events -/

/-- Telling an event ties a session to nothing. -/
theorem Gentle.tell (sound : client.Sound) (ref : SessionRef) (event : SessionEvent) :
    Gentle ref client (client.tell ref event) := by
  refine Gentle.modify sound fun session _ =>
    ⟨⟨rfl, rfl, fun coherent => ?_, .inl⟩, rfl, rfl, .rfl⟩
  exact ⟨coherent.setup, coherent.release, coherent.keepAlive, coherent.released⟩

theorem session?_tell {session : Session} {event : SessionEvent}
    (found : client.session? ref = some session) :
    (client.tell ref event).session? ref = some (session.tell event) :=
  session?_modify_self found

/-- A call of the conditional-access component ties a session to nothing. -/
theorem Gentle.callCa (sound : client.Sound) (ref : SessionRef) (call : CaCall) :
    Gentle ref client (client.callCa call).2 :=
  .aside { sound with } rfl rfl (List.suffix_refl _) rfl rfl

theorem stopCa_eq (ref : SessionRef) (session : Session) (client : Client) :
    client.stopCa ref session =
      if session.caActive then
        match client.ca.fault client.caCalls (.stop session.id) with
        | none => (client.callCa (.stop session.id)).2
        | some detail =>
            (client.callCa (.stop session.id)).2.tell ref (.caFailed (.notEnded detail))
      else client := by
  simp only [stopCa, callCa]
  split
  · cases client.ca.fault client.caCalls (.stop session.id) <;> rfl
  · rfl

theorem Gentle.stopCa (sound : client.Sound) (ref : SessionRef) (session : Session) :
    Gentle ref client (client.stopCa ref session) := by
  have called := Gentle.callCa sound ref (.stop session.id)
  rw [stopCa_eq]
  split
  · split
    · exact called
    · next detail _ =>
        exact called.trans (Gentle.tell called.sound ref (.caFailed (.notEnded detail)))
  · exact .refl sound ref

/-- Stopping conditional access is at most told to the session. -/
theorem session?_stopCa {stored : Session} (session : Session)
    (found : client.session? ref = some stored) :
    ∃ events, (client.stopCa ref session).session? ref = some { stored with events } := by
  rw [stopCa_eq]
  split
  · split
    · exact ⟨stored.events, found⟩
    · exact ⟨_, session?_modify_self found⟩
  · exact ⟨stored.events, found⟩

/-! ## The end of a session -/

theorem disarmKeepAlive_of_none {session : Session} (found : client.session? ref = some session)
    (none : session.keepAlive = none) : client.disarmKeepAlive ref = client := by
  simp only [disarmKeepAlive]
  simp only [found, Option.bind_some, none]

/-- Taking a keep-alive alarm back and closing the session may change places. -/
theorem disarmKeepAlive_modify_closed :
    (client.modify ref closed).disarmKeepAlive ref =
      (client.disarmKeepAlive ref).modify ref closed := by
  simp only [disarmKeepAlive]
  rw [session?_modify, if_pos rfl]
  cases client.session? ref with
  | none => rfl
  | some session =>
      simp only [Option.map_some, Option.bind_some, closed]
      cases session.keepAlive with
      | none => rfl
      | some alarm =>
          simp only [modify, List.modify_modify_eq]
          rfl

theorem coherent_closed (session : Session) :
    (closed { session with keepAlive := none }).Coherent where
  setup := iff_of_false nofun nofun
  release := iff_of_false nofun nofun
  keepAlive some := by cases some
  released _ := ⟨rfl, rfl, rfl⟩

theorem slot_closed (session : Session) (kind : SignalKind) :
    (closed session).slot kind = none := by
  simp only [Session.slot]
  split <;> rfl

/-- A session that is finished lets go of all it holds, and is told so. -/
theorem Affects.finish (sound : client.Sound) (ref : SessionRef) (reason : ReasonCode)
    (byServer : Bool) :
    Affects ref (fun _ owner => owner = ref) client (client.finish ref reason byServer) := by
  simp only [Client.finish]
  split
  · exact (Affects.refl sound ref).mono fun _ _ never => never.elim
  · next session found =>
      have disarmed := Gentle.disarm sound ref
      have present := session?_disarmKeepAlive found
      have gone := Affects.letGo disarmed.sound closed present rfl
        ⟨rfl, rfl, fun _ => coherent_closed session,
          fun slot => nomatch (slot_closed _ _).symm.trans slot⟩
        rfl (fun active => active.2 rfl)
      rw [disarmKeepAlive_modify_closed]
      have stopped := Gentle.stopCa gone.sound ref session
      have told := stopped.trans (Gentle.tell stopped.sound ref (.released reason byServer))
      apply ((disarmed.toAffects.trans gone).trans told.toAffects).mono
      rintro _ _ ((never | own) | never)
      · exact never.elim
      · exact own
      · exact never.elim

theorem routes_disarmKeepAlive : (client.disarmKeepAlive ref).routes = client.routes := by
  simp only [disarmKeepAlive]
  split <;> rfl

theorem pending_disarmKeepAlive :
    (client.disarmKeepAlive ref).courier.pending = client.courier.pending := by
  simp only [disarmKeepAlive]
  split <;> rfl

theorem transport_disarmKeepAlive :
    (client.disarmKeepAlive ref).courier.transport = client.courier.transport := by
  simp only [disarmKeepAlive]
  split <;> rfl

theorem drawn_disarmKeepAlive : (client.disarmKeepAlive ref).drawn = client.drawn := by
  simp only [disarmKeepAlive]
  split <;> rfl

theorem drawn_stopCa {session : Session} : (client.stopCa ref session).drawn = client.drawn := by
  rw [stopCa_eq]
  split
  · split <;> rfl
  · rfl

theorem routes_stopCa {session : Session} :
    (client.stopCa ref session).routes = client.routes := by
  rw [stopCa_eq]
  split
  · split <;> rfl
  · rfl

theorem courier_stopCa {session : Session} :
    (client.stopCa ref session).courier = client.courier := by
  rw [stopCa_eq]
  split
  · split <;> rfl
  · rfl

/-- A session that is finished is taken off the routes. -/
theorem routes_finish {session : Session} {reason : ReasonCode} {byServer : Bool}
    (found : client.session? ref = some session) :
    (client.finish ref reason byServer).routes = client.routes.unregister session.number := by
  simp only [finish]
  simp only [found, disarmKeepAlive_modify_closed]
  change (stopCa ref session _).routes = _
  rw [routes_stopCa]
  change (client.disarmKeepAlive ref).routes.unregister session.number = _
  rw [routes_disarmKeepAlive]

/-- The requests of a session that is finished are forgotten. -/
theorem pending_finish {session : Session} {reason : ReasonCode} {byServer : Bool}
    (found : client.session? ref = some session) :
    (client.finish ref reason byServer).courier.pending =
      client.courier.pending.filter fun entry => entry.2.session != session.number := by
  simp only [finish]
  simp only [found, disarmKeepAlive_modify_closed]
  change (stopCa ref session _).courier.pending = _
  rw [courier_stopCa]
  change ((client.disarmKeepAlive ref).courier.cancelSession session.number).2.pending = _
  rw [Courier.pending_cancelSession, pending_disarmKeepAlive]

theorem drawn_finish {reason : ReasonCode} {byServer : Bool} :
    (client.finish ref reason byServer).drawn = client.drawn := by
  simp only [finish, disarmKeepAlive_modify_closed]
  split
  · rfl
  · change (stopCa ref _ _).drawn = _
    rw [drawn_stopCa]
    exact drawn_disarmKeepAlive

/-- Nothing is sent when a session is finished. -/
theorem transport_finish {session : Session} {reason : ReasonCode} {byServer : Bool}
    (found : client.session? ref = some session) :
    (client.finish ref reason byServer).courier.transport = client.courier.transport := by
  simp only [finish]
  simp only [found, disarmKeepAlive_modify_closed]
  change (stopCa ref session _).courier.transport = _
  rw [courier_stopCa]
  change ((client.disarmKeepAlive ref).courier.cancelSession session.number).2.transport = _
  rw [Courier.transport_cancelSession, transport_disarmKeepAlive]

/-- A session that is finished is released, and its owner still holds it if it did. -/
theorem session?_finish {session : Session} (found : client.session? ref = some session)
    (reason : ReasonCode) (byServer : Bool) :
    ∃ events, (client.finish ref reason byServer).session? ref =
      some { closed { session with keepAlive := none } with events } := by
  simp only [finish]
  simp only [found, disarmKeepAlive_modify_closed]
  have gone : ((client.disarmKeepAlive ref).letGo ref closed session.number).session? ref =
      some (closed { session with keepAlive := none }) :=
    session?_modify_self (session?_disarmKeepAlive found)
  obtain ⟨events, stopped⟩ := session?_stopCa session gone
  refine ⟨events ++ [.released reason byServer], ?_⟩
  exact session?_tell stopped

/-- A session that is finished awaits nothing. -/
theorem slot_finish {after : Session} {reason : ReasonCode} {byServer : Bool}
    (found : (client.finish ref reason byServer).session? ref = some after)
    (kind : SignalKind) : after.slot kind = none := by
  cases present : client.session? ref with
  | none =>
      simp only [finish] at found
      rw [present] at found
      cases present.symm.trans found
  | some session =>
      obtain ⟨events, finished⟩ := session?_finish present reason byServer
      cases finished.symm.trans found
      exact slot_closed { session with keepAlive := none } kind

theorem awaitsLess_finish (reason : ReasonCode) (byServer : Bool) :
    AwaitsLess ref client (client.finish ref reason byServer) := by
  intro after found
  have closed := slot_finish found
  cases present : client.session? ref with
  | none =>
      simp only [finish] at found
      rw [present] at found
      cases present.symm.trans found
  | some session =>
      obtain ⟨events, finished⟩ := session?_finish present reason byServer
      cases finished.symm.trans found
      refine ⟨session, rfl, rfl, rfl, fun kind transaction slot => ?_⟩
      cases (closed kind).symm.trans slot

end Client

end OnDemand
