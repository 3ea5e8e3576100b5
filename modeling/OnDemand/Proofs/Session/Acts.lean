import OnDemand.Proofs.Session.Holdings

/-!
# Sessions whose requests are tended

A session is tended when for all that it awaits a request is kept, so that a further
copy or a notice of failure is still to come.  What a session does keeps itself and all
other sessions tended, as long as no transaction is drawn twice.
-/

namespace OnDemand

/-- How often a session repeats a request of some kind. -/
def Session.retries (settings : ClientSettings) (kind : SignalKind) (session : Session) : Nat :=
  match kind with
  | .setupRequest => session.profile.setupRetries settings.retryCount
  | _ => settings.retryCount.toNat

theorem Session.retries_congr {settings : ClientSettings} {kind : SignalKind}
    {session other : Session} (profile : session.profile = other.profile) :
    session.retries settings kind = other.retries settings kind := by
  simp only [retries]
  split
  · rw [profile]
  · rfl

namespace Client

/-- For all that a session awaits, with some exceptions, a request is kept. -/
def Tended (excused : UInt32 → Prop) (ref : SessionRef) (client : Client) : Prop :=
  ∀ ⦃session kind transaction⦄, client.session? ref = some session → session.isHeld = true →
    session.slot kind = some transaction → session.retries client.settings kind ≠ 0 →
    ¬ excused transaction → client.Keeps transaction kind ref

/-- What a session does by itself. -/
structure Acts (ref : SessionRef) (client next : Client) : Prop
    extends Affects ref
      (fun transaction owner => owner = ref ∨ (next.drawn.Nodup → transaction ∉ client.drawn))
      client next where
  tended : ∀ {excused}, next.drawn.Nodup → client.Tended excused ref → next.Tended excused ref

variable {client next : Client} {ref other : SessionRef} {excused : UInt32 → Prop}

/-- As long as no transaction is drawn twice, one session acting leaves all tended. -/
theorem Acts.tended_all (acts : Acts ref client next) (sound : client.Sound)
    (nodup : next.drawn.Nodup) (tended : ∀ owner, client.Tended excused owner) :
    ∀ owner, next.Tended excused owner := by
  intro owner
  by_cases own : owner = ref
  · exact own ▸ acts.tended nodup (tended ref)
  · intro session kind transaction found held slot repeated awaited
    rw [acts.others own] at found
    rw [acts.settings] at repeated
    apply acts.keeps (tended owner found held slot repeated awaited)
    rintro (same | fresh)
    · exact own same
    · exact fresh nodup (sound.awaited found slot)

theorem Affects.acts {lost : UInt32 → SessionRef → Prop} (affects : Affects ref lost client next)
    (few : next.drawn.Nodup → ∀ transaction owner, lost transaction owner →
      owner = ref ∨ transaction ∉ client.drawn)
    (tended : ∀ {excused}, next.drawn.Nodup → client.Tended excused ref →
      next.Tended excused ref) : Acts ref client next where
  toAffects := affects.mono fun transaction owner gone => by
    by_cases own : owner = ref
    · exact .inl own
    · exact .inr fun nodup => (few nodup transaction owner gone).resolve_left own
  tended := tended

theorem Gentle.acts (gentle : Gentle ref client next) : Acts ref client next := by
  apply gentle.toAffects.acts (fun _ _ _ never => never.elim)
  intro excused _ tended session kind transaction found held slot repeated awaited
  obtain ⟨before, beforeFound, profile, isHeld, slots⟩ := gentle.slots found
  rw [gentle.settings, Session.retries_congr profile] at repeated
  exact gentle.keeps (tended beforeFound (isHeld ▸ held) (slots slot) repeated awaited) id

theorem Acts.refl (sound : client.Sound) (ref : SessionRef) : Acts ref client client :=
  (Gentle.refl sound ref).acts

theorem Acts.trans {last : Client} (first : Acts ref client next) (second : Acts ref next last) :
    Acts ref client last := by
  have before : last.drawn.Nodup → next.drawn.Nodup :=
    fun nodup => nodup.sublist second.drawn.sublist
  refine (first.toAffects.trans second.toAffects).acts ?_ ?_
  · rintro nodup transaction owner ((own | fresh) | (own | fresh))
    · exact .inl own
    · exact .inr (fresh (before nodup))
    · exact .inl own
    · exact .inr fun drawn => fresh nodup (first.drawn.subset drawn)
  · exact fun nodup tended => second.tended nodup (first.tended (before nodup) tended)

/-- A session that is released awaits nothing and is tended. -/
theorem Sound.tended_of_released (sound : client.Sound)
    (released : ∀ session, client.session? ref = some session →
      session.isHeld = false ∨ session.state = .released) : client.Tended excused ref := by
  intro session kind transaction found held slot
  rcases released session found with dropped | released
  · rw [dropped] at held
    cases held
  · rw [(sound.coherent found).slot_eq_none released] at slot
    cases slot

/-- A session that is finished is tended, whatever it awaited. -/
theorem tended_finish (sound : client.Sound) (ref : SessionRef) (reason : ReasonCode)
    (byServer : Bool) : (client.finish ref reason byServer).Tended excused ref := by
  refine (Affects.finish sound ref reason byServer).sound.tended_of_released fun after afterFound =>
    .inr ?_
  cases found : client.session? ref with
  | none =>
      simp only [Client.finish] at afterFound
      rw [found] at afterFound
      cases found.symm.trans afterFound
  | some session =>
      obtain ⟨events, finished⟩ := session?_finish found reason byServer
      cases finished.symm.trans afterFound
      rfl

theorem Acts.finish (sound : client.Sound) (ref : SessionRef) (reason : ReasonCode)
    (byServer : Bool) : Acts ref client (client.finish ref reason byServer) :=
  (Affects.finish sound ref reason byServer).acts (fun _ _ _ own => .inl own)
    fun _ _ => tended_finish sound ref reason byServer

/-! ## Requests -/

/-- A session that is active sends a message that is not kept. -/
theorem Gentle.send (sound : client.Sound) {session stored : Session} {message : Signal}
    (found : client.session? ref = some stored) (number : session.number = stored.number)
    (active : stored.IsActive) : Gentle ref client (client.submit ref session message 0).2 := by
  refine .of_sessions (Affects.mono (Affects.submit sound found number active ?_) ?_) rfl
  · exact fun never => absurd rfl never
  · exact fun _ _ never => never.1 rfl

/-- The client after a session was marked with a transaction drawn for it and has submitted
a request in it. -/
def asking (ref : SessionRef) (mark : Session → Session) (session : Session) (message : Signal)
    (retries : Nat) (client : Client) : Except SubmitError Unit × Client :=
  (client.drawTransaction.2.modify ref mark).submit ref session message retries

section Asking

variable {session : Session} {kind : SignalKind} {mark : Session → Session} {message : Signal}
  {retries : Nat}

theorem Affects.asking (sound : client.Sound) (found : client.session? ref = some session)
    (active : session.IsActive)
    (transaction : message.transaction = client.drawTransaction.1)
    (marks : session.RetouchesInside (some (kind, client.drawTransaction.1)) (mark session)) :
    Affects ref (fun transaction _ => transaction = client.drawTransaction.1) client
      (client.asking ref mark session message retries).2 := by
  have marked := Affects.mark sound fun again againFound => by
    cases found.symm.trans againFound
    exact marks
  have submitted : Affects ref _ _ (client.asking ref mark session message retries).2 :=
    Affects.submit marked.sound (session?_modify_self found) marks.number.symm
      (marks.active.mpr active) (fun _ => transaction ▸ List.mem_cons_self)
  apply (marked.trans submitted).mono
  rintro _ _ (never | ⟨_, same⟩)
  · exact never.elim
  · exact same.trans transaction

theorem session?_asking {sender : Session} (found : client.session? ref = some session) :
    (client.asking ref mark sender message retries).2.session? ref = some (mark session) :=
  session?_modify_self found

/-- A transaction that was drawn just now is not an older one. -/
theorem drawTransaction_notMem (nodup : client.drawTransaction.2.drawn.Nodup) :
    client.drawTransaction.1 ∉ client.drawn :=
  (List.nodup_cons.mp nodup).1

/-- A session that has sent its request is tended if it is for all that it awaited before
and still awaits. -/
theorem tended_asking (sound : client.Sound) (found : client.session? ref = some session)
    (active : session.IsActive)
    (transaction : message.transaction = client.drawTransaction.1) (named : message.kind = kind)
    (marks : session.RetouchesInside (some (kind, client.drawTransaction.1)) (mark session))
    (repeats : retries = session.retries client.settings kind)
    (accepted : (client.asking ref mark session message retries).1 = .ok ())
    (nodup : client.drawTransaction.2.drawn.Nodup)
    (older : ∀ {other awaited}, (mark session).slot other = some awaited →
      session.slot other = some awaited → session.retries client.settings other ≠ 0 →
      ¬ excused awaited → client.Keeps awaited other ref) :
    (client.asking ref mark session message retries).2.Tended excused ref := by
  have affects : Affects ref _ _ (client.asking ref mark session message retries).2 :=
    Affects.asking sound found active transaction marks
  intro after other awaited afterFound held slot repeated awaits
  cases (session?_asking found).symm.trans afterFound
  rw [Session.retries_congr marks.profile] at repeated
  rcases marks.slots slot with before | granted
  · apply affects.keeps (older slot before repeated awaits)
    rintro rfl
    exact drawTransaction_notMem nodup (sound.awaited found before)
  · cases granted
    have marked := Affects.mark sound fun again againFound => by
      cases found.symm.trans againFound
      exact marks
    rw [← named, ← transaction]
    exact keeps_submit marked.sound (repeats ▸ repeated) accepted

/-- A session that has sent its request is tended. -/
theorem Acts.asking_ok (sound : client.Sound) (found : client.session? ref = some session)
    (active : session.IsActive)
    (transaction : message.transaction = client.drawTransaction.1) (named : message.kind = kind)
    (marks : session.RetouchesInside (some (kind, client.drawTransaction.1)) (mark session))
    (repeats : retries = session.retries client.settings kind)
    (accepted : (client.asking ref mark session message retries).1 = .ok ()) :
    Acts ref client (client.asking ref mark session message retries).2 := by
  have affects : Affects ref _ _ (client.asking ref mark session message retries).2 :=
    Affects.asking sound found active transaction marks
  refine affects.acts ?_ ?_
  · rintro nodup _ owner rfl
    exact .inr (drawTransaction_notMem nodup)
  · intro excused nodup tended
    exact tended_asking sound found active transaction named marks repeats accepted nodup
      fun _ slot => tended found active.1 slot

/-- A session that could not send its request awaits no answer to it. -/
theorem Acts.asking_error (sound : client.Sound) (found : client.session? ref = some session)
    (active : session.IsActive)
    (transaction : message.transaction = client.drawTransaction.1)
    (marks : session.RetouchesInside (some (kind, client.drawTransaction.1)) (mark session))
    {unmark : Session → Session}
    (unmarks : (mark session).RetouchesInside none (unmark (mark session)))
    (cleared : (unmark (mark session)).slot kind = none) :
    Acts ref client
      ((client.asking ref mark session message retries).2.modify ref unmark) := by
  have asked : Affects ref _ _ (client.asking ref mark session message retries).2 :=
    Affects.asking sound found active transaction marks
  have present : (client.asking ref mark session message retries).2.session? ref =
      some (mark session) := session?_asking found
  have unmarked := Gentle.retouch asked.sound present unmark unmarks
  have affects := asked.trans unmarked.toAffects
  refine affects.acts ?_ ?_
  · rintro nodup _ owner (rfl | never)
    · exact .inr (drawTransaction_notMem nodup)
    · exact never.elim
  · intro excused nodup tended after other awaited afterFound held slot repeated awaits
    cases (session?_modify_self present).symm.trans afterFound
    rw [Session.retries_congr (unmarks.profile.trans marks.profile)] at repeated
    have slotBefore : session.slot other = some awaited := by
      rcases marks.slots ((unmarks.slots slot).resolve_right nofun) with slot | granted
      · exact slot
      · cases granted
        rw [cleared] at slot
        cases slot
    apply affects.keeps (tended found active.1 slotBefore repeated awaits)
    rintro (rfl | never)
    · exact drawTransaction_notMem nodup (sound.awaited found slotBefore)
    · exact never

/-- Asking leaves a session tended, whether the request is sent or not. -/
theorem Acts.ask (sound : client.Sound) (found : client.session? ref = some session)
    (active : session.IsActive) {unmark : Session → Session}
    (transaction : message.transaction = client.drawTransaction.1) (named : message.kind = kind)
    (repeats : retries = session.retries client.settings kind)
    (marks : session.RetouchesInside (some (kind, client.drawTransaction.1)) (mark session))
    (unmarks : (mark session).RetouchesInside none (unmark (mark session)))
    (cleared : (unmark (mark session)).slot kind = none) :
    Acts ref client
      (match client.asking ref mark session message retries with
        | (.ok (), next) => ((.ok (), next) : Except SessionError Unit × Client)
        | (.error cause, next) => (.error (.notSubmitted cause), next.modify ref unmark)).2 := by
  split
  · next next outcome =>
      have asked := Acts.asking_ok sound found active transaction named marks repeats
        (congrArg Prod.fst outcome)
      exact congrArg Prod.snd outcome ▸ asked
  · next cause next outcome =>
      have asked : Acts ref client
          ((client.asking ref mark session message retries).2.modify ref unmark) :=
        Acts.asking_error sound found active transaction marks unmarks cleared
      rw [outcome] at asked
      exact asked

end Asking

end Client

end OnDemand
