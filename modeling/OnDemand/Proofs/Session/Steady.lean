import OnDemand.Proofs.Session.Deeds

/-!
# Clients stay steady

Each deed leaves a steady client steady.  Time that passes ends with no alarm left to ring: each
alarm that rings lowers the weight of what is still to ring, for a request by a retry, for a
keep-alive by an interval, and requests of a session that ends only make it lighter.
-/

namespace OnDemand

namespace Client

variable {client middle next : Client} {ref other : SessionRef}
  {session stored before after : Session} {cause : Option ClientAction}

/-! ## What every deed leaves in order -/

theorem Deed.tends (deed : Deed cause client next) : ∃ gone beat sent,
    client.courier.Tends gone beat sent next.courier := by
  cases deed with
  | maintains maintains => exact ⟨_, _, _, maintains.serves⟩
  | nudges _ _ _ _ tends => exact ⟨_, _, _, tends⟩
  | quiets _ quiets => exact ⟨_, _, _, quiets.tends⟩
  | ends _ ends => exact ⟨_, _, _, ends.tends⟩
  | grants _ _ _ _ grants =>
      obtain ⟨_, _, _, tends⟩ := grants.beats
      exact ⟨_, _, _, tends⟩
  | beats _ beats =>
      obtain ⟨_, _, _, tends⟩ := beats.beats
      exact ⟨_, _, _, tends⟩

theorem Deed.settings (deed : Deed cause client next) : next.settings = client.settings := by
  cases deed with
  | maintains maintains => exact maintains.settings
  | nudges _ settings => exact settings
  | quiets _ quiets => exact quiets.settings
  | ends _ ends => exact ends.settings
  | grants _ _ _ _ grants => exact grants.settings
  | beats _ beats => exact beats.settings

/-- The keep-alive of one session changes, in the agenda and in the session. -/
theorem Paced.retune {beat : Option (Alarm Reminder)} {sent : List SendAttempt}
    (paced : client.Paced) (regular : client.courier.Regular)
    (settings : next.settings = client.settings)
    (others : ∀ {other}, other ≠ ref → next.session? other = client.session? other)
    (found : client.session? ref = some before) (afterFound : next.session? ref = some after)
    (tends : client.courier.Tends before.keepAlive beat sent next.courier)
    (keepAlive : after.keepAlive = beat.map Alarm.handle)
    (own : ∀ alarm, beat = some alarm → alarm.task = .keepAlive ref)
    (kept : after.keepAlive.isSome ↔
      client.settings.keepAliveInterval ≠ 0 ∧ after.isSustained = true) : next.Paced where
  ringing {alarm other} waits task := by
    rcases (tends.alarms task).mp waits with set | ⟨waits, stays⟩
    · cases task.symm.trans (own alarm set)
      exact ⟨after, afterFound, by rw [keepAlive, set]; rfl⟩
    · obtain ⟨session, sessionFound, known⟩ := paced.ringing waits task
      by_cases same : other = ref
      · subst same
        cases found.symm.trans sessionFound
        exact absurd known stays
      · exact ⟨session, (others same).trans sessionFound, known⟩
  waits {other session handle} sessionFound known := by
    by_cases same : other = ref
    · subst same
      cases afterFound.symm.trans sessionFound
      obtain ⟨alarm, set, named⟩ := Option.map_eq_some_iff.mp (keepAlive.symm.trans known)
      exact ⟨alarm, (tends.alarms (own alarm set)).mpr (.inl set), named, own alarm set⟩
    · rw [others same] at sessionFound
      obtain ⟨alarm, waits, named, task⟩ := paced.waits sessionFound known
      refine ⟨alarm, (tends.alarms task).mpr (.inr ⟨waits, fun taken => same ?_⟩), named, task⟩
      obtain ⟨first, firstWaits, firstNamed, firstTask⟩ := paced.waits found taken
      rw [regular.agenda.eq_of_handle_eq waits firstWaits firstNamed.symm, firstTask] at task
      exact (Reminder.keepAlive.inj task).symm
  kept {other session} sessionFound := by
    rw [settings]
    by_cases same : other = ref
    · subst same
      cases afterFound.symm.trans sessionFound
      exact kept
    · rw [others same] at sessionFound
      exact paced.kept sessionFound

/-- A session that is not established has no keep-alive alarm. -/
theorem Paced.keepAlive_eq_none (paced : client.Paced) (found : client.session? ref = some session)
    (unsustained : session.isSustained = false) : session.keepAlive = none := by
  apply Option.not_isSome_iff_eq_none.mp
  intro some
  cases unsustained.symm.trans ((paced.kept found).mp some).2

theorem NextBeat.task {beat : Option (Alarm Reminder)} (next : NextBeat ref beat client)
    (alarm : Alarm Reminder) (set : beat = some alarm) : alarm.task = .keepAlive ref := by
  obtain ⟨handle, next⟩ := next
  rw [next] at set
  split at set
  · cases set
  · cases set
    rfl

theorem NextBeat.isSome {beat : Option (Alarm Reminder)} (next : NextBeat ref beat client) :
    (beat.map Alarm.handle).isSome ↔ client.settings.keepAliveInterval ≠ 0 := by
  obtain ⟨handle, rfl⟩ := next
  split
  · next zero => simp [zero]
  · next positive => simp [positive]

theorem Deed.paced (deed : Deed cause client next) (steady : client.Steady) : next.Paced := by
  have paced := steady.paced
  have regular := steady.courier
  cases deed with
  | maintains maintains => exact maintains.paced paced
  | nudges _ settings _ sessions tends =>
      constructor
      case ringing =>
        intro alarm ref waits task
        rw [session?, sessions]
        have before : alarm ∈ client.courier.agenda.alarms := by
          simpa [tends.alarms task] using waits
        exact paced.ringing before task
      case waits =>
        intro ref session handle found known
        rw [session?, sessions] at found
        obtain ⟨alarm, waits, named, task⟩ := paced.waits found known
        exact ⟨alarm, by simpa [tends.alarms task] using waits, named, task⟩
      case kept =>
        intro ref session found
        rw [session?, sessions] at found
        rw [settings]
        exact paced.kept found
  | quiets others quiets =>
      refine paced.retune regular quiets.settings others quiets.found quiets.afterFound quiets.tends
        quiets.keepAlive (by rintro _ ⟨⟩) ?_
      rw [quiets.keepAlive, quiets.unsustained]
      simp
  | ends others ends =>
      refine paced.retune regular ends.settings others ends.found ends.afterFound ends.tends
        ends.keepAlive (by rintro _ ⟨⟩) ?_
      rw [ends.keepAlive, Session.isSustained_eq_false (by rw [ends.released]; rfl)]
      simp
  | grants dispatched decoded held others grants =>
      obtain ⟨beat, next, keepAlive, tends⟩ := grants.beats
      have unset := paced.keepAlive_eq_none grants.found
        (Session.isSustained_eq_false (by rw [grants.sent]; rfl))
      rw [unset, Option.or_none] at keepAlive
      refine paced.retune regular grants.settings others grants.found grants.afterFound
        (unset ▸ tends) keepAlive next.task ?_
      rw [keepAlive, next.isSome, Session.isSustained, grants.isHeld, held, grants.ready]
      simp [SessionState.isEstablished]
  | beats others beats =>
      obtain ⟨beat, next, keepAlive, tends⟩ := beats.beats
      refine paced.retune regular beats.settings others beats.found beats.afterFound tends keepAlive
        next.task ?_
      rw [keepAlive, next.isSome, beats.afterSustained]
      simp

theorem Deed.steady (deed : Deed cause client next) (steady : client.Steady)
    (orderly : next.Orderly) : next.Steady where
  orderly := orderly
  courier := by
    obtain ⟨_, _, _, tends⟩ := deed.tends
    exact tends.regular
  paced := deed.paced steady
  ungranted {ref session} found ungranted := by
    have split : ∀ {changed : SessionRef} {after : Session},
        (∀ {other}, other ≠ changed → next.session? other = client.session? other) →
        next.session? changed = some after →
        (after.state.isUngranted = true → after.caInfo = none ∧ after.caActive = false) →
        session.caInfo = none ∧ session.caActive = false := by
      intro changed after others afterFound own
      by_cases same : ref = changed
      · subst same
        cases found.symm.trans afterFound
        exact own ungranted
      · rw [others same] at found
        exact steady.ungranted found ungranted
    cases deed with
    | maintains maintains =>
        cases present : client.session? ref with
        | none =>
            have new := maintains.fresh present found
            exact ⟨new.caInfo, new.caActive⟩
        | some before =>
            obtain ⟨after, afterFound, persists⟩ := maintains.persists present
            cases found.symm.trans afterFound
            exact persists.toStays.ungranted_of (steady.ungranted present) ungranted
    | nudges _ _ _ sessions =>
        rw [session?, sessions] at found
        exact steady.ungranted found ungranted
    | quiets others quiets =>
        exact split others quiets.afterFound
          (quiets.stays.ungranted_of (steady.ungranted quiets.found))
    | ends others ends =>
        refine split others ends.afterFound fun impossible => ?_
        rw [ends.released] at impossible
        cases impossible
    | grants _ _ _ others grants =>
        refine split others grants.afterFound fun impossible => ?_
        rw [grants.ready] at impossible
        cases impossible
    | beats others beats =>
        exact split others beats.afterFound
          (beats.stays.ungranted_of (steady.ungranted beats.found))

theorem Steady.start (settings : ClientSettings) : (Client.start settings).Steady where
  orderly := .start settings
  courier := ⟨.start settings.messageTimer, nofun⟩
  paced :=
    { ringing := nofun
      waits := fun found => nomatch (session?_start settings _).symm.trans found
      kept := fun found => nomatch (session?_start settings _).symm.trans found }
  ungranted found := nomatch (session?_start settings _).symm.trans found

theorem Steady.step (steady : client.Steady) {limit : Time}
    (stepped : client.step limit = some next) : next.Steady := by
  obtain ⟨alarm, agenda, _, ringing⟩ := Ringing.step steady stepped
  exact (ringing.deed none).steady (steady.wait alarm.deadline)
    (Follows.step steady.orderly stepped).orderly

end Client

/-! ## Weights -/

namespace Courier

variable {courier middle next : Courier}

/-- Some alarms are gone, and some requests. -/
structure Dwindles (courier next : Courier) : Prop where
  alarms : next.agenda.alarms.Sublist courier.agenda.alarms
  pending : ∀ {transaction request}, next.pending.get? transaction = some request →
    courier.pending.get? transaction = some request

theorem Dwindles.refl (courier : Courier) : courier.Dwindles courier := ⟨.refl _, id⟩

theorem Dwindles.trans (first : courier.Dwindles middle) (second : middle.Dwindles next) :
    courier.Dwindles next :=
  ⟨second.alarms.trans first.alarms, fun found => first.pending (second.pending found)⟩

theorem Dwindles.weight_le (dwindles : courier.Dwindles next) : next.weight ≤ courier.weight := by
  refine Nat.le_trans ?_ (Agenda.totalLoad_le_of_sublist courier.load dwindles.alarms)
  refine Agenda.totalLoad_le_totalLoad fun alarm _ => load_le_load fun {_ request} found => ?_
  exact ⟨request, dwindles.pending found, Nat.le_refl _⟩

theorem Dwindles.disarm (courier : Courier) (handle : AlarmHandle) :
    courier.Dwindles (courier.disarm handle) :=
  ⟨List.filter_sublist, id⟩

theorem alarms_foldl_disarm (requests : List (UInt32 × PendingRequest)) (courier : Courier) :
    (requests.foldl (fun courier entry => courier.disarm entry.2.alarm)
      courier).agenda.alarms.Sublist courier.agenda.alarms := by
  induction requests generalizing courier with
  | nil => exact .refl _
  | cons entry rest ih => exact (ih (courier.disarm entry.2.alarm)).trans List.filter_sublist

theorem Dwindles.cancelSession (keys : courier.pending.DistinctKeys) (session : UInt32) :
    courier.Dwindles (courier.cancelSession session).2 where
  alarms := alarms_foldl_disarm _ courier
  pending found := by
    rw [pending_cancelSession, keys.get?_filter] at found
    exact found.1

end Courier

namespace Client

variable {client next : Client} {ref : SessionRef} {limit : Time} {alarm : Alarm Reminder}

/-- How often a keep-alive alarm and those that follow it can ring until a time, besides once. -/
def beatsLeft (limit : Time) (interval : Time) (alarm : Alarm Reminder) : Nat :=
  match alarm.task with
  | .unanswered _ => 0
  | .keepAlive _ => (limit + interval - alarm.deadline) / interval

theorem load_eq (limit : Time) (client : Client) (alarm : Alarm Reminder) :
    client.load limit alarm =
      client.courier.load alarm + beatsLeft limit client.settings.keepAliveInterval alarm := by
  simp only [load, Courier.load, beatsLeft]
  cases alarm.task with
  | unanswered transaction => exact (Nat.add_zero _).symm
  | keepAlive ref => exact Nat.add_comm _ _

theorem weight_eq (limit : Time) (client : Client) :
    client.weight limit = client.courier.weight +
      Agenda.totalLoad (beatsLeft limit client.settings.keepAliveInterval)
        client.courier.agenda.alarms := by
  rw [weight, Courier.weight, ← Agenda.totalLoad_add]
  exact congrArg (Agenda.totalLoad · _) (funext (load_eq limit client))

theorem Dwindles.weight_le (settings : next.settings = client.settings)
    (dwindles : client.courier.Dwindles next.courier) :
    next.weight limit ≤ client.weight limit := by
  rw [weight_eq, weight_eq, settings]
  exact Nat.add_le_add dwindles.weight_le (Agenda.totalLoad_le_of_sublist _ dwindles.alarms)

theorem dwindles_finish (keys : client.courier.pending.DistinctKeys) (ref : SessionRef)
    (reason : ReasonCode) (byServer : Bool) :
    client.courier.Dwindles (client.finish ref reason byServer).courier := by
  cases found : client.session? ref with
  | none => simp only [finish, found, Courier.Dwindles.refl]
  | some session =>
      have disarmed : client.courier.Dwindles (client.disarmKeepAlive ref).courier := by
        simp only [disarmKeepAlive]
        split
        · exact .refl _
        · exact .disarm _ _
      rw [courier_finish found]
      refine disarmed.trans (.cancelSession ?_ session.number)
      rw [pending_disarmKeepAlive]
      exact keys

theorem dwindles_deliveryFailed (keys : client.courier.pending.DistinctKeys)
    (notice : FailureNotice) :
    client.courier.Dwindles (client.deliveryFailed notice).courier := by
  simp only [deliveryFailed]
  split
  · exact .refl _
  · split
    · split <;> exact .refl _
    · split
      · have told (event : SessionEvent) :
            (client.tell notice.owner event).courier.pending.DistinctKeys := keys
        exact dwindles_finish (told _) _ _ _
      · exact .refl _
    · split <;> exact .refl _
    · split <;> exact .refl _
    · exact .refl _

theorem settings_deliveryFailed (notice : FailureNotice) :
    (client.deliveryFailed notice).settings = client.settings := by
  simp only [deliveryFailed]
  split
  · rfl
  · split
    · split <;> rfl
    · split
      · exact settings_finish
      · rfl
    · split <;> rfl
    · split <;> rfl
    · rfl

/-- With a keep-alive alarm that is set anew, one interval fewer is left. -/
theorem beatsLeft_lt {interval now : Time} {handle again : AlarmHandle}
    {deadline : Time} (positive : interval ≠ 0) (due : deadline ≤ limit) (late : deadline ≤ now) :
    beatsLeft limit interval ⟨now + interval, again, .keepAlive ref⟩ <
      beatsLeft limit interval ⟨deadline, handle, .keepAlive ref⟩ := by
  simp only [beatsLeft]
  rw [Nat.add_sub_add_right, Nat.sub_add_comm due,
    Nat.add_div_right _ (Nat.pos_of_ne_zero positive)]
  exact Nat.lt_succ_of_le (Nat.div_le_div_right (Nat.sub_le_sub_left late limit))

theorem weight_congr (alarms : next.courier.agenda.alarms = client.courier.agenda.alarms)
    (pending : next.courier.pending = client.courier.pending)
    (settings : next.settings = client.settings) : next.weight limit = client.weight limit := by
  have same : next.courier.load = client.courier.load := by
    funext alarm
    simp only [Courier.load, pending]
  rw [weight_eq, weight_eq, Courier.weight, Courier.weight, alarms, settings, same]

theorem weight_armKeepAlive (ref : SessionRef) (client : Client) :
    (client.armKeepAlive ref).weight limit =
      client.weight limit +
        if client.settings.keepAliveInterval = 0 then 0
        else 1 + beatsLeft limit client.settings.keepAliveInterval
          ⟨client.courier.agenda.now + client.settings.keepAliveInterval,
            client.courier.agenda.nextHandle, .keepAlive ref⟩ := by
  simp only [armKeepAlive]
  split
  · rfl
  · rw [Nat.add_comm]
    exact (Agenda.totalLoad_insert ..).trans (congrArg (· + _) (load_eq ..))

/-- A keep-alive that falls due sets at most one alarm. -/
theorem weight_keepAliveDue_le (ref : SessionRef) (client : Client) :
    (client.keepAliveDue ref).weight limit ≤ client.weight limit +
      if client.settings.keepAliveInterval = 0 then 0
      else 1 + beatsLeft limit client.settings.keepAliveInterval
        ⟨client.courier.agenda.now + client.settings.keepAliveInterval,
          client.courier.agenda.nextHandle, .keepAlive ref⟩ := by
  simp only [keepAliveDue]
  split
  · exact Nat.le_add_right _ _
  · next session _ =>
      split
      · have agenda : (client.sendInProgress ref session).2.courier.agenda =
            client.courier.agenda := agenda_sendInProgress
        have sent : (client.sendInProgress ref session).2.weight limit = client.weight limit :=
          weight_congr (congrArg Agenda.alarms agenda) Courier.pending_submit_zero rfl
        rw [weight_armKeepAlive, sent, agenda]
        exact Nat.le_refl _
      · exact Nat.le_add_right _ _

/-- A message timer that runs out sets no keep-alive alarm. -/
theorem beatsLeft_expire (courier : Courier) (transaction : UInt32) (interval : Time) :
    Agenda.totalLoad (beatsLeft limit interval) (courier.expire transaction).1.agenda.alarms =
      Agenda.totalLoad (beatsLeft limit interval) courier.agenda.alarms := by
  simp only [Courier.expire]
  split
  · rfl
  · split
    · rfl
    · exact (Agenda.totalLoad_insert ..).trans (Nat.zero_add _)

theorem weight_ring_keepAlive (due : alarm.deadline ≤ limit)
    (late : alarm.deadline ≤ client.courier.agenda.now) (task : alarm.task = .keepAlive ref) :
    (client.ring (.keepAlive ref)).weight limit ≤
      client.weight limit + beatsLeft limit client.settings.keepAliveInterval alarm := by
  obtain ⟨deadline, handle, _⟩ := alarm
  cases task
  simp only [ring]
  split
  · refine Nat.le_trans (weight_keepAliveDue_le ref client) (Nat.add_le_add_left ?_ _)
    split
    · exact Nat.zero_le _
    · next positive =>
        rw [Nat.add_comm]
        exact beatsLeft_lt positive due late
  · exact Nat.le_add_right _ _

theorem weight_ring_unanswered {transaction : UInt32}
    (keys : (client.courier.expire transaction).1.pending.DistinctKeys)
    (task : alarm.task = .unanswered transaction) :
    (client.ring (.unanswered transaction)).weight limit <
      client.courier.load alarm + client.weight limit := by
  have lighter := client.courier.weight_expire_lt task
  have expired : weight limit { client with courier := (client.courier.expire transaction).1 } <
      client.courier.load alarm + client.weight limit := by
    rw [weight_eq, weight_eq, ← Nat.add_assoc]
    exact Nat.add_lt_add_of_lt_of_le lighter (Nat.le_of_eq (beatsLeft_expire ..))
  simp only [ring]
  split
  · next courier outcome =>
      rw [outcome] at expired
      exact expired
  · next courier notice outcome =>
      rw [outcome] at expired keys
      have left : ({ client with courier } : Client).courier.pending.DistinctKeys := keys
      split
      · exact Nat.lt_of_le_of_lt
          (Dwindles.weight_le (settings_deliveryFailed notice)
            (dwindles_deliveryFailed left notice)) expired
      · exact expired

/-- With each alarm that rings, less is left to ring. -/
theorem weight_lt_of_step (regular : client.courier.Regular)
    (stepped : client.step limit = some next) : next.weight limit < client.weight limit := by
  simp only [step] at stepped
  split at stepped
  · cases stepped
  · next alarm agenda popped =>
      cases stepped
      obtain ⟨alarms, split, due, _⟩ := Agenda.popDue?_eq_some_iff.mp popped
      have rest : agenda.alarms = alarms := by rw [‹agenda = _›]
      have own : client.weight limit = client.load limit alarm +
          weight limit { client with courier := { client.courier with agenda } } := by
        rw [weight, split, Agenda.totalLoad, ← rest]
        rfl
      rw [own, load_eq]
      cases task : alarm.task with
      | unanswered transaction =>
          have keys := (Courier.Serves.expire regular popped task).regular.keys
          refine Nat.lt_of_lt_of_le (weight_ring_unanswered keys task) ?_
          exact Nat.add_le_add_right (Nat.le_add_right _ _) _
      | keepAlive ref =>
          have late : alarm.deadline ≤ agenda.now := by
            rw [‹agenda = _›]
            exact Nat.le_max_right _ _
          have once : client.courier.load alarm = 1 := by simp only [Courier.load, task]
          rw [once, Nat.add_assoc, Nat.one_add]
          refine Nat.lt_succ_of_le (Nat.le_trans (weight_ring_keepAlive due late task) ?_)
          exact Nat.le_of_eq (Nat.add_comm ..)

/-- When time has passed, no alarm is left to ring. -/
theorem Steady.step_exhaust (steady : client.Steady) (limit : Time) :
    (exhaust (Client.step limit) (client.weight limit) client).step limit = none :=
  step_exhaust_eq_none_of_keeps (weight limit)
    (fun _ _ stepped (steady : Steady _) => steady.step stepped)
    (fun _ _ stepped (steady : Steady _) => weight_lt_of_step steady.courier stepped)
    steady (Nat.le_refl (client.weight limit))

/-- When no alarm is left to ring, none is due. -/
theorem Steady.lt_deadline (steady : client.Steady) (ended : client.step limit = none) :
    ∀ alarm ∈ client.courier.agenda.alarms, limit < alarm.deadline := by
  apply steady.courier.agenda.lt_deadline_of_popDue?_eq_none
  simp only [Client.step] at ended
  split at ended
  · assumption
  · cases ended

end Client

end OnDemand
