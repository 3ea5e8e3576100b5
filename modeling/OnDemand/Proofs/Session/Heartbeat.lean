import OnDemand.Proofs.Session.Timely

/-!
# The heartbeat of a session

While a session stands, its keep-alive is sent again and again, an interval apart, and counted from
when the session became ready.  Seen from one session, each move either leaves its keep-alive alone,
begins it, ends it, or is one beat of it.
-/

namespace OnDemand

namespace Client

/-- Whether a session is established, and held by its owner. -/
def sustains (ref : SessionRef) (client : Client) : Bool :=
  (client.session? ref).any Session.isSustained

/-- The keep-alive alarms of a session. -/
def keepAliveAlarms (ref : SessionRef) (client : Client) : List (Alarm Reminder) :=
  client.courier.agenda.alarms.filter fun alarm => alarm.task = .keepAlive ref

/-- The attempts to send a keep-alive of a session, latest first. -/
def keepAlivesOf (ref : SessionRef) (client : Client) : List SendAttempt :=
  client.courier.keepAlives.filter fun attempt => attempt.sender = some ref

/-- A session is granted under an identifier. -/
def IsGranted (ref : SessionRef) (id : SessionId) (client : Client) : Prop :=
  ∃ session, client.session? ref = some session ∧ session.state.isUngranted = false ∧
    session.id = id

end Client

namespace Move

/-- Whether an owner asked for a keep-alive to be sent at once. -/
def isAsked (move : Move) : Bool :=
  match move.cause with
  | some (.operate .sendKeepAlive _) => true
  | _ => false

end Move

/-- The attempts to send a keep-alive of a session that nobody asked for, earliest first. -/
def beats (ref : SessionRef) (moves : List Move) : List SendAttempt :=
  (moves.filter fun move => !move.isAsked).flatMap fun move => move.news (Client.keepAlivesOf ref)

/-- The first times that follow on a time, an interval apart. -/
def beatTimes (interval since : Time) (count : Nat) : List Time :=
  (List.range count).map fun beat => since + (beat + 1) * interval

theorem beats_append (ref : SessionRef) (moves : List Move) (move : Move) :
    beats ref (moves ++ [move]) =
      beats ref moves ++ if move.isAsked then [] else move.news (Client.keepAlivesOf ref) := by
  rw [beats, List.filter_append, List.flatMap_append, beats]
  cases asked : move.isAsked <;> simp [asked]

theorem beatTimes_succ (interval since : Time) (count : Nat) :
    beatTimes interval since (count + 1) =
      beatTimes interval since count ++ [since + (count + 1) * interval] := by
  rw [beatTimes, List.range_succ, List.map_append, List.map_singleton, beatTimes]

theorem Session.granted_of_isSustained {session : Session}
    (sustained : session.isSustained = true) :
    session.state.isUngranted = false := by
  have established := (Bool.and_eq_true_iff.mp sustained).2
  cases state : session.state <;> rw [state] at established <;> first | rfl | cases established

namespace Client

variable {client next : Client} {ref changed : SessionRef} {session before after : Session}
  {cause : Option ClientAction} {id : SessionId}

theorem sustains_eq (found : client.session? ref = some session) :
    client.sustains ref = session.isSustained := by
  rw [sustains, found, Option.any_some]

theorem exists_of_sustains (sustained : client.sustains ref = true) :
    ∃ session, client.session? ref = some session ∧ session.isSustained = true := by
  cases found : client.session? ref with
  | none =>
      rw [sustains, found] at sustained
      cases sustained
  | some session => exact ⟨session, rfl, (sustains_eq found).symm.trans sustained⟩

/-! ## Alarms -/

/-- The keep-alive alarm of a session that is sustained. -/
theorem Steady.exists_alarm (steady : client.Steady)
    (positive : client.settings.keepAliveInterval ≠ 0) (sustained : client.sustains ref = true) :
    ∃ alarm ∈ client.courier.agenda.alarms, alarm.task = .keepAlive ref ∧
      ∀ other ∈ client.courier.agenda.alarms, other.task = .keepAlive ref → other = alarm := by
  obtain ⟨session, found, sustained⟩ := exists_of_sustains sustained
  obtain ⟨handle, keepAlive⟩ :=
    Option.isSome_iff_exists.mp ((steady.paced.kept found).mpr ⟨positive, sustained⟩)
  obtain ⟨alarm, waits, named, task⟩ := steady.paced.waits found keepAlive
  refine ⟨alarm, waits, task, fun other otherWaits otherTask => ?_⟩
  obtain ⟨again, againFound, known⟩ := steady.paced.ringing otherWaits otherTask
  cases found.symm.trans againFound
  refine steady.courier.agenda.eq_of_handle_eq otherWaits waits ?_
  exact (Option.some.inj (known.symm.trans keepAlive)).trans named.symm

/-- A session whose keep-alive alarm waits is sustained, and the interval is not zero. -/
theorem Steady.sustains_of_alarm (steady : client.Steady) {alarm : Alarm Reminder}
    (waits : alarm ∈ client.courier.agenda.alarms) (task : alarm.task = .keepAlive ref) :
    client.settings.keepAliveInterval ≠ 0 ∧ client.sustains ref = true := by
  obtain ⟨session, found, keepAlive⟩ := steady.paced.ringing waits task
  obtain ⟨positive, sustained⟩ := (steady.paced.kept found).mp (keepAlive ▸ rfl)
  exact ⟨positive, (sustains_eq found).trans sustained⟩

/-- A session has exactly one keep-alive alarm while it is sustained, and none otherwise. -/
theorem Steady.length_keepAliveAlarms (steady : client.Steady) (ref : SessionRef) :
    (client.keepAliveAlarms ref).length =
      if client.settings.keepAliveInterval ≠ 0 ∧ client.sustains ref = true then 1 else 0 := by
  split
  · next holds =>
      obtain ⟨alarm, waits, task, only⟩ := steady.exists_alarm holds.1 holds.2
      have distinct : client.courier.agenda.alarms.Nodup :=
        .of_map _ steady.courier.agenda.distinct
      rw [keepAliveAlarms, ← List.countP_eq_length_filter,
        ← List.count_eq_one_of_mem distinct waits]
      refine List.countP_congr fun other otherWaits => ?_
      rw [decide_eq_true_eq, beq_iff_eq]
      exact ⟨only other otherWaits, fun same => same ▸ task⟩
  · next fails =>
      rw [List.length_eq_zero_iff, List.eq_nil_iff_forall_not_mem]
      intro alarm member
      obtain ⟨waits, task⟩ := List.mem_filter.mp member
      exact fails (steady.sustains_of_alarm waits (decide_eq_true_eq.mp task))

/-! ## A move, as one session sees it -/

/-- What a move does to the keep-alive of one session. -/
inductive Tunes (ref : SessionRef) (move : Move) : Prop where
  | keeps (same : move.after.sustains ref = move.before.sustains ref)
      (alarms : ∀ alarm ∈ move.after.courier.agenda.alarms, alarm.task = .keepAlive ref →
        alarm ∈ move.before.courier.agenda.alarms)
      (clock : move.before.courier.agenda.now ≤ move.after.courier.agenda.now)
      (silent : move.isAsked = false → move.news (keepAlivesOf ref) = [])
  | begins (unset : move.before.sustains ref = false) (set : move.after.sustains ref = true)
      (ungranted : ∀ id, ¬ move.before.IsGranted ref id)
      (alarms : ∀ alarm ∈ move.after.courier.agenda.alarms, alarm.task = .keepAlive ref →
        alarm.deadline =
          move.after.courier.agenda.now + move.before.settings.keepAliveInterval)
      (silent : move.news (keepAlivesOf ref) = [])
  | ends (set : move.before.sustains ref = true) (unset : move.after.sustains ref = false)
      (noneDue : move.before.NoneDue)
      (clock : move.after.courier.agenda.now = move.before.courier.agenda.now)
      (silent : move.news (keepAlivesOf ref) = [])
  | beats {attempt : SendAttempt} (set : move.before.sustains ref = true)
      (still : move.after.sustains ref = true)
      (due : ∃ alarm ∈ move.before.courier.agenda.alarms, alarm.task = .keepAlive ref ∧
        alarm.deadline = move.after.courier.agenda.now)
      (alarms : ∀ alarm ∈ move.after.courier.agenda.alarms, alarm.task = .keepAlive ref →
        alarm.deadline =
          move.after.courier.agenda.now + move.before.settings.keepAliveInterval)
      (unasked : move.isAsked = false)
      (sent : move.news (keepAlivesOf ref) = [attempt])
      (time : attempt.time = move.after.courier.agenda.now)
      (lists : ∃ id transaction, move.after.IsGranted ref id ∧
        (Signal.inProgress transaction id).encode = .ok attempt.bytes)

section Tunes

variable {move : Move} {time : Time} {gone : Option AlarmHandle} {beat : Option (Alarm Reminder)}
  {sent : List SendAttempt}

/-- The keep-alives of a session that a move sends are those that are sent for it. -/
theorem news_of_tends
    (tends : (move.before.wait time).courier.Tends gone beat sent move.after.courier) :
    move.news (keepAlivesOf ref) =
      (sent.filter fun attempt => attempt.sender = some ref).reverse := by
  refine Move.news_eq ?_
  rw [keepAlivesOf, tends.keepAlives, List.filter_append]
  rfl

/-- The clock does not go back. -/
theorem now_le_of_tends
    (tends : (move.before.wait time).courier.Tends gone beat sent move.after.courier) :
    move.before.courier.agenda.now ≤ move.after.courier.agenda.now := by
  rw [tends.now]
  exact Nat.le_max_left _ _

/-- What is set and sent is for other sessions. -/
theorem Tunes.keeps_of_tends
    (tends : (move.before.wait time).courier.Tends gone beat sent move.after.courier)
    (same : move.after.sustains ref = move.before.sustains ref)
    (set : ∀ alarm, beat = some alarm → alarm.task ≠ .keepAlive ref)
    (silent : move.isAsked = false → ∀ attempt ∈ sent, attempt.sender ≠ some ref) :
    Tunes ref move := by
  refine .keeps same (fun alarm waits task => ?_) (now_le_of_tends tends) fun unasked => ?_
  · rcases (tends.alarms task).mp waits with new | ⟨before, _⟩
    · exact absurd task (set alarm new)
    · exact before
  · rw [news_of_tends tends, List.reverse_eq_nil_iff, List.filter_eq_nil_iff]
    exact fun attempt member own => silent unasked attempt member (decide_eq_true_eq.mp own)

theorem Tunes.of_maintains (maintains : Maintains (move.before.wait time) move.after) :
    Tunes ref move := by
  refine .keeps_of_tends maintains.serves ?_ (by rintro _ ⟨⟩) fun _ => List.forall_mem_nil _
  cases found : move.before.session? ref with
  | none =>
      cases afterFound : move.after.session? ref with
      | none => rw [sustains, sustains, found, afterFound]
      | some after =>
          have new := maintains.fresh found afterFound
          rw [sustains_eq afterFound, sustains, found]
          exact Session.isSustained_eq_false (by rw [new.state]; rfl)
  | some before =>
      obtain ⟨after, afterFound, persists⟩ := maintains.persists found
      rw [sustains_eq afterFound, persists.sustained, sustains_eq found]

/-- What is done to one session is nothing to another. -/
theorem Tunes.aside (different : ref ≠ changed)
    (others : ∀ {other}, other ≠ changed →
      move.after.session? other = move.before.session? other)
    (tends : (move.before.wait time).courier.Tends gone beat sent move.after.courier)
    (set : ∀ alarm, beat = some alarm → alarm.task = .keepAlive changed)
    (senders : ∀ attempt ∈ sent, attempt.sender = some changed) : Tunes ref move := by
  refine .keeps_of_tends tends (by rw [sustains, others different, sustains])
    (fun alarm new task => ?_) fun _ attempt member own => ?_
  · exact different (Reminder.keepAlive.inj (task.symm.trans (set alarm new)))
  · exact different (Option.some.inj (own.symm.trans (senders attempt member)))

/-- A session is not sustained any more, if it was. -/
theorem Tunes.retires (found : move.before.session? ref = some before)
    (afterFound : move.after.session? ref = some after) (unset : after.isSustained = false)
    (tends : (move.before.wait time).courier.Tends gone none [] move.after.courier)
    (noneDue : before.isSustained = true → move.before.NoneDue ∧
      move.after.courier.agenda.now = move.before.courier.agenda.now) : Tunes ref move := by
  have afterUnset := (sustains_eq afterFound).trans unset
  cases sustained : before.isSustained with
  | false =>
      refine .keeps_of_tends tends ?_ (by rintro _ ⟨⟩) fun _ => List.forall_mem_nil _
      rw [afterUnset, sustains_eq found, sustained]
  | true =>
      obtain ⟨noneDue, clock⟩ := noneDue sustained
      exact .ends ((sustains_eq found).trans sustained) afterUnset noneDue clock
        (news_of_tends tends)

/-- A keep-alive alarm of a session that waits after another was set for it is the new one. -/
theorem deadline_of_nextBeat (steady : (move.before.wait time).Steady)
    (found : move.before.session? ref = some before)
    (next : NextBeat ref beat (move.before.wait time))
    (tends : (move.before.wait time).courier.Tends before.keepAlive beat sent move.after.courier)
    {alarm : Alarm Reminder} (waits : alarm ∈ move.after.courier.agenda.alarms)
    (task : alarm.task = .keepAlive ref) :
    alarm.deadline = move.after.courier.agenda.now + move.before.settings.keepAliveInterval := by
  rcases (tends.alarms task).mp waits with set | ⟨earlier, kept⟩
  · rw [tends.now]
    exact (next.deadline set).2
  · obtain ⟨session, again, known⟩ := steady.paced.ringing earlier task
    cases found.symm.trans again
    exact absurd known kept

theorem Tunes.of_beats {attempt : SendAttempt} (steady : (move.before.wait time).Steady)
    (noneMissed : (move.before.wait time).NoneMissed) (unprompted : move.cause = none)
    (beats : Beats ref before after attempt (move.before.wait time) move.after) :
    Tunes ref move := by
  obtain ⟨beat, next, keepAlive, tends⟩ := beats.beats
  obtain ⟨alarm, waits, task, due⟩ := beats.due
  obtain ⟨transaction, encoded⟩ := beats.lists
  have sent : move.news (keepAlivesOf ref) = [attempt] := by
    rw [news_of_tends tends]
    simp [beats.sender]
  refine .beats ((sustains_eq beats.found).trans beats.sustained)
    ((sustains_eq beats.afterFound).trans beats.afterSustained)
    ⟨alarm, waits, task, ?_⟩ (fun other => deadline_of_nextBeat steady beats.found next tends)
    ?_ sent ?_ ⟨after.id, transaction,
      ⟨after, beats.afterFound, Session.granted_of_isSustained beats.afterSustained, rfl⟩, ?_⟩
  · rw [tends.now]
    exact Nat.le_antisymm due (noneMissed alarm waits ref task)
  · rw [Move.isAsked, unprompted]
  · rw [tends.now]
    exact beats.time
  · rw [beats.stays.id]
    exact encoded

/-- What is done at once begins or ends the keep-alive of a session, or leaves it alone. -/
theorem Tunes.of_deed (steady : move.before.Steady) (noneDue : move.before.NoneDue)
    (deed : Deed move.cause move.before move.after) (ref : SessionRef) : Tunes ref move := by
  have clock := deed.now
  have here := move.before.wait_now
  rw [← here] at deed
  have waited := steady.wait move.before.courier.agenda.now
  cases deed with
  | maintains maintains => exact .of_maintains maintains
  | nudges asked _ _ sessions tends =>
      refine .keeps_of_tends tends ?_ (by rintro _ ⟨⟩) fun unasked => ?_
      · rw [sustains, session?, sessions]
        rfl
      · rw [Move.isAsked, asked] at unasked
        cases unasked
  | @quiets changed before after others quiets =>
      by_cases same : ref = changed
      · subst same
        exact .retires quiets.found quiets.afterFound quiets.unsustained quiets.tends
          fun _ => ⟨noneDue, clock⟩
      · exact .aside same others quiets.tends (by rintro _ ⟨⟩) (List.forall_mem_nil _)
  | @ends changed before after others ends =>
      by_cases same : ref = changed
      · subst same
        have unset : after.isSustained = false :=
          Session.isSustained_eq_false (by rw [ends.released]; rfl)
        exact .retires ends.found ends.afterFound unset ends.tends fun _ => ⟨noneDue, clock⟩
      · exact .aside same others ends.tends (by rintro _ ⟨⟩) (List.forall_mem_nil _)
  | @grants changed before after datagram message dispatched decoded held others grants =>
      obtain ⟨beat, next, keepAlive, tends⟩ := grants.beats
      by_cases same : ref = changed
      · subst same
        have unset : before.isSustained = false :=
          Session.isSustained_eq_false (by rw [grants.sent]; rfl)
        have set : after.isSustained = true := by
          rw [Session.isSustained, grants.isHeld, held, grants.ready]
          rfl
        have none := waited.paced.keepAlive_eq_none grants.found unset
        refine .begins ((sustains_eq grants.found).trans unset)
          ((sustains_eq grants.afterFound).trans set) ?_ (fun alarm => ?_) (news_of_tends tends)
        · rintro id ⟨session, found, granted, _⟩
          cases grants.found.symm.trans found
          rw [grants.sent] at granted
          cases granted
        · exact deadline_of_nextBeat waited grants.found next (none ▸ tends)
      · exact .aside same others tends next.task (List.forall_mem_nil _)
  | @beats changed before after attempt others beats =>
      obtain ⟨alarm, waits, task, due⟩ := beats.due
      rw [here] at waits due
      exact absurd due (Nat.not_le_of_lt (noneDue alarm waits changed task))

/-- What rings is a beat of the session, or leaves its keep-alive alone. -/
theorem Tunes.of_ringing (steady : move.before.Steady) (unprompted : move.cause = none)
    (ringing : Ringing (move.before.wait time) move.after)
    (noneMissed : (move.before.wait time).NoneMissed) (ref : SessionRef) : Tunes ref move := by
  have waited := steady.wait time
  cases ringing with
  | maintains maintains => exact .of_maintains maintains
  | @ends changed before after releasing others ends =>
      by_cases same : ref = changed
      · subst same
        have unset : after.isSustained = false :=
          Session.isSustained_eq_false (by rw [ends.released]; rfl)
        refine .retires ends.found ends.afterFound unset ends.tends fun impossible => ?_
        cases impossible.symm.trans
          (Session.isSustained_eq_false (by rw [releasing]; rfl))
      · exact .aside same others ends.tends (by rintro _ ⟨⟩) (List.forall_mem_nil _)
  | @beats changed before after attempt others beats =>
      by_cases same : ref = changed
      · subst same
        exact .of_beats waited noneMissed unprompted beats
      · obtain ⟨beat, next, _, tends⟩ := beats.beats
        refine .aside same others tends next.task fun other member => ?_
        rw [List.mem_singleton.mp member]
        exact beats.sender

theorem Tunes.of_timely (timely : move.IsTimely) (ref : SessionRef) : Tunes ref move := by
  cases timely.happens with
  | acts deed noneDue => exact .of_deed timely.before noneDue deed ref
  | rings unprompted ringing noneMissed =>
      exact .of_ringing timely.before unprompted ringing noneMissed ref
  | @passes time after =>
      have waited := Upholds.refl (timely.before.wait time).courier
      have maintains : Maintains (move.before.wait time) move.after := by
        rw [after]
        exact waited.maintains
      exact .of_maintains maintains

/-- A session that is granted stays so, under the same identifier. -/
theorem Billing.isGranted (billing : Billing cause client next)
    (granted : client.IsGranted ref id) :
    next.IsGranted ref id := by
  obtain ⟨session, found, ungranted, same⟩ := granted
  cases billing with
  | abstains abstains =>
      obtain ⟨after, afterFound, stays⟩ := abstains.stays found
      exact ⟨after, afterFound, stays.granted_of ungranted, stays.id.trans same⟩
  | @ends changed before after others ends =>
      by_cases own : ref = changed
      · subst own
        cases found.symm.trans ends.found
        exact ⟨after, ends.afterFound, by rw [ends.released]; rfl, ends.id.trans same⟩
      · exact ⟨session, (others own).trans found, ungranted, same⟩
  | @grants changed before after datagram message dispatched decoded others grants =>
      by_cases own : ref = changed
      · subst own
        cases found.symm.trans grants.found
        rw [grants.sent] at ungranted
        cases ungranted
      · exact ⟨session, (others own).trans found, ungranted, same⟩

theorem isGranted_of_timely (timely : move.IsTimely) (granted : move.before.IsGranted ref id) :
    move.after.IsGranted ref id := by
  cases timely.happens with
  | acts deed _ => exact deed.billing.isGranted granted
  | rings _ ringing _ => exact (ringing.deed none).billing.isGranted granted
  | passes after =>
      rw [after]
      exact granted

theorem settings_of_timely (timely : move.IsTimely) :
    move.after.settings = move.before.settings := by
  cases timely.happens with
  | acts deed _ => exact deed.settings
  | rings _ ringing _ => exact (ringing.deed none).settings
  | passes after => rw [after]; rfl

end Tunes

/-! ## Counting -/

theorem div_eq_of_between {interval since now : Time} {count : Nat}
    (reached : since + count * interval ≤ now)
    (ahead : interval ≠ 0 → now < since + (count + 1) * interval)
    (still : interval = 0 → count = 0) : (now - since) / interval = count := by
  by_cases zero : interval = 0
  · rw [zero, Nat.div_zero, still zero]
  · refine Nat.div_eq_of_lt_le (Nat.le_sub_of_add_le' reached) ?_
    have since_le : since ≤ now := Nat.le_trans (Nat.le_add_right _ _) reached
    exact Nat.sub_lt_left_of_lt_add since_le (ahead zero)

/-- A session has been sustained since some time, its keep-alive was sent so many times, and the
next one is set for when it is due. -/
structure Pulses (interval since : Time) (count : Nat) (ref : SessionRef) (client : Client) :
    Prop where
  set : client.sustains ref = true
  reached : since + count * interval ≤ client.courier.agenda.now
  still : interval = 0 → count = 0
  next : ∀ alarm ∈ client.courier.agenda.alarms, alarm.task = .keepAlive ref →
    alarm.deadline = since + (count + 1) * interval

/-- While no keep-alive is due, as many were sent as intervals have gone by. -/
theorem Pulses.count_eq {interval since : Time} {count : Nat}
    (pulses : Pulses interval since count ref client) (steady : client.Steady)
    (noneDue : client.NoneDue) (settings : client.settings.keepAliveInterval = interval) :
    (client.courier.agenda.now - since) / interval = count := by
  refine div_eq_of_between pulses.reached (fun positive => ?_) pulses.still
  rw [← settings] at positive
  obtain ⟨alarm, waits, task, _⟩ := steady.exists_alarm positive pulses.set
  rw [← pulses.next alarm waits task]
  exact noneDue alarm waits ref task

end Client

open Client (Pulses)

/-- How far the keep-alive of a session has come after some moves. -/
inductive Phase (first : Client) (interval : Time) (ref : SessionRef) (past : List Move)
    (client : Client) : Prop where
  | waiting (unset : ∀ client ∈ first :: past.map Move.after, client.sustains ref = false)
      (current : client.sustains ref = false) (silent : beats ref past = [])
  | beating {earlier during : List Client} {ready : Client} {count : Nat}
      (split : first :: past.map Move.after = earlier ++ ready :: during)
      (unset : ∀ client ∈ earlier, client.sustains ref = false)
      (set : ∀ client ∈ ready :: during, client.sustains ref = true)
      (times : (beats ref past).map SendAttempt.time =
        beatTimes interval ready.courier.agenda.now count)
      (pulses : Pulses interval ready.courier.agenda.now count ref client)
  | ended {earlier during later : List Client} {ready gone : Client}
      (split : first :: past.map Move.after = earlier ++ ready :: during ++ gone :: later)
      (unset : ∀ client ∈ earlier ++ gone :: later, client.sustains ref = false)
      (set : ∀ client ∈ ready :: during, client.sustains ref = true)
      (times : (beats ref past).map SendAttempt.time =
        beatTimes interval ready.courier.agenda.now
          ((gone.courier.agenda.now - ready.courier.agenda.now) / interval))
      (current : client.sustains ref = false) (granted : ∃ id, client.IsGranted ref id)

namespace Phase

variable {first : Client} {interval : Time} {ref : SessionRef} {past : List Move} {move : Move}

theorem clients_append (first : Client) (past : List Move) (move : Move) :
    first :: (past ++ [move]).map Move.after = (first :: past.map Move.after) ++ [move.after] := by
  simp

theorem beats_append_silent
    (silent : move.isAsked = false → move.news (Client.keepAlivesOf ref) = []) :
    beats ref (past ++ [move]) = beats ref past := by
  rw [beats_append]
  cases asked : move.isAsked with
  | true => exact List.append_nil _
  | false => simp [silent asked]

/-- A move that leaves the keep-alive of the session alone leads on in the same phase. -/
theorem keeps (timely : move.IsTimely) (phase : Phase first interval ref past move.before)
    (same : move.after.sustains ref = move.before.sustains ref)
    (alarms : ∀ alarm ∈ move.after.courier.agenda.alarms, alarm.task = .keepAlive ref →
      alarm ∈ move.before.courier.agenda.alarms)
    (clock : move.before.courier.agenda.now ≤ move.after.courier.agenda.now)
    (silent : move.isAsked = false → move.news (Client.keepAlivesOf ref) = []) :
    Phase first interval ref (past ++ [move]) move.after := by
  have clients := clients_append first past move
  have quiet : beats ref (past ++ [move]) = beats ref past := beats_append_silent silent
  cases phase with
  | waiting unset current none =>
      refine .waiting ?_ (same.trans current) (quiet.trans none)
      rw [clients]
      exact List.forall_mem_append.mpr ⟨unset, List.forall_mem_singleton.mpr (same.trans current)⟩
  | @beating earlier during ready count split unset set times pulses =>
      have still := same.trans pulses.set
      have splits : first :: (past ++ [move]).map Move.after =
          earlier ++ ready :: (during ++ [move.after]) := by
        rw [clients, split, List.append_assoc, List.cons_append]
      refine .beating splits unset ?_ (by rw [quiet, times])
        ⟨still, Nat.le_trans pulses.reached clock, pulses.still, ?_⟩
      · exact List.forall_mem_append.mpr ⟨set, List.forall_mem_singleton.mpr still⟩
      · exact fun alarm waits task => pulses.next alarm (alarms alarm waits task) task
  | @ended earlier during later ready gone split unset set times current granted =>
      have splits : first :: (past ++ [move]).map Move.after =
          earlier ++ ready :: during ++ gone :: (later ++ [move.after]) := by
        rw [clients, split, List.append_assoc, List.cons_append]
      refine .ended splits ?_ set (by rw [quiet, times]) (same.trans current) ?_
      · rw [← List.cons_append, ← List.append_assoc]
        exact List.forall_mem_append.mpr
          ⟨unset, List.forall_mem_singleton.mpr (same.trans current)⟩
      · exact granted.imp fun _ => Client.isGranted_of_timely timely

/-- Each move leads from a phase to the same or the next. -/
theorem step (timely : move.IsTimely) (settings : move.before.settings.keepAliveInterval = interval)
    (phase : Phase first interval ref past move.before) :
    Phase first interval ref (past ++ [move]) move.after := by
  have clients := clients_append first past move
  cases Client.Tunes.of_timely timely ref with
  | keeps same alarms clock silent => exact phase.keeps timely same alarms clock silent
  | begins unset set ungranted alarms silent =>
      have quiet : beats ref (past ++ [move]) = beats ref past :=
        beats_append_silent fun _ => silent
      cases phase with
      | waiting before _ none =>
          have begun : Pulses interval move.after.courier.agenda.now 0 ref move.after := by
            refine ⟨set, Nat.le_of_eq (by rw [Nat.zero_mul, Nat.add_zero]), fun _ => rfl, ?_⟩
            intro alarm waits task
            rw [alarms alarm waits task, settings, Nat.zero_add, Nat.one_mul]
          exact .beating clients before (List.forall_mem_singleton.mpr set)
            (by rw [quiet, none]; rfl) begun
      | beating _ _ _ _ pulses => cases pulses.set.symm.trans unset
      | ended _ _ _ _ _ granted =>
          obtain ⟨id, granted⟩ := granted
          exact absurd granted (ungranted id)
  | ends set unset noneDue clock silent =>
      have quiet : beats ref (past ++ [move]) = beats ref past :=
        beats_append_silent fun _ => silent
      cases phase with
      | waiting _ current _ => cases current.symm.trans set
      | @beating earlier during ready count split before within times pulses =>
          have count := pulses.count_eq timely.before noneDue settings
          obtain ⟨session, found, sustained⟩ := Client.exists_of_sustains set
          have granted : move.before.IsGranted ref session.id :=
            ⟨session, found, Session.granted_of_isSustained sustained, rfl⟩
          have splits : first :: (past ++ [move]).map Move.after =
              earlier ++ ready :: during ++ [move.after] := by rw [clients, split]
          refine .ended splits ?_ within ?_ unset ⟨_, Client.isGranted_of_timely timely granted⟩
          · exact List.forall_mem_append.mpr ⟨before, List.forall_mem_singleton.mpr unset⟩
          · rw [quiet, times, clock, count]
      | ended _ _ _ _ current _ => cases current.symm.trans set
  | @beats attempt set still due alarms unasked sent time lists =>
      cases phase with
      | waiting _ current _ => cases current.symm.trans set
      | @beating earlier during ready count split before within times pulses =>
          obtain ⟨alarm, waits, task, deadline⟩ := due
          have now := (pulses.next alarm waits task).symm.trans deadline
          have positive := (timely.before.sustains_of_alarm waits task).1
          rw [settings] at positive
          have splits : first :: (past ++ [move]).map Move.after =
              earlier ++ ready :: (during ++ [move.after]) := by
            rw [clients, split, List.append_assoc, List.cons_append]
          have onward : Pulses interval ready.courier.agenda.now (count + 1) ref move.after := by
            refine ⟨still, Nat.le_of_eq now, fun zero => absurd zero positive, ?_⟩
            intro other otherWaits otherTask
            rw [alarms other otherWaits otherTask, settings, ← now, Nat.succ_mul (count + 1),
              Nat.add_assoc]
          refine .beating splits before ?_ ?_ onward
          · exact List.forall_mem_append.mpr ⟨within, List.forall_mem_singleton.mpr still⟩
          · rw [beats_append, unasked, sent, beatTimes_succ, now, ← time, ← times]
            simp
      | ended _ _ _ _ current _ => cases current.symm.trans set

end Phase

namespace Client

variable {settings : ClientSettings} {ref : SessionRef} {past : List Move} {move : Move}
  {client : Client}

/-- What is known of the keep-alive of a session after some moves of a client. -/
structure Rhythm (settings : ClientSettings) (ref : SessionRef) (past : List Move)
    (client : Client) : Prop where
  same : client.settings = settings
  clients : ∀ client ∈ start settings :: past.map Move.after,
    client.Steady ∧ client.settings = settings
  phase : Phase (start settings) settings.keepAliveInterval ref past client
  lists : ∀ attempt ∈ beats ref past, ∃ id transaction, client.IsGranted ref id ∧
    (Signal.inProgress transaction id).encode = .ok attempt.bytes

theorem Rhythm.start (settings : ClientSettings) (ref : SessionRef) :
    Rhythm settings ref [] (start settings) where
  same := rfl
  clients := List.forall_mem_singleton.mpr ⟨.start settings, rfl⟩
  phase := .waiting (List.forall_mem_singleton.mpr rfl) rfl rfl
  lists := List.forall_mem_nil _

theorem Rhythm.step (timely : move.IsTimely) (rhythm : Rhythm settings ref past move.before) :
    Rhythm settings ref (past ++ [move]) move.after where
  same := (settings_of_timely timely).trans rhythm.same
  clients := by
    rw [Phase.clients_append]
    exact List.forall_mem_append.mpr ⟨rhythm.clients, List.forall_mem_singleton.mpr
      ⟨timely.after, (settings_of_timely timely).trans rhythm.same⟩⟩
  phase := rhythm.phase.step timely (by rw [rhythm.same])
  lists := by
    have earlier : ∀ attempt ∈ beats ref past, ∃ id transaction, move.after.IsGranted ref id ∧
        (Signal.inProgress transaction id).encode = .ok attempt.bytes := by
      intro attempt member
      obtain ⟨id, transaction, granted, encoded⟩ := rhythm.lists attempt member
      exact ⟨id, transaction, isGranted_of_timely timely granted, encoded⟩
    have silently (silent : move.isAsked = false → move.news (keepAlivesOf ref) = []) :
        ∀ attempt ∈ beats ref (past ++ [move]), ∃ id transaction, move.after.IsGranted ref id ∧
          (Signal.inProgress transaction id).encode = .ok attempt.bytes := by
      rw [Phase.beats_append_silent silent]
      exact earlier
    cases Tunes.of_timely timely ref with
    | keeps _ _ _ silent => exact silently silent
    | begins _ _ _ _ silent => exact silently fun _ => silent
    | ends _ _ _ _ silent => exact silently fun _ => silent
    | beats _ _ _ _ unasked sent _ lists =>
        rw [beats_append, unasked, sent]
        exact List.forall_mem_append.mpr ⟨earlier, List.forall_mem_singleton.mpr lists⟩

/-- In every run whose clock moves only when time passes, the keep-alive of a session runs exactly
while the session stands.  It has one alarm in each client of the history in which the session is
established and held, unless the interval is zero, and none in the others.  The clients in which
it is established and held follow on one another; and what nobody asked for but was sent as a
keep-alive of the session names the session alone and was sent at the time of the first of these
clients and a multiple of the interval, for each that is no later than when they end, whether or
not the transport took it. -/
theorem keepAlives_periodic (settings : ClientSettings) (actions : List ClientAction)
    (whole : ∀ duration, .ringFirst duration ∉ actions) (ref : SessionRef) :
    let interval := settings.keepAliveInterval
    let history := (start settings).history actions
    let final := (start settings).run actions
    let sent := beats ref ((start settings).moves actions)
    (∀ client ∈ history, (client.keepAliveAlarms ref).length =
        if interval ≠ 0 ∧ client.sustains ref = true then 1 else 0) ∧
      (∀ attempt ∈ sent, ∃ session transaction, final.session? ref = some session ∧
        Signal.encode ⟨transaction, [], .sessionInProgress [session.id]⟩ = .ok attempt.bytes) ∧
      ∃ earlier during later, history = earlier ++ during ++ later ∧
        (∀ client ∈ earlier ++ later, client.sustains ref = false) ∧
        (∀ client ∈ during, client.sustains ref = true) ∧
        sent.map SendAttempt.time =
          match during with
          | [] => []
          | ready :: _ =>
              let since := ready.courier.agenda.now
              let ended := (later.head?.getD final).courier.agenda.now
              beatTimes interval since ((ended - since) / interval) := by
  intro interval history final sent
  obtain ⟨leads, steady, noneDue⟩ := isTimely_moves settings whole
  have rhythm : Rhythm settings ref ((start settings).moves actions) final :=
    leads.carry _ Rhythm.step (Rhythm.start settings ref)
  have clients : start settings :: ((start settings).moves actions).map Move.after = history :=
    map_after_moves (start settings) actions
  refine ⟨fun client member => ?_, fun attempt member => ?_, ?_⟩
  · obtain ⟨steady, same⟩ := rhythm.clients client (clients ▸ member)
    rw [steady.length_keepAliveAlarms ref, same]
  · obtain ⟨_, transaction, ⟨session, found, _, rfl⟩, encoded⟩ := rhythm.lists attempt member
    exact ⟨session, transaction, found, encoded⟩
  · rw [← clients]
    cases rhythm.phase with
    | waiting unset _ silent =>
        refine ⟨start settings :: ((start settings).moves actions).map Move.after, [], [], ?_, ?_,
          List.forall_mem_nil _, congrArg _ silent⟩
        · rw [List.append_nil, List.append_nil]
        · rwa [List.append_nil]
    | @beating earlier during ready count split unset set times pulses =>
        have sofar := pulses.count_eq steady noneDue (by rw [rhythm.same])
        refine ⟨earlier, ready :: during, [], by rw [split, List.append_nil], ?_, set,
          times.trans (congrArg _ sofar.symm)⟩
        rwa [List.append_nil]
    | @ended earlier during later ready gone split unset set times current granted =>
        exact ⟨earlier, ready :: during, gone :: later, split, unset, set, times⟩

/-- A session stands for seven hundred seconds, and its owner sends one more keep-alive before it is
torn down. -/
def sevenHundredSeconds : List ClientAction :=
  [.create (.ofVendor .arris) {}, .operate .setup 0, .advance 1000000,
    .dispatch (sampleDatagram (.setupConfirm ⟨sampleId 1, ⟨0⟩, .zero, [], {}⟩) 1),
    .advance 650000000, .operate .sendKeepAlive 0, .advance 50000000, .operate .teardown 0,
    .advance 600000000]

theorem keepAlives_periodic_sevenHundredSeconds :
    (∀ duration, .ringFirst duration ∉ sevenHundredSeconds) ∧
      (∀ client ∈ (start sampleSettings).history sevenHundredSeconds,
        (client.keepAliveAlarms 0).length =
          if sampleSettings.keepAliveInterval ≠ 0 ∧ client.sustains 0 = true then 1 else 0) ∧
      (beats 0 ((start sampleSettings).moves sevenHundredSeconds)).map SendAttempt.time =
        [301000000, 601000000] := by
  have whole : ∀ duration, .ringFirst duration ∉ sevenHundredSeconds := by
    simp [sevenHundredSeconds]
  exact ⟨whole, (keepAlives_periodic sampleSettings sevenHundredSeconds whole 0).1, rfl⟩

end Client

end OnDemand
