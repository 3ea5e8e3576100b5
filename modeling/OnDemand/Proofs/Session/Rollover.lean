import OnDemand.Proofs.Route.Neighbors
import OnDemand.Proofs.Session.Counter
import OnDemand.Proofs.Session.Run

/-!
# Numbers for sessions come around

Numbers for sessions are drawn like transactions, so a session that is created after all numbers
were given out has the number of the first.  It takes over the route of that number, while the
sessions whose numbers were not given out again keep theirs.
-/

namespace OnDemand

namespace Client

variable {settings : ClientSettings} {profile : VendorProfile} {asset : AssetRequest}
  {client : Client} {ref : SessionRef} {count : Nat}

/-- The session that a client creates after some others, when it names its sessions itself. -/
def newcomer (mac : MacAddress) (profile : VendorProfile) (asset : AssetRequest)
    (ref : SessionRef) : Session where
  profile
  asset
  number := following 1 ref
  id := ⟨mac, following 1 ref⟩

/-- A client that has done nothing but create sessions. -/
structure Populated (settings : ClientSettings) (profile : VendorProfile) (asset : AssetRequest)
    (count : Nat) (client : Client) : Prop where
  created : ∃ nextNumber routes, client =
    { start settings with
      nextNumber
      routes
      sessions := (List.range count).map (newcomer settings.clientMac profile asset) }
  next : (draw client.nextNumber).1 = following 1 count
  consistent : client.routes.Consistent
  claimed : ∀ {ref}, ref < count →
    client.routes.byNumber.get? (following 1 ref) = some (following 1 ref)
  handled : ∀ {ref}, ref < count →
    (∀ {later}, ref < later → later < count → following 1 later ≠ following 1 ref) →
    client.routes.handler? (following 1 ref) = some ref

theorem Populated.start (settings : ClientSettings) (profile : VendorProfile)
    (asset : AssetRequest) : Populated settings profile asset 0 (start settings) where
  created := ⟨_, _, rfl⟩
  next := rfl
  consistent := .empty
  claimed below := nomatch below
  handled below := nomatch below

/-- One more session has the number that follows, and the route of that number. -/
theorem Populated.create (names : settings.serverAssigns = false)
    (populated : Populated settings profile asset count client) :
    Populated settings profile asset (count + 1) (client.create profile asset).2 := by
  obtain ⟨⟨nextNumber, routes, rfl⟩, next, consistent, claimed, handled⟩ := populated
  simp only at next consistent claimed handled
  have length : ((List.range count).map (newcomer settings.clientMac profile asset)).length =
      count := by rw [List.length_map, List.length_range]
  simp only [Client.create, Client.start, names, Bool.false_eq_true, if_false, next, length]
  constructor
  case created =>
    simp only [List.range_succ, List.map_append]
    exact ⟨_, _, rfl⟩
  case next => rw [snd_draw, next, draw_following]
  case consistent => exact consistent.register _ _
  case claimed =>
    intro ref within
    simp only [consistent.byNumber_register]
    split
    · next same => rw [same]
    · next different =>
        have older : ref ≠ count := fun same => different (same ▸ rfl)
        have found := claimed (Nat.lt_of_le_of_ne (Nat.le_of_lt_succ within) older)
        rw [if_neg, found]
        rw [found]
        exact fun same => different (Option.some.inj same)
  case handled =>
    intro ref within latest
    rw [RouteTable.handler?_register]
    split
    · next same =>
        by_cases newest : ref = count
        · rw [newest]
        · exact absurd same.symm (latest (by omega) (Nat.lt_succ_self count))
    · next different =>
        have older : ref ≠ count := fun same => different (same ▸ rfl)
        exact handled (by omega) fun after within => latest after (Nat.lt_succ_of_lt within)

/-- Sessions may be created any number of times. -/
theorem populated_run (names : settings.serverAssigns = false) (profile : VendorProfile)
    (asset : AssetRequest) (count : Nat) :
    Populated settings profile asset count
      ((Client.start settings).run (List.replicate count (.create profile asset))) := by
  induction count with
  | zero => exact .start settings profile asset
  | succ count ih =>
      rw [List.replicate_succ', run, List.foldl_append]
      exact ih.create names

theorem Populated.session? (populated : Populated settings profile asset count client)
    (within : ref < count) :
    client.session? ref = some (newcomer settings.clientMac profile asset ref) := by
  obtain ⟨⟨nextNumber, routes, rfl⟩, _⟩ := populated
  simp only [Client.session?, List.getElem?_map, List.getElem?_range within, Option.map_some]

/-- A number leads to the session to which it was given last. -/
theorem Populated.lookup (populated : Populated settings profile asset count client)
    (within : ref < count)
    (latest : ∀ {later}, ref < later → later < count → following 1 later ≠ following 1 ref)
    {live : HandlerRef → Bool} (alive : live ref = true) :
    client.routes.lookup live (following 1 ref) = some ref := by
  rw [RouteTable.lookup_eq, populated.claimed within, Option.bind_some,
    populated.handled within latest, Option.filter_some_pos alive]

/-! ## Two sessions of one number -/

section Namesakes

variable {first last : SessionRef} {transaction : UInt32}

/-- The session of number 1 of the sample client. -/
def namesake : Session where
  profile := .ofVendor .arris
  asset := {}
  number := 1
  id := sampleId 1

/-- A client with the sample settings whose transport takes all that it is given. -/
structure Unhindered (client : Client) : Prop where
  settings : client.settings = sampleSettings
  takes : ∀ attempts, client.courier.transport.refuses attempts = false

/-- A session of number 1 sends a request in the next transaction, and the request is kept. -/
structure Requests (ref : SessionRef) (kind : SignalKind) (after : Session)
    (client next : Client) : Prop extends Unhindered next where
  counter : next.nextTransaction = (draw client.nextTransaction).2
  drawn : next.drawn = (draw client.nextTransaction).1 :: client.drawn
  routes : next.routes = client.routes
  found : next.session? ref = some after
  others : ∀ {other}, other ≠ ref → next.session? other = client.session? other
  kept : ∃ request, next.courier.pending.get? (draw client.nextTransaction).1 = some request ∧
    request.kind = kind

/-- Asking for the setup of a session leaves the requests in other transactions. -/
theorem setup_namesake (unhindered : client.Unhindered)
    (found : client.session? ref = some namesake) :
    Requests ref .setupRequest
        { namesake with state := .setupSent, setup := some (draw client.nextTransaction).1 }
        client (client.operate .setup ref) ∧
      ∀ {other}, other ≠ (draw client.nextTransaction).1 →
        (client.operate .setup ref).courier.pending.get? other =
          client.courier.pending.get? other := by
  obtain ⟨_, courier, routes, sessions, ca, caCalls, nextNumber, nextTransaction, drawn⟩ := client
  obtain ⟨rfl, takes⟩ := unhindered
  obtain ⟨data, encodable⟩ : ∃ data, (namesake.profile.setupPrivateData namesake.asset
      sampleSettings.clientMac).encode namesake.profile.format true = .ok data := ⟨_, rfl⟩
  let message : Signal := ⟨(draw nextTransaction).1, [], .setupRequest
    ⟨namesake.id, .ofDevice sampleSettings.clientIp sampleSettings.clientMac,
      .ofManager sampleSettings.managerIp, { privateData := data }⟩⟩
  have encoded : ∃ bytes, message.encode = .ok bytes := by
    cases encodable
    exact ⟨_, rfl⟩
  have repeated : namesake.profile.setupRetries sampleSettings.retryCount ≠ 0 := by decide
  obtain ⟨request, kind, submitted⟩ :=
    Courier.submit_of_taken message namesake.number ref encoded repeated (takes _)
  simp only [operate, setup, found]
  simp only [encodable]
  rw [if_neg (by decide)]
  simp only [submit, drawTransaction, modify, clientId, serverId]
  rw [submitted]
  constructor
  · refine ⟨⟨rfl, ?_⟩, rfl, rfl, rfl, session?_modify_self found,
      fun different => List.getElem?_modify_ne _ _ different.symm, request, ?_, kind⟩
    · simp only [Courier.refuses_withFirst]
      exact takes
    · exact Courier.pending_withFirst.trans (if_pos rfl)
  · intro other older
    exact Courier.pending_withFirst.trans (if_neg older)

/-- Asking for the release of a session. -/
theorem teardown_namesake (unhindered : client.Unhindered)
    (found : client.session? ref =
      some { namesake with state := .setupSent, setup := some transaction }) :
    Requests ref (.release .request)
      { namesake with state := .releasing, release := some (draw client.nextTransaction).1 }
      client (client.operate .teardown ref) := by
  obtain ⟨_, courier, routes, sessions, ca, caCalls, nextNumber, nextTransaction, drawn⟩ := client
  obtain ⟨rfl, takes⟩ := unhindered
  let message : Signal :=
    ⟨(draw nextTransaction).1, [], .release .request ⟨namesake.id, .clientRelease, {}⟩⟩
  have still : ∀ attempts,
      (courier.cancelSession namesake.number).2.transport.refuses attempts = false := by
    rw [Courier.transport_cancelSession]
    exact takes
  have repeated : sampleSettings.retryCount.toNat ≠ 0 := by decide
  obtain ⟨request, kind, submitted⟩ :=
    Courier.submit_of_taken message namesake.number ref ⟨_, rfl⟩ repeated (still _)
  simp only [operate, teardown, found]
  have alarmless : disarmKeepAlive ref ⟨sampleSettings, (courier.cancelSession namesake.number).2,
      routes, sessions, ca, caCalls, nextNumber, nextTransaction, drawn⟩ = _ :=
    disarmKeepAlive_of_none found rfl
  rw [alarmless]
  simp only [submit, drawTransaction, modify]
  rw [submitted]
  refine ⟨⟨rfl, ?_⟩, rfl, rfl, rfl, session?_modify_self found,
    fun different => List.getElem?_modify_ne _ _ different.symm, request, ?_, kind⟩
  · simp only [Courier.refuses_withFirst]
    exact still
  · exact Courier.pending_withFirst.trans (if_pos rfl)

/-- One session of number 1 awaits its release and another its setup, and the requests of both are
kept. -/
structure Entangled (first last : SessionRef) (client next : Client) : Prop where
  drawn : next.drawn = [3, 2, 1]
  routes : next.routes = client.routes
  others : ∀ {other}, other ≠ first → other ≠ last → next.session? other = client.session? other
  releasing : next.session? last = some { namesake with state := .releasing, release := some 2 }
  awaiting : next.session? first = some { namesake with state := .setupSent, setup := some 3 }
  asked : ∃ request, next.courier.pending.get? 2 = some request ∧ request.kind = .release .request
  kept : next.courier.isPending 3 = true

/-- One session asks for its setup and then for its release, and after that the other asks for its
setup. -/
theorem entangled_run (unhindered : client.Unhindered) (counter : client.nextTransaction = 1)
    (drawn : client.drawn = []) (firstFound : client.session? first = some namesake)
    (lastFound : client.session? last = some namesake) (different : first ≠ last) :
    Entangled first last client
      (client.run [.operate .setup last, .operate .teardown last, .operate .setup first]) := by
  have performed : ∀ {client : Client} {ref session} (action : OwnerAction),
      client.session? ref = some session → session.isHeld = true →
      client.perform (.operate action ref) = client.operate action ref := by
    intro client ref session action found held
    exact if_pos (by rw [isLive, found]; exact held)
  have one := (setup_namesake unhindered lastFound).1
  have two := teardown_namesake one.toUnhindered one.found
  have idle : ((client.operate .setup last).operate .teardown last).session? first =
      some namesake := by rw [two.others different, one.others different, firstFound]
  obtain ⟨three, older⟩ := setup_namesake two.toUnhindered idle
  have second : (client.operate .setup last).nextTransaction = 2 := by
    rw [one.counter, counter]
    rfl
  have third : ((client.operate .setup last).operate .teardown last).nextTransaction = 3 := by
    rw [two.counter, second]
    rfl
  have releasing := two.found
  have awaiting := three.found
  obtain ⟨request, asked, kind⟩ := two.kept
  obtain ⟨_, kept, _⟩ := three.kept
  rw [second] at releasing asked
  rw [third] at awaiting kept older
  simp only [run, List.foldl_cons, List.foldl_nil, performed _ lastFound rfl,
    performed _ one.found rfl, performed _ idle rfl]
  constructor
  case drawn =>
    rw [three.drawn, two.drawn, one.drawn, drawn, third, second, counter]
    rfl
  case routes => rw [three.routes, two.routes, one.routes]
  case others =>
    intro other notFirst notLast
    rw [three.others notFirst, two.others notLast, one.others notLast]
  case releasing => exact (three.others different.symm).trans releasing
  case awaiting => exact awaiting
  case asked => exact ⟨request, (older (by decide)).trans asked, kind⟩
  case kept => exact Option.isSome_iff_exists.mpr ⟨_, kept⟩

/-- After all numbers were given out, the first and the last session are entangled, and the second
idles under its number. -/
theorem Populated.entangled
    (populated : Populated sampleSettings (.ofVendor .arris) {} (2 ^ 32) client) :
    let next := client.run [.operate .setup (2 ^ 32 - 1), .operate .teardown (2 ^ 32 - 1),
      .operate .setup 0]
    Entangled 0 (2 ^ 32 - 1) client next ∧
      next.session? 1 = some (newcomer sampleSettings.clientMac (.ofVendor .arris) {} 1) ∧
      next.routes.lookup next.isLive 2 = some 1 ∧
      next.routes.lookup next.isLive 1 = some (2 ^ 32 - 1) := by
  have firstFound : client.session? 0 = some namesake := populated.session? (by decide)
  have lastFound : client.session? (2 ^ 32 - 1) = some namesake := populated.session? (by decide)
  have secondFound := populated.session? (show 1 < 2 ^ 32 by decide)
  intro next
  have entangled : Entangled 0 (2 ^ 32 - 1) client next := by
    obtain ⟨nextNumber, routes, rfl⟩ := populated.created
    exact entangled_run ⟨rfl, fun _ => rfl⟩ rfl rfl firstFound lastFound (by decide)
  have second := (entangled.others (by decide) (by decide)).trans secondFound
  have apart : ∀ {later}, 1 < later → later < 2 ^ 32 → following 1 later ≠ following 1 1 := by
    intro later after within same
    have equal := UInt32.toNat_inj.mpr same
    rw [toNat_following, toNat_following] at equal
    have one : (1 : UInt32).toNat = 1 := rfl
    omega
  refine ⟨entangled, second, ?_, ?_⟩
  · rw [entangled.routes]
    refine populated.lookup (show 1 < 2 ^ 32 by decide) apart ?_
    rw [isLive, second]
    rfl
  · rw [entangled.routes]
    refine populated.lookup (show 2 ^ 32 - 1 < 2 ^ 32 by decide) (fun after within => ?_) ?_
    · exact absurd within (Nat.not_lt.mpr (Nat.succ_le_of_lt after))
    · rw [isLive, entangled.releasing]
      rfl

end Namesakes

end Client

end OnDemand
