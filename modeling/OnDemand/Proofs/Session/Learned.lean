import Mathlib.Data.List.Induction
import OnDemand.Proofs.Session.Retouch
import OnDemand.Proofs.Wire.Accepts

/-!
# What a session learns from its confirm

The confirm that grants a session holds a list of resources, of which the last of each kind counts,
and private data, of whose descriptors the first of each kind counts.  Private data that does not
decode is passed over.  A session that knew nothing before knows just that afterwards.
-/

namespace OnDemand

namespace ResourceContent

def program? : ResourceContent → Option MpegProgram
  | mpegProgram program => some program
  | _ => none

def channel? : ResourceContent → Option PhysicalChannel
  | physicalChannel channel => some channel
  | _ => none

def bandwidth? : ResourceContent → Option DownstreamBandwidth
  | downstreamBandwidth bandwidth => some bandwidth
  | _ => none

def modulation? : ResourceContent → Option AtscModulation
  | atscModulation modulation => some modulation
  | _ => none

def caInfo? : ResourceContent → Option ClientCaInfo
  | clientCaInfo info => some info
  | _ => none

end ResourceContent

/-- The content of the last resource of a kind. -/
def Resource.last? {α : Type} (kind? : ResourceContent → Option α) (resources : List Resource) :
    Option α :=
  (resources.filterMap fun resource => kind? resource.content).getLast?

namespace Descriptor

def endpoint? : Descriptor → Option Ipv4Endpoint
  | streamEndpoint endpoint => some endpoint
  | _ => none

def handle? : Descriptor → Option UInt32
  | streamHandle handle => some handle
  | _ => none

def duration? : Descriptor → Option UInt32
  | assetDuration milliseconds => some milliseconds
  | _ => none

/-- The value of the first descriptor of a kind. -/
def first? {α : Type} (kind? : Descriptor → Option α) (descriptors : List Descriptor) :
    Option α :=
  (descriptors.filterMap kind?).head?

end Descriptor

namespace PrivateData

theorem streamEndpoint?_eq_first? (data : PrivateData) :
    data.streamEndpoint? = Descriptor.first? Descriptor.endpoint? data.descriptors :=
  List.head?_filterMap.symm

theorem streamHandle?_eq_first? (data : PrivateData) :
    data.streamHandle? = Descriptor.first? Descriptor.handle? data.descriptors :=
  List.head?_filterMap.symm

theorem assetDuration?_eq_first? (data : PrivateData) :
    data.assetDuration? = Descriptor.first? Descriptor.duration? data.descriptors :=
  List.head?_filterMap.symm

end PrivateData

/-- What a session can learn from a confirm, its name apart. -/
structure Learned where
  tuning : TuningParameters := {}
  resources : List Resource := []
  caInfo : Option ClientCaInfo := none
  entitlementId : Option UInt32 := none
  endpoint : Option Ipv4Endpoint := none
  handle : Option UInt32 := none
  duration : Option UInt32 := none

namespace Learned

/-- What there is to learn from resources: of each kind, the last counts. -/
def ofResources (resources : List Resource) : Learned :=
  let modulation := Resource.last? ResourceContent.modulation? resources
  let bandwidth := Resource.last? ResourceContent.bandwidth? resources
  let info := Resource.last? ResourceContent.caInfo? resources
  { tuning :=
      { frequencyHz := (Resource.last? ResourceContent.channel? resources).map (·.frequencyHz)
        modulation := modulation.map (·.modulation)
        symbolRate := modulation.map (·.symbolRate)
        programNumber := (Resource.last? ResourceContent.program? resources).map (·.programNumber)
        transportStreamId := bandwidth.map (·.transportStreamId)
        bandwidthBps := bandwidth.map (·.bitsPerSecond) }
    resources
    caInfo := info
    entitlementId := info.bind (·.entitlementId?) }

/-- What there is to learn from a confirm, if its private data is read in a format: of the
descriptors, the first of each kind counts. -/
def ofConfirm (format : PrivateDataFormat) (confirm : SetupConfirm) : Learned :=
  let data := (PrivateData.decode format confirm.userData.privateData).toOption
  { ofResources confirm.resources with
    endpoint := data.bind fun data => Descriptor.first? Descriptor.endpoint? data.descriptors
    handle := data.bind fun data => Descriptor.first? Descriptor.handle? data.descriptors
    duration := data.bind fun data => Descriptor.first? Descriptor.duration? data.descriptors }

end Learned

/-- An access descriptor has no entitlement exactly when it is too short for one. -/
theorem ClientCaInfo.entitlementId?_eq_none_iff {info : ClientCaInfo} :
    info.entitlementId? = none ↔ info.caInfo.length < 10 := by
  have length := List.length_drop (i := 6) (l := info.caInfo)
  rw [entitlementId?]
  split
  · next rest left =>
      rw [left] at length
      simp only [List.length_cons] at length
      exact iff_of_false nofun (by omega)
  · next short =>
      refine iff_of_true rfl (Nat.lt_of_not_le fun long => ?_)
      match left : info.caInfo.drop 6 with
      | a :: b :: c :: d :: rest => exact short a b c d rest left
      | [] | [_] | [_, _] | [_, _, _] =>
          rw [left] at length
          simp only [List.length_cons, List.length_nil] at length
          omega

/-- The entitlement is the word after the six bytes of the head. -/
theorem ClientCaInfo.entitlementId?_eq_some_iff {info : ClientCaInfo} {entitlement : UInt32} :
    info.entitlementId? = some entitlement ↔
      ∃ head rest, info.caInfo = head ++ (Wire.word32 entitlement ++ rest) ∧ head.length = 6 := by
  constructor
  · intro known
    rw [entitlementId?] at known
    split at known
    · next a b c d rest left =>
        cases known
        have long : 6 ≤ info.caInfo.length := by
          have length := congrArg List.length left
          simp only [List.length_drop, List.length_cons] at length
          omega
        refine ⟨info.caInfo.take 6, rest, ?_, List.length_take_of_le long⟩
        rw [Wire.word32_ofWord32, List.cons_append, List.cons_append, List.cons_append,
          List.cons_append, List.nil_append, ← left, List.take_append_drop]
    · cases known
  · rintro ⟨head, rest, bytes, six⟩
    rw [entitlementId?, bytes, ← six, List.drop_left]
    exact congrArg some (Wire.ofWord32_word32 entitlement)

theorem Resource.last?_concat {α : Type} (kind? : ResourceContent → Option α)
    (resources : List Resource) (resource : Resource) :
    last? kind? (resources ++ [resource]) =
      (kind? resource.content).or (last? kind? resources) := by
  rw [last?, List.filterMap_append, List.getLast?_append, last?]
  cases content : kind? resource.content <;> simp [content]

namespace Session

/-- What a session has learned from its confirm. -/
def learned (session : Session) : Learned where
  tuning := session.tuning
  resources := session.resources
  caInfo := session.caInfo
  entitlementId := session.entitlementId
  endpoint := session.endpoint
  handle := session.handle
  duration := session.duration

variable {session : Session} {confirm : SetupConfirm}

/-! ## Resources -/

/-- A session that knew nothing knows the last of each kind of resource. -/
theorem learned_foldl_applyResource (blank : session.learned = {}) (resources : List Resource) :
    (resources.foldl applyResource session).learned =
      { Learned.ofResources resources with resources := [] } := by
  induction resources using List.reverseRecOn with
  | nil => exact blank
  | append_singleton resources resource ih =>
      rw [List.foldl_concat]
      generalize resources.foldl applyResource session = stored at ih ⊢
      simp only [learned, Learned.ofResources, Learned.mk.injEq] at ih ⊢
      cases content : resource.content <;>
        simp [applyResource, content, Resource.last?_concat, ih, ResourceContent.program?,
          ResourceContent.channel?, ResourceContent.bandwidth?, ResourceContent.modulation?,
          ResourceContent.caInfo?]

/-- A session takes the resources of its confirm. -/
def takeResources (resources : List Resource) (session : Session) : Session :=
  { resources.foldl applyResource session with resources }

theorem learned_takeResources (blank : session.learned = {}) (resources : List Resource) :
    (session.takeResources resources).learned = .ofResources resources :=
  congrArg (fun learned : Learned => { learned with resources })
    (learned_foldl_applyResource blank resources)

theorem profile_takeResources (resources : List Resource) (session : Session) :
    (session.takeResources resources).profile = session.profile := by
  obtain ⟨_, _, _, folded⟩ := foldl_applyResource_eq resources session
  rw [takeResources, folded]

/-! ## Private data -/

/-- No bytes are no descriptors, if they are private data at all. -/
theorem decode_nil {format : PrivateDataFormat} {data : PrivateData}
    (decoded : PrivateData.decode format [] = .ok data) : data = ⟨[]⟩ := by
  cases format with
  | plain =>
      have read : PrivateData.readDescriptors .plain [] = .ok ([], []) := by
        rw [PrivateData.readDescriptors, Descriptor.readUntil, if_pos (by rfl)]
      rw [PrivateData.decode, read] at decoded
      cases decoded
      rfl
  | counted protocol version => cases decoded

/-- What private data tells a session that knew nothing of its stream. -/
theorem learned_applyPrivateData (endpoint : session.endpoint = none)
    (handle : session.handle = none) (duration : session.duration = none) (bytes : Bytes) :
    (session.applyPrivateData bytes).learned =
      let data := (PrivateData.decode session.profile.format bytes).toOption
      { session.learned with
        endpoint := data.bind fun data => Descriptor.first? Descriptor.endpoint? data.descriptors
        handle := data.bind fun data => Descriptor.first? Descriptor.handle? data.descriptors
        duration :=
          data.bind fun data => Descriptor.first? Descriptor.duration? data.descriptors } := by
  have unchanged : session.learned =
      { session.learned with endpoint := none, handle := none, duration := none } := by
    simp only [learned, endpoint, handle, duration]
  rw [applyPrivateData]
  split
  · next empty =>
      rw [List.isEmpty_iff.mp empty]
      cases decoded : PrivateData.decode session.profile.format [] with
      | error fault => exact unchanged
      | ok data =>
          rw [decode_nil decoded]
          exact unchanged
  · cases decoded : PrivateData.decode session.profile.format bytes with
    | error fault => exact unchanged
    | ok data =>
        simp only [learned, data.streamEndpoint?_eq_first?, data.streamHandle?_eq_first?,
          data.assetDuration?_eq_first?]
        rfl

/-- What a session that knew nothing knows once it is granted. -/
theorem learned_granted (blank : session.learned = {}) (confirm : SetupConfirm) :
    (session.granted confirm).learned = .ofConfirm session.profile.format confirm := by
  have told : (takeResources confirm.resources { session with setup := none }).learned =
      .ofResources confirm.resources :=
    learned_takeResources (show Session.learned { session with setup := none } = {} from blank) _
  calc (session.granted confirm).learned
      = (applyPrivateData (takeResources confirm.resources { session with setup := none })
          confirm.userData.privateData).learned := rfl
    _ = _ := learned_applyPrivateData (congrArg Learned.endpoint told)
        (congrArg Learned.handle told) (congrArg Learned.duration told) _
    _ = .ofConfirm session.profile.format confirm := by
        rw [told, profile_takeResources]
        rfl

end Session
end OnDemand
