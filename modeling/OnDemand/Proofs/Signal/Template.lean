import OnDemand.Proofs.Resource.Template
import OnDemand.Proofs.Signal.RoundTrip

/-!
# What is read as a session message

The reader of messages looks at every byte but the reserved ones, so a datagram that is
read as a message differs from the encoding of the message in reserved bytes at most, and
two datagrams are read as one message exactly when they agree in all others.
-/

namespace OnDemand

open Template (exactly blank)

variable {input rest : Bytes}

theorem Reader.sessionId_eq_ok_iff {id : SessionId} :
    Reader.sessionId input = .ok (id, rest) ↔ input = id.bytes ++ rest := by
  simp only [Reader.sessionId, bind_eq_ok_iff, need_eq_ok_iff, octets_eq_ok_iff,
    word32_eq_ok_iff, pure_eq_ok_iff]
  constructor
  · intro ⟨_, _, ⟨_, first⟩, device, _, second, number, _, third, built, last⟩
    subst first second third built last
    exact (List.append_assoc ..).symm
  · intro starts
    refine ⟨(), _, ⟨?_, rfl⟩, id.device.octets, _, ?_, id.number, rest, rfl, rfl, rfl⟩
    · rw [starts, List.length_append, id.length_bytes]
      exact Nat.le_add_right ..
    · rw [starts]
      exact List.append_assoc ..

theorem Reader.nsap_eq_ok_iff {address : NsapAddress} :
    Reader.nsap input = .ok (address, rest) ↔ input = address.bytes ++ rest := by
  simp only [Reader.nsap, bind_eq_ok_iff, octets_eq_ok_iff, pure_eq_ok_iff]
  constructor
  · intro ⟨octets, _, first, built, last⟩
    subst first built last
    rfl
  · intro starts
    exact ⟨address.octets, rest, starts, rfl, rfl⟩

theorem UserData.read_eq_ok_iff {data : UserData} :
    read input = .ok (data, rest) ↔ data.Fits ∧ input = data.bytes ++ rest := by
  constructor
  · intro readAll
    simp only [read, Reader.bind_eq_ok_iff, Reader.word16_eq_ok_iff, Reader.bytes_eq_ok_iff,
      Reader.pure_eq_ok_iff] at readAll
    obtain ⟨uuLength, _, first, uu, _, ⟨uuCount, second⟩, length, _, third, bytes, _,
      ⟨count, fourth⟩, built, last⟩ := readAll
    subst first second third fourth built last
    refine ⟨⟨uuCount ▸ uuLength.toNat_lt, count ▸ length.toNat_lt⟩, ?_⟩
    simp only [UserData.bytes, uuCount, count, UInt16.ofNat_toNat, List.append_assoc]
  · rintro ⟨fits, starts⟩
    rw [starts]
    exact reads fits rest

namespace Resource

theorem length_template (resource : Resource) :
    resource.template.length = resource.encodedLength := by
  rw [template, List.length_append, Template.length_exactly, ResourceContent.length_template]
  rfl

theorem length_flatMap_template (resources : List Resource) :
    (resources.flatMap template).length = totalLength resources := by
  induction resources with
  | nil => rfl
  | cons resource rest ih =>
      rw [List.flatMap_cons, List.length_append, length_template, ih, totalLength_cons]

end Resource

namespace SignalBody

theorem readStatus_eq_ok_iff {status : ClientStatus} :
    readStatus input = .ok (status, rest) ↔
      status.data.length < 65536 ∧ input = statusBytes status ++ rest := by
  constructor
  · intro readAll
    simp only [readStatus, Reader.bind_eq_ok_iff, Reader.word16_eq_ok_iff,
      Reader.nsap_eq_ok_iff, Reader.bytes_eq_ok_iff, Reader.pure_eq_ok_iff] at readAll
    obtain ⟨reason, _, first, client, _, second, type, _, third, length, _, fourth, data, _,
      ⟨count, fifth⟩, built, last⟩ := readAll
    subst first second third fourth fifth built last
    refine ⟨count ▸ length.toNat_lt, ?_⟩
    simp only [statusBytes, count, UInt16.ofNat_toNat, List.append_assoc]
  · rintro ⟨fits, starts⟩
    rw [starts]
    exact reads_status fits rest

theorem length_confirmHead (confirm : SetupConfirm) : (confirmHead confirm).length = 34 := by
  simp only [confirmHead, List.length_append, SessionId.length_bytes, SessionId.length,
    Wire.length_word16, NsapAddress.length_bytes]

/-- The template of a body.  The two bytes after the session of a setup request are
blank. -/
def template (body : SignalBody) : Template :=
  match body with
  | setupRequest request =>
      exactly request.session.bytes ++ blank 2
        ++ exactly (request.client.bytes ++ request.server.bytes ++ request.userData.bytes)
  | setupConfirm confirm =>
      exactly (confirmHead confirm) ++ confirm.resources.flatMap Resource.template
        ++ exactly confirm.userData.bytes
  | connectRequest _ | release _ _ | statusRequest _ | statusConfirm _ | reset _ _
  | sessionInProgress _ => exactly body.bytes

/-- The template of a body has as many slots as the body has bytes. -/
theorem length_template (body : SignalBody) : body.template.length = body.encodedLength := by
  cases body with
  | setupRequest request =>
      simp only [template, List.length_append, Template.length_exactly, Template.length_blank,
        SessionId.length_bytes, SessionId.length, NsapAddress.length_bytes, UserData.length_bytes,
        encodedLength]
      omega
  | setupConfirm confirm =>
      simp only [template, List.length_append, Template.length_exactly, length_confirmHead,
        Resource.length_flatMap_template, UserData.length_bytes, encodedLength]
  | connectRequest _ | release _ _ | statusRequest _ | statusConfirm _ | reset _ _
  | sessionInProgress _ => rw [template, Template.length_exactly, length_bytes]

theorem isBlank_setupRequest {request : SetupRequest} {offset : Nat} :
    (setupRequest request).template.IsBlank offset ↔ offset = 10 ∨ offset = 11 := by
  simp only [template, Template.isBlank_append, Template.not_isBlank_exactly,
    Template.isBlank_blank, Template.length_exactly, SessionId.length_bytes, SessionId.length,
    and_false, exists_false, or_false, false_or]
  constructor
  · rintro ⟨place, beyond, within⟩
    omega
  · intro either
    exact ⟨offset - 10, by omega, by omega⟩

theorem isBlank_setupConfirm {confirm : SetupConfirm} {offset : Nat} :
    (setupConfirm confirm).template.IsBlank offset ↔
      ∃ before resource after, confirm.resources = before ++ resource :: after ∧
        ∃ place, offset = 34 + Resource.totalLength before + place ∧
          resource.template.IsBlank place := by
  simp only [template, Template.isBlank_append, Template.not_isBlank_exactly,
    Template.isBlank_flatMap, Template.length_exactly, length_confirmHead,
    Resource.length_flatMap_template, and_false, exists_false, or_false, false_or]
  constructor
  · intro ⟨_, beyond, before, resource, after, split, place, within, blank⟩
    exact ⟨before, resource, after, split, place, by omega, blank⟩
  · intro ⟨before, resource, after, split, place, within, blank⟩
    exact ⟨_, by rw [within, Nat.add_assoc], before, resource, after, split, place, rfl, blank⟩

theorem readRelease_eq_ok_iff {release : Release} :
    readRelease input = .ok (release, rest) ↔
      release.userData.Fits ∧ input = release.session.bytes
        ++ (Wire.word16 release.reason.value ++ (release.userData.bytes ++ rest)) := by
  simp only [readRelease, Reader.bind_eq_ok_iff, Reader.sessionId_eq_ok_iff,
    Reader.word16_eq_ok_iff, UserData.read_eq_ok_iff, Reader.pure_eq_ok_iff]
  constructor
  · intro ⟨session, _, first, reason, _, second, data, _, ⟨fits, third⟩, built, last⟩
    subst first second third built last
    exact ⟨fits, rfl⟩
  · intro ⟨fits, starts⟩
    exact ⟨_, _, starts, _, _, rfl, _, _, ⟨fits, rfl⟩, rfl, rfl⟩

theorem readSetupConfirm_eq_ok_iff {confirm : SetupConfirm} :
    readSetupConfirm input = .ok (confirm, rest) ↔
      (setupConfirm confirm).Fits ∧ (setupConfirm confirm).IsCanonical ∧
        (setupConfirm confirm).template.Starts input rest := by
  simp only [template, Template.starts_append, Template.starts_exactly]
  simp only [readSetupConfirm, Reader.bind_eq_ok_iff, Reader.sessionId_eq_ok_iff,
    Reader.word16_eq_ok_iff, Reader.nsap_eq_ok_iff,
    Reader.replicate_eq_ok_iff Resource.decode_eq_ok_iff, UserData.read_eq_ok_iff,
    Reader.pure_eq_ok_iff]
  constructor
  · rintro ⟨session, _, first, response, _, second, server, _, third, count, _, fourth, resources,
      _, ⟨length, valid, starts⟩, data, _, ⟨fits, fifth⟩, built, last⟩
    subst first second third fourth fifth built last
    refine ⟨⟨length ▸ count.toNat_lt, fun resource member => (valid resource member).1, fits⟩,
      fun resource member => (valid resource member).2, _, ⟨_, ?_, starts⟩, rfl⟩
    simp only [confirmHead, length, UInt16.ofNat_toNat, List.append_assoc]
  · rintro ⟨⟨few, contents, fits⟩, canonical, _, ⟨_, first, starts⟩, second⟩
    simp only [confirmHead, List.append_assoc] at first
    have count := UInt16.toNat_ofNat_of_lt' few
    exact ⟨_, _, first, _, _, rfl, _, _, rfl, _, _, rfl, _, _,
      ⟨count.symm, fun resource member => ⟨contents resource member, canonical resource member⟩,
        starts⟩, _, _, ⟨fits, second⟩, rfl, rfl⟩

/-- What is read as a body of a kind fills the template of the body, which is of that
kind. -/
theorem starts_of_read {kind : SignalKind} {body : SignalBody}
    (readBody : read kind input = .ok (body, rest)) :
    body.kind = kind ∧ body.Fits ∧ body.IsCanonical ∧ body.template.Starts input rest := by
  cases kind with
  | setupRequest =>
      simp only [read, Reader.bind_eq_ok_iff, Reader.sessionId_eq_ok_iff, Reader.word16_eq_ok_iff,
        Reader.nsap_eq_ok_iff, UserData.read_eq_ok_iff, Reader.pure_eq_ok_iff] at readBody
      obtain ⟨session, _, first, reserved, _, second, client, _, third, server, _, fourth, data, _,
        ⟨fits, fifth⟩, built, last⟩ := readBody
      subst first second third fourth fifth built last
      refine ⟨rfl, fits, trivial, ?_⟩
      simp only [template, Template.starts_append, Template.starts_exactly,
        Template.starts_blank_two]
      exact ⟨_, ⟨_, rfl, reserved, rfl⟩, by simp only [List.append_assoc]⟩
  | setupConfirm =>
      simp only [read, Reader.bind_eq_ok_iff, readSetupConfirm_eq_ok_iff,
        Reader.pure_eq_ok_iff] at readBody
      obtain ⟨confirm, _, valid, built, last⟩ := readBody
      subst built last
      exact ⟨rfl, valid⟩
  | connectRequest =>
      simp only [read, Reader.bind_eq_ok_iff, Reader.sessionId_eq_ok_iff, UserData.read_eq_ok_iff,
        Reader.pure_eq_ok_iff] at readBody
      obtain ⟨session, _, first, data, _, ⟨fits, second⟩, built, last⟩ := readBody
      subst first second built last
      exact ⟨rfl, fits, trivial, Template.starts_exactly.mpr (List.append_assoc ..).symm⟩
  | release step =>
      simp only [read, Reader.bind_eq_ok_iff, readRelease_eq_ok_iff,
        Reader.pure_eq_ok_iff] at readBody
      obtain ⟨release, _, ⟨fits, first⟩, built, last⟩ := readBody
      subst built last
      refine ⟨rfl, fits, trivial, Template.starts_exactly.mpr ?_⟩
      simp only [first, bytes, List.append_assoc]
  | statusRequest | statusConfirm =>
      simp only [read, Reader.bind_eq_ok_iff, readStatus_eq_ok_iff,
        Reader.pure_eq_ok_iff] at readBody
      obtain ⟨status, _, ⟨fits, first⟩, built, last⟩ := readBody
      subst built last
      exact ⟨rfl, fits, trivial, Template.starts_exactly.mpr first⟩
  | reset step =>
      simp only [read, Reader.bind_eq_ok_iff, Reader.nsap_eq_ok_iff, Reader.word16_eq_ok_iff,
        Reader.pure_eq_ok_iff] at readBody
      obtain ⟨client, _, first, reason, _, second, built, last⟩ := readBody
      subst first second built last
      exact ⟨rfl, trivial, trivial, Template.starts_exactly.mpr (List.append_assoc ..).symm⟩
  | sessionInProgress =>
      have each : ∀ {input id rest}, Reader.sessionId input = .ok (id, rest) ↔
          True ∧ (exactly id.bytes).Starts input rest := by
        intro input id rest
        rw [Reader.sessionId_eq_ok_iff, Template.starts_exactly, true_and]
      simp only [read, Reader.bind_eq_ok_iff, Reader.word16_eq_ok_iff, Reader.need_eq_ok_iff,
        Reader.replicate_eq_ok_iff each, Template.flatMap_exactly, Template.starts_exactly,
        Reader.pure_eq_ok_iff] at readBody
      obtain ⟨count, _, first, _, _, ⟨_, second⟩, ids, _, ⟨length, _, third⟩, built, last⟩ :=
        readBody
      subst first second third built last
      refine ⟨rfl, ?_, trivial, Template.starts_exactly.mpr ?_⟩
      · rw [Fits, length]
        exact count.toNat_lt
      · simp only [bytes, length, UInt16.ofNat_toNat, List.append_assoc]

/-- Bytes that fill the template of a body are read as the body. -/
theorem read_of_starts {body : SignalBody} (fits : body.Fits) (canonical : body.IsCanonical)
    (starts : body.template.Starts input rest) : read body.kind input = .ok (body, rest) := by
  cases body with
  | setupRequest request =>
      simp only [template, Template.starts_append, Template.starts_exactly,
        Template.starts_blank_two] at starts
      obtain ⟨_, ⟨_, first, reserved, second⟩, third⟩ := starts
      simp only [List.append_assoc] at third
      simp only [kind, read, Reader.bind_eq_ok_iff, Reader.sessionId_eq_ok_iff,
        Reader.word16_eq_ok_iff, Reader.nsap_eq_ok_iff, UserData.read_eq_ok_iff,
        Reader.pure_eq_ok_iff]
      exact ⟨_, _, first, _, _, second, _, _, third, _, _, rfl, _, _, ⟨fits, rfl⟩, rfl, rfl⟩
  | setupConfirm confirm =>
      simp only [kind, read, Reader.bind_eq_ok_iff, readSetupConfirm_eq_ok_iff,
        Reader.pure_eq_ok_iff]
      exact ⟨confirm, rest, ⟨fits, canonical, starts⟩, rfl, rfl⟩
  | connectRequest _ | release _ _ | statusRequest _ | statusConfirm _ | reset _ _
  | sessionInProgress _ =>
      rw [Template.starts_exactly.mp starts]
      exact reads fits canonical rest

end SignalBody

theorem SignalKind.ofWord?_eq_some_iff {value : UInt16} {kind : SignalKind} :
    ofWord? value = some kind ↔ value = kind.toWord := by
  constructor
  · intro named
    unfold ofWord? at named
    split at named
    case h_15 => cases named
    all_goals
      cases named
      exact UInt16.toNat_inj.mp (by assumption)
  · intro same
    rw [same, ofWord?_toWord]

namespace SignalHeader

/-- The template of a header.  The reserved byte is blank. -/
def template (header : SignalHeader) : Template :=
  exactly header.front ++ blank 1 ++ exactly header.lengths

theorem length_template (header : SignalHeader) : header.template.length = length := rfl

theorem read_eq_ok_iff {header : SignalHeader} :
    read input = .ok (header, rest) ↔ header.template.Starts input rest := by
  constructor
  · intro readAll
    simp only [read, Reader.bind_eq_ok_iff, Reader.byte_eq_ok_iff, Reader.need_eq_ok_iff,
      Reader.refusing_eq_ok_iff, Reader.word16_eq_ok_iff, ne_eq, Decidable.not_not] at readAll
    obtain ⟨_, _, ⟨_, first⟩, protocol, _, second, rfl, type, _, third, rfl, number, _, fourth,
      readAll⟩ := readAll
    cases named : SignalKind.ofWord? number with
    | none =>
        rw [named] at readAll
        cases readAll
    | some kind =>
        rw [named] at readAll
        simp only [Reader.bind_eq_ok_iff, Reader.byte_eq_ok_iff, Reader.word16_eq_ok_iff,
          Reader.word32_eq_ok_iff, Reader.pure_eq_ok_iff] at readAll
        obtain ⟨transaction, _, fifth, reserved, _, sixth, adaptation, _, seventh, count, _, eighth,
          built, last⟩ := readAll
        subst first second third fourth fifth sixth seventh eighth built last
        rw [SignalKind.ofWord?_eq_some_iff.mp named]
        simp only [template, Template.starts_append, Template.starts_exactly,
          Template.starts_blank_one]
        exact ⟨_, ⟨_, rfl, reserved, rfl⟩, rfl⟩
  · intro starts
    simp only [template, Template.starts_append, Template.starts_exactly,
      Template.starts_blank_one] at starts
    obtain ⟨_, ⟨_, first, reserved, second⟩, third⟩ := starts
    rw [first, second, third, ← List.cons_append, ← List.append_assoc]
    exact header.reads_around reserved rest

end SignalHeader

namespace Signal

/-- The template of a message. -/
def template (message : Signal) : Template :=
  message.header.template ++ exactly message.adaptation ++ message.body.template

theorem starts_template_iff {message : Signal} :
    message.template.Starts input rest ↔ ∃ payload left,
      message.header.template.Starts input payload ∧ payload = message.adaptation ++ left ∧
        message.body.template.Starts left rest := by
  simp only [template, Template.starts_append, Template.starts_exactly]
  constructor
  · intro ⟨left, ⟨payload, first, second⟩, third⟩
    exact ⟨payload, left, first, second, third⟩
  · intro ⟨payload, left, first, second, third⟩
    exact ⟨left, ⟨payload, first, second⟩, third⟩

/-- A datagram is read as a message exactly when it fills the template of the message,
and the message fits and is no other in disguise. -/
theorem decode_eq_ok_iff_starts {datagram : Bytes} {message : Signal} :
    decode datagram = .ok message ↔
      message.IsCanonical ∧ message.adaptation.length < 256 ∧ message.payloadLength < 65536 ∧
        message.template.Starts datagram [] := by
  rw [decode_eq_ok_iff, starts_template_iff]
  constructor
  · rintro ⟨header, payload, left, readHeader, declared, readAdaptation, readBody, transaction⟩
    obtain ⟨adaptationLength, split⟩ := Reader.bytes_eq_ok_iff.mp readAdaptation
    obtain ⟨kind, fits, canonical, starts⟩ := SignalBody.starts_of_read readBody
    have length : payload.length = message.payloadLength := by
      rw [split, List.length_append, starts.length_eq, SignalBody.length_template]
      rfl
    have same : message.header = header := by
      rw [Signal.header, Signal.kind, kind, transaction, adaptationLength, ← length, declared,
        UInt8.ofNat_toNat, UInt16.ofNat_toNat]
    rw [same]
    exact ⟨canonical, adaptationLength ▸ header.adaptationLength.toNat_lt,
      length ▸ declared ▸ header.messageLength.toNat_lt, payload, left,
      SignalHeader.read_eq_ok_iff.mp readHeader, split, starts⟩
  · rintro ⟨canonical, adaptationFits, short, payload, left, header, split, starts⟩
    have fits : message.body.Fits := by
      apply SignalBody.fits_of_encodedLength_lt
      simp only [payloadLength] at short
      omega
    have length : payload.length = message.payloadLength := by
      rw [split, List.length_append, starts.length_eq, SignalBody.length_template]
      rfl
    refine ⟨message.header, payload, left, SignalHeader.read_eq_ok_iff.mpr header, ?_,
      Reader.bytes_eq_ok_iff.mpr ⟨?_, split⟩, SignalBody.read_of_starts fits canonical starts, rfl⟩
    · rw [length]
      exact (UInt16.toNat_ofNat_of_lt' short).symm
    · exact (UInt8.toNat_ofNat_of_lt' adaptationFits).symm

/-! ## Reserved bytes -/

/-- Where the body of a message starts in its datagram. -/
def bodyOffset (message : Signal) : Nat := SignalHeader.length + message.adaptation.length

/-- The places of the reserved bytes of a message in its datagram: one in the header, two
after the session of a setup request, and in each resource of a setup confirm whose type is
known the two bytes of its field count and, in a modulation, two more. -/
inductive IsReserved (message : Signal) : Nat → Prop where
  | header : IsReserved message 8
  | setupRequest {request : SetupRequest} {place : Nat}
      (asks : message.body = .setupRequest request) (within : place = 10 ∨ place = 11) :
      IsReserved message (message.bodyOffset + place)
  | fieldCount {confirm : SetupConfirm} {before after : List Resource} {resource : Resource}
      {place : Nat} (confirms : message.body = .setupConfirm confirm)
      (split : confirm.resources = before ++ resource :: after)
      (known : resource.content.type ∈ ResourceContent.knownTypes)
      (within : place = 12 ∨ place = 13) :
      IsReserved message (message.bodyOffset + 34 + Resource.totalLength before + place)
  | modulation {confirm : SetupConfirm} {before after : List Resource} {resource : Resource}
      {modulation : AtscModulation} {place : Nat}
      (confirms : message.body = .setupConfirm confirm)
      (split : confirm.resources = before ++ resource :: after)
      (modulates : resource.content = .atscModulation modulation)
      (within : place = 22 ∨ place = 26) :
      IsReserved message (message.bodyOffset + 34 + Resource.totalLength before + place)

/-- The slots of a message outside its body that are blank. -/
theorem isBlank_template_iff {message : Signal} {offset : Nat} :
    message.template.IsBlank offset ↔
      offset = 8 ∨ ∃ place, offset = message.bodyOffset + place ∧
        message.body.template.IsBlank place := by
  have header : (exactly message.header.front).length = 8 := rfl
  have length : (message.header.template ++ exactly message.adaptation).length =
      message.bodyOffset := by
    rw [List.length_append, SignalHeader.length_template, Template.length_exactly, bodyOffset]
  rw [template, Template.isBlank_append, length]
  refine or_congr_left ?_
  simp only [SignalHeader.template, Template.isBlank_append, Template.not_isBlank_exactly,
    Template.isBlank_blank, header, and_false, exists_false, or_false, false_or,
    Nat.lt_one_iff, exists_eq_right]

/-- The reserved bytes of a message that can be read back fill the blank slots of its
template. -/
theorem isReserved_iff_isBlank {message : Signal} {offset : Nat}
    (canonical : message.IsCanonical) :
    message.IsReserved offset ↔ message.template.IsBlank offset := by
  rw [isBlank_template_iff]
  have member : ∀ {confirm before after} {resource : Resource},
      message.body = .setupConfirm confirm → confirm.resources = before ++ resource :: after →
        resource.IsCanonical := by
    intro confirm before after resource confirms split
    rw [IsCanonical, confirms] at canonical
    exact canonical resource (by simp [split])
  constructor
  · intro reserved
    cases reserved with
    | header => exact .inl rfl
    | setupRequest asks within =>
        exact .inr ⟨_, rfl, asks ▸ SignalBody.isBlank_setupRequest.mpr within⟩
    | fieldCount confirms split known within =>
        refine .inr ⟨_, by rw [Nat.add_assoc, Nat.add_assoc],
          confirms ▸ SignalBody.isBlank_setupConfirm.mpr
            ⟨_, _, _, split, _, Nat.add_assoc .. |>.symm,
            (Resource.isBlank_template_iff (member confirms split)).mpr (.inl ⟨known, within⟩)⟩⟩
    | modulation confirms split modulates within =>
        refine .inr ⟨_, by rw [Nat.add_assoc, Nat.add_assoc],
          confirms ▸ SignalBody.isBlank_setupConfirm.mpr
            ⟨_, _, _, split, _, Nat.add_assoc .. |>.symm,
            (Resource.isBlank_template_iff (member confirms split)).mpr
              (.inr ⟨⟨_, modulates⟩, within⟩)⟩⟩
  · intro either
    cases either with
    | inl header => exact header ▸ .header
    | inr within =>
        obtain ⟨place, beyond, blank⟩ := within
        cases body : message.body with
        | setupRequest request =>
            rw [body, SignalBody.isBlank_setupRequest] at blank
            exact beyond ▸ .setupRequest body blank
        | setupConfirm confirm =>
            rw [body, SignalBody.isBlank_setupConfirm] at blank
            obtain ⟨before, resource, after, split, inner, inside, blank⟩ := blank
            rw [beyond, inside, ← Nat.add_assoc, ← Nat.add_assoc]
            cases (Resource.isBlank_template_iff (member body split)).mp blank with
            | inl known => exact .fieldCount body split known.1 known.2
            | inr modulated =>
                obtain ⟨⟨modulation, modulates⟩, within⟩ := modulated
                exact .modulation body split modulates within
        | connectRequest _ | release _ _ | statusRequest _ | statusConfirm _ | reset _ _
        | sessionInProgress _ =>
            rw [body] at blank
            exact absurd blank Template.not_isBlank_exactly

/-- A datagram that is read as a message has an encoding of the same length, which is read as
the message too and differs from the datagram in reserved bytes at most.  The datagrams that
are read as the message are those that agree with this one in all other bytes. -/
theorem encode_of_decode {datagram : Bytes} {message : Signal}
    (decoded : decode datagram = .ok message) :
    (∃ encoded, message.encode = .ok encoded ∧ encoded.length = datagram.length ∧
      decode encoded = .ok message ∧
      ∀ offset, ¬ message.IsReserved offset → encoded[offset]? = datagram[offset]?) ∧
    ∀ other, decode other = .ok message ↔
      other.length = datagram.length ∧
        ∀ offset, ¬ message.IsReserved offset → other[offset]? = datagram[offset]? := by
  obtain ⟨canonical, adaptationFits, short, starts⟩ := decode_eq_ok_iff_starts.mp decoded
  have agreeing : ∀ other, decode other = .ok message ↔
      other.length = datagram.length ∧
        ∀ offset, ¬ message.IsReserved offset → other[offset]? = datagram[offset]? := by
    intro other
    rw [decode_eq_ok_iff_starts]
    simp only [canonical, adaptationFits, short, true_and, isReserved_iff_isBlank canonical]
    exact starts.starts_iff
  have encoded : message.encode = .ok _ := encode_eq_ok_iff.mpr ⟨adaptationFits, short, rfl⟩
  have again := decode_of_encode_eq_ok canonical encoded
  obtain ⟨length, agree⟩ := (agreeing _).mp again
  exact ⟨⟨_, encoded, length, again, agree⟩, agreeing⟩

/-- A confirm of one modulation, from a sender that leaves all sorts of values in reserved
bytes. -/
def untidyGrant : Bytes :=
  [0x11, 0x02, 0x40, 0x11, 0, 0, 0, 7, 0x00, 0, 0, 65]
    ++ List.replicate 6 0 ++ [0, 0, 0, 5] ++ [0, 0] ++ List.replicate 20 0 ++ [0, 1]
    ++ [0, 1, 0xF0, 0x01, 0, 3, 0, 3, 4, 5, 0, 15]
    ++ [0xAB, 0xCD, 1, 2, 3, 0x20, 0x00, 0x51, 0xCB, 0x99, 0x12, 4, 5, 6, 0x34]
    ++ [0, 0, 0, 0]

/-- The message that the untidy confirm is read as. -/
def grant : Signal where
  transaction := 7
  adaptation := []
  body := .setupConfirm
    { session := ⟨.zero, 5⟩
      response := ⟨0⟩
      server := .zero
      resources := [⟨1, 3, 3, 4, 5, .atscModulation ⟨1, 2, 3, .other 0x20, 5360537, 4, 5, 6⟩⟩]
      userData := ⟨[], []⟩ }

theorem encode_of_decode_untidyGrant :
    decode untidyGrant = .ok grant ∧
    ∃ encoded, grant.encode = .ok encoded ∧ encoded ≠ untidyGrant ∧
      encoded.length = untidyGrant.length ∧ decode encoded = .ok grant ∧
      ∀ offset, ¬ grant.IsReserved offset → encoded[offset]? = untidyGrant[offset]? := by
  have decoded : decode untidyGrant = .ok grant := rfl
  obtain ⟨⟨encoded, encodes, length, again, agree⟩, _⟩ := encode_of_decode decoded
  refine ⟨decoded, encoded, encodes, ?_, length, again, agree⟩
  intro same
  have tidy : grant.encode.toOption ≠ some untidyGrant := by decide
  exact tidy (congrArg Except.toOption (same ▸ encodes))

end Signal

end OnDemand
