import Mathlib.Algebra.GroupWithZero.Nat
import OnDemand.Proofs.Resource.RoundTrip
import OnDemand.Signal.Codec

/-!
# Session messages come back from their datagrams

Every length field of a message is bounded by the length of the message as a whole,
so a message has an encoding exactly when its adaptation header and its payload
fit, and the encoding is read back as the message.  The lengths that are computed
apart from the bytes, those of resources and of user data, are the lengths of the
blocks that are written.
-/

namespace OnDemand

theorem Reader.Reads.sessionId (id : SessionId) : Reader.sessionId.Reads id.bytes id := by
  refine .need (Nat.le_of_eq id.length_bytes.symm) ?_
  exact .bind (.octets id.device.octets) (.last (.word32 _))

theorem Reader.Reads.nsap (address : NsapAddress) : Reader.nsap.Reads address.bytes address :=
  .last (.octets address.octets)

@[simp] theorem NsapAddress.length_bytes (address : NsapAddress) : address.bytes.length = 20 :=
  address.octets.property

theorem SessionId.length_flatMap_bytes (ids : List SessionId) :
    (ids.flatMap bytes).length = 10 * ids.length := by
  induction ids with
  | nil => rfl
  | cons id ids ih =>
      rw [List.flatMap_cons, List.length_append, length_bytes, ih, List.length_cons, length]
      omega

namespace UserData

/-- Each part of user data fits its length field. -/
def Fits (data : UserData) : Prop := data.uu.length < 65536 ∧ data.privateData.length < 65536

/-- The bytes of user data that fits. -/
def bytes (data : UserData) : Bytes :=
  Wire.word16 (UInt16.ofNat data.uu.length) ++ data.uu
    ++ Wire.word16 (UInt16.ofNat data.privateData.length) ++ data.privateData

theorem encode_eq_ok_iff {data : UserData} {encoded : Bytes} :
    data.encode = .ok encoded ↔ data.Fits ∧ encoded = data.bytes := by
  by_cases uuFits : data.uu.length < 65536 <;>
    by_cases privateFits : data.privateData.length < 65536 <;>
      simp [encode, Wire.length16, uuFits, privateFits, Fits, bytes, pure, bind, Except.pure,
        Except.bind, eq_comm]

theorem length_bytes (data : UserData) : data.bytes.length = data.encodedLength := by
  simp only [bytes, List.length_append, Wire.length_word16, encodedLength]
  omega

theorem fits_of_encodedLength_lt {data : UserData} (short : data.encodedLength < 65536) :
    data.Fits := by
  simp only [encodedLength] at short
  exact ⟨by omega, by omega⟩

theorem reads {data : UserData} (fits : data.Fits) : read.Reads data.bytes data := by
  have uu : data.uu.length = (UInt16.ofNat data.uu.length).toNat :=
    (UInt16.toNat_ofNat_of_lt' fits.1).symm
  have privateData : data.privateData.length = (UInt16.ofNat data.privateData.length).toNat :=
    (UInt16.toNat_ofNat_of_lt' fits.2).symm
  simp only [bytes, List.append_assoc]
  exact .bind (.word16 _) (.bind (.bytes _ uu) (.bind (.word16 _) (.last (.bytes _ privateData))))

end UserData

namespace Resource

/-- The bytes of resources that follow each other. -/
def allBytes (resources : List Resource) : Bytes := resources.flatMap bytes

/-- The number of bytes of resources that follow each other. -/
def totalLength (resources : List Resource) : Nat := (resources.map encodedLength).sum

theorem encodeAll_eq_ok_iff {resources : List Resource} {encoded : Bytes} :
    encodeAll resources = .ok encoded ↔
      (∀ resource ∈ resources, resource.content.dataLength < 65536) ∧
        encoded = allBytes resources := by
  induction resources generalizing encoded with
  | nil => simp [encodeAll, allBytes, eq_comm]
  | cons resource resources ih =>
      rw [encodeAll, bind_eq_ok_iff_of_iff encode_eq_ok_iff, bind_eq_ok_iff_of_iff ih,
        List.forall_mem_cons, and_assoc]
      simp only [allBytes, List.flatMap_cons, pure, Except.pure, Except.ok.injEq, eq_comm]

theorem length_allBytes (resources : List Resource) :
    (allBytes resources).length = totalLength resources := by
  simp only [allBytes, totalLength, List.length_flatMap]
  congr 2
  funext resource
  exact resource.length_bytes

@[simp] theorem totalLength_cons (resource : Resource) (resources : List Resource) :
    totalLength (resource :: resources) = resource.encodedLength + totalLength resources := by
  simp only [totalLength, List.map_cons, List.sum_cons]

/-- Resources of a bounded total length are few. -/
theorem length_le_totalLength (resources : List Resource) :
    resources.length ≤ totalLength resources := by
  induction resources with
  | nil => exact Nat.le_refl 0
  | cons resource resources ih =>
      simp only [totalLength_cons, encodedLength, List.length_cons]
      omega

/-- Resources of a bounded total length have bounded contents. -/
theorem dataLength_le_totalLength {resources : List Resource} {resource : Resource}
    (member : resource ∈ resources) : resource.content.dataLength ≤ totalLength resources := by
  induction resources with
  | nil => cases member
  | cons first resources ih =>
      rw [totalLength_cons]
      rcases List.mem_cons.mp member with rfl | later
      · simp only [encodedLength]
        omega
      · have := ih later
        omega

theorem reads_all {resources : List Resource}
    (fits : ∀ resource ∈ resources, resource.content.dataLength < 65536)
    (canonical : ∀ resource ∈ resources, resource.IsCanonical) :
    (Reader.replicate decode resources.length).Reads (allBytes resources) resources :=
  .replicate resources fun resource member =>
    resource.reads (fits resource member) (canonical resource member)

end Resource

namespace SignalBody

/-- The number of bytes of a body. -/
def encodedLength : SignalBody → Nat
  | setupRequest body => 52 + body.userData.encodedLength
  | setupConfirm body => 34 + Resource.totalLength body.resources + body.userData.encodedLength
  | connectRequest body => 10 + body.userData.encodedLength
  | release _ body => 12 + body.userData.encodedLength
  | statusRequest body | statusConfirm body => 26 + body.data.length
  | reset _ _ => 22
  | sessionInProgress sessions => 2 + 10 * sessions.length

/-- The resources of a body can be read back. -/
def IsCanonical : SignalBody → Prop
  | setupConfirm body => ∀ resource ∈ body.resources, resource.IsCanonical
  | _ => True

/-- Every part of a body fits its length field. -/
def Fits : SignalBody → Prop
  | setupRequest body => body.userData.Fits
  | setupConfirm body =>
      body.resources.length < 65536
        ∧ (∀ resource ∈ body.resources, resource.content.dataLength < 65536)
        ∧ body.userData.Fits
  | connectRequest body => body.userData.Fits
  | release _ body => body.userData.Fits
  | statusRequest body | statusConfirm body => body.data.length < 65536
  | reset _ _ => True
  | sessionInProgress sessions => sessions.length < 65536

/-- The bytes of a status. -/
def statusBytes (status : ClientStatus) : Bytes :=
  Wire.word16 status.reason.value ++ status.client.bytes ++ Wire.word16 status.type
    ++ Wire.word16 (UInt16.ofNat status.data.length) ++ status.data

/-- The bytes of a setup confirm in front of its resources. -/
def confirmHead (confirm : SetupConfirm) : Bytes :=
  confirm.session.bytes ++ Wire.word16 confirm.response.value ++ confirm.server.bytes
    ++ Wire.word16 (UInt16.ofNat confirm.resources.length)

/-- The bytes of a body that fits. -/
def bytes : SignalBody → Bytes
  | setupRequest body =>
      body.session.bytes ++ Wire.word16 setupReserved ++ body.client.bytes
        ++ body.server.bytes ++ body.userData.bytes
  | setupConfirm body =>
      confirmHead body ++ Resource.allBytes body.resources ++ body.userData.bytes
  | connectRequest body => body.session.bytes ++ body.userData.bytes
  | release _ body =>
      body.session.bytes ++ Wire.word16 body.reason.value ++ body.userData.bytes
  | statusRequest body | statusConfirm body => statusBytes body
  | reset _ body => body.client.bytes ++ Wire.word16 body.reason.value
  | sessionInProgress sessions =>
      Wire.word16 (UInt16.ofNat sessions.length) ++ sessions.flatMap SessionId.bytes

theorem encode_eq_ok_iff {body : SignalBody} {encoded : Bytes} :
    body.encode = .ok encoded ↔ body.Fits ∧ encoded = body.bytes := by
  cases body with
  | setupRequest body =>
      rw [encode, bind_eq_ok_iff_of_iff UserData.encode_eq_ok_iff]
      simp only [pure, Except.pure, Except.ok.injEq, Fits, bytes, eq_comm]
  | setupConfirm body =>
      rw [encode, bind_eq_ok_iff_of_iff Wire.length16_eq_ok_iff,
        bind_eq_ok_iff_of_iff Resource.encodeAll_eq_ok_iff,
        bind_eq_ok_iff_of_iff UserData.encode_eq_ok_iff]
      simp only [pure, Except.pure, Except.ok.injEq, Fits, bytes, confirmHead, and_assoc, eq_comm]
  | connectRequest body =>
      rw [encode, bind_eq_ok_iff_of_iff UserData.encode_eq_ok_iff]
      simp only [pure, Except.pure, Except.ok.injEq, Fits, bytes, eq_comm]
  | release step body =>
      rw [encode, bind_eq_ok_iff_of_iff UserData.encode_eq_ok_iff]
      simp only [pure, Except.pure, Except.ok.injEq, Fits, bytes, eq_comm]
  | statusRequest body | statusConfirm body =>
      rw [encode, bind_eq_ok_iff_of_iff Wire.length16_eq_ok_iff]
      simp only [pure, Except.pure, Except.ok.injEq, Fits, bytes, statusBytes, eq_comm]
  | reset step body =>
      simp only [encode, Except.ok.injEq, Fits, bytes, true_and, eq_comm]
  | sessionInProgress sessions =>
      rw [encode, bind_eq_ok_iff_of_iff Wire.length16_eq_ok_iff]
      simp only [pure, Except.pure, Except.ok.injEq, Fits, bytes, eq_comm]

theorem length_bytes (body : SignalBody) : body.bytes.length = body.encodedLength := by
  cases body with
  | setupRequest body =>
      simp only [bytes, List.length_append, SessionId.length_bytes, SessionId.length,
        Wire.length_word16, NsapAddress.length_bytes, UserData.length_bytes, encodedLength]
  | setupConfirm body =>
      simp only [bytes, confirmHead, List.length_append, SessionId.length_bytes,
        SessionId.length, Wire.length_word16, NsapAddress.length_bytes,
        Resource.length_allBytes, UserData.length_bytes, encodedLength]
  | connectRequest body =>
      simp only [bytes, List.length_append, SessionId.length_bytes, SessionId.length,
        UserData.length_bytes, encodedLength]
  | release step body =>
      simp only [bytes, List.length_append, SessionId.length_bytes, SessionId.length,
        Wire.length_word16, UserData.length_bytes, encodedLength]
  | statusRequest body | statusConfirm body =>
      simp only [bytes, statusBytes, List.length_append, Wire.length_word16,
        NsapAddress.length_bytes, encodedLength]
  | reset step body =>
      simp only [bytes, List.length_append, NsapAddress.length_bytes, Wire.length_word16,
        encodedLength]
  | sessionInProgress sessions =>
      simp only [bytes, List.length_append, Wire.length_word16, encodedLength,
        SessionId.length_flatMap_bytes]

/-- A body that fits the length of a message has parts that fit their fields. -/
theorem fits_of_encodedLength_lt {body : SignalBody} (short : body.encodedLength < 65536) :
    body.Fits := by
  cases body with
  | setupRequest body | connectRequest body | release _ body =>
      simp only [encodedLength] at short
      exact UserData.fits_of_encodedLength_lt (by omega)
  | setupConfirm body =>
      simp only [encodedLength] at short
      refine ⟨?_, ?_, UserData.fits_of_encodedLength_lt (by omega)⟩
      · have few := Resource.length_le_totalLength body.resources
        omega
      · intro resource member
        have bounded := Resource.dataLength_le_totalLength member
        omega
  | statusRequest body | statusConfirm body =>
      simp only [encodedLength] at short
      change body.data.length < 65536
      omega
  | reset step body => trivial
  | sessionInProgress sessions =>
      simp only [encodedLength] at short
      change sessions.length < 65536
      omega

theorem reads_status {status : ClientStatus} (fits : status.data.length < 65536) :
    readStatus.Reads (statusBytes status) status := by
  have length : status.data.length = (UInt16.ofNat status.data.length).toNat :=
    (UInt16.toNat_ofNat_of_lt' fits).symm
  simp only [statusBytes, List.append_assoc]
  exact .bind (.word16 _) (.bind (.nsap _) (.bind (.word16 _)
    (.bind (.word16 _) (.last (.bytes _ length)))))

/-- A body is read back from its bytes. -/
theorem reads {body : SignalBody} (fits : body.Fits) (canonical : body.IsCanonical) :
    (read body.kind).Reads body.bytes body := by
  cases body with
  | setupRequest body =>
      simp only [bytes, List.append_assoc]
      exact .bind (.sessionId _) (.bind (.word16 _) (.bind (.nsap _) (.bind (.nsap _)
        (.last (UserData.reads fits)))))
  | setupConfirm body =>
      obtain ⟨few, contents, userData⟩ := fits
      have count : (UInt16.ofNat body.resources.length).toNat = body.resources.length :=
        UInt16.toNat_ofNat_of_lt' few
      simp only [bytes, confirmHead, List.append_assoc]
      refine .last ?_
      refine .bind (.sessionId _) (.bind (.word16 _) (.bind (.nsap _) (.bind (.word16 _) ?_)))
      rw [count]
      exact .bind (Resource.reads_all contents canonical) (.last (UserData.reads userData))
  | connectRequest body => exact .bind (.sessionId _) (.last (UserData.reads fits))
  | release step body =>
      simp only [bytes, List.append_assoc]
      exact .last (.bind (.sessionId _) (.bind (.word16 _) (.last (UserData.reads fits))))
  | statusRequest body | statusConfirm body => exact .last (reads_status fits)
  | reset step body => exact .bind (.nsap _) (.last (.word16 _))
  | sessionInProgress sessions =>
      have count : (UInt16.ofNat sessions.length).toNat = sessions.length :=
        UInt16.toNat_ofNat_of_lt' fits
      refine .bind (.word16 _) ?_
      rw [count]
      refine .need ?_ (.last (.replicate sessions fun id _ => .sessionId id))
      rw [SessionId.length_flatMap_bytes]
      exact Nat.le_of_eq (Nat.mul_comm ..)

/-- User data is written last. -/
theorem bytes_of_userData {body : SignalBody} {data : UserData}
    (present : body.userData? = some data) : ∃ front, body.bytes = front ++ data.bytes := by
  cases body with
  | setupRequest body | setupConfirm body | connectRequest body | release _ body =>
      cases present
      exact ⟨_, rfl⟩
  | statusRequest _ | statusConfirm _ | reset _ _ | sessionInProgress _ => cases present

theorem fits_userData {body : SignalBody} {data : UserData}
    (present : body.userData? = some data) (fits : body.Fits) : data.Fits := by
  cases body with
  | setupRequest body | connectRequest body | release _ body =>
      cases present
      exact fits
  | setupConfirm body =>
      cases present
      exact fits.2.2
  | statusRequest _ | statusConfirm _ | reset _ _ | sessionInProgress _ => cases present

end SignalBody

theorem SignalKind.ofWord?_toWord (kind : SignalKind) :
    SignalKind.ofWord? kind.toWord = some kind := by
  cases kind with
  | release step | reset step => cases step <;> rfl
  | _ => rfl

namespace SignalHeader

@[simp] theorem length_bytes (header : SignalHeader) : header.bytes.length = length := rfl

/-- The bytes of a header in front of the reserved byte. -/
def front (header : SignalHeader) : Bytes :=
  discriminator :: family :: Wire.word16 header.kind.toWord ++ Wire.word32 header.transaction

/-- The bytes of a header after the reserved byte. -/
def lengths (header : SignalHeader) : Bytes :=
  header.adaptationLength :: Wire.word16 header.messageLength

/-- A header is read back whatever its reserved byte is. -/
theorem reads_around (header : SignalHeader) (reserved : UInt8) :
    read.Reads (header.front ++ reserved :: header.lengths) header := by
  have kind := header.kind.ofWord?_toWord
  refine .need (Nat.le_refl length) ?_
  simp only [front, List.cons_append, List.append_assoc]
  refine .byte (.byte (.bind (.word16 _) ?_))
  rw [kind]
  exact .bind (.word32 _) (.byte (.byte (.last (.word16 _))))

theorem reads (header : SignalHeader) : read.Reads header.bytes header :=
  header.reads_around reserved

end SignalHeader

namespace Signal

/-- The number of bytes that follow the header of a message. -/
def payloadLength (message : Signal) : Nat :=
  message.adaptation.length + message.body.encodedLength

/-- The message can be read back. -/
def IsCanonical (message : Signal) : Prop := message.body.IsCanonical

/-- The header of a message that fits. -/
def header (message : Signal) : SignalHeader :=
  ⟨message.kind, message.transaction, UInt8.ofNat message.adaptation.length,
    UInt16.ofNat message.payloadLength⟩

theorem encode_eq_ok_iff {message : Signal} {encoded : Bytes} :
    message.encode = .ok encoded ↔
      message.adaptation.length < 256 ∧ message.payloadLength < 65536 ∧
        encoded = message.header.bytes ++ (message.adaptation ++ message.body.bytes) := by
  have payload : (message.adaptation ++ message.body.bytes).length = message.payloadLength := by
    rw [List.length_append, message.body.length_bytes, payloadLength]
  rw [encode, bind_eq_ok_iff_of_iff Wire.length8_eq_ok_iff,
    bind_eq_ok_iff_of_iff SignalBody.encode_eq_ok_iff,
    bind_eq_ok_iff_of_iff Wire.length16_eq_ok_iff, payload]
  simp only [pure, Except.pure, Except.ok.injEq, header, eq_comm]
  constructor
  · rintro ⟨adaptationFits, _, rest⟩
    exact ⟨adaptationFits, rest⟩
  · rintro ⟨adaptationFits, short, same⟩
    refine ⟨adaptationFits, SignalBody.fits_of_encodedLength_lt ?_, short, same⟩
    simp only [payloadLength] at short
    omega

/-- A datagram is read as a message by reading its parts in order, where the length
that is declared is that of the payload and nothing is left after the body. -/
theorem decode_eq_ok_iff {datagram : Bytes} {message : Signal} :
    decode datagram = .ok message ↔
      ∃ header payload input,
        SignalHeader.read datagram = .ok (header, payload) ∧
        payload.length = header.messageLength.toNat ∧
        Reader.bytes header.adaptationLength.toNat payload = .ok (message.adaptation, input) ∧
        SignalBody.read header.kind input = .ok (message.body, []) ∧
        message.transaction = header.transaction := by
  constructor
  · intro decoded
    rw [decode, bind_eq_ok_iff] at decoded
    obtain ⟨⟨header, payload⟩, readHeader, decoded⟩ := decoded
    by_cases declared : payload.length = header.messageLength.toNat
    · simp only [declared, ne_eq, not_true_eq_false, if_false] at decoded
      rw [bind_eq_ok_iff] at decoded
      obtain ⟨⟨adaptation, input⟩, readAdaptation, decoded⟩ := decoded
      rw [bind_eq_ok_iff] at decoded
      obtain ⟨⟨body, left⟩, readBody, decoded⟩ := decoded
      cases left with
      | nil =>
          cases decoded
          exact ⟨header, payload, input, readHeader, declared, readAdaptation, readBody, rfl⟩
      | cons byte left => cases decoded
    · simp only [ne_eq, declared, not_false_eq_true, if_true] at decoded
      cases decoded
  · rintro ⟨header, payload, input, readHeader, declared, readAdaptation, readBody, transaction⟩
    rw [decode, bind_eq_ok_iff]
    refine ⟨_, readHeader, ?_⟩
    simp only [declared, ne_eq, not_true_eq_false, if_false]
    rw [bind_eq_ok_iff]
    refine ⟨_, readAdaptation, ?_⟩
    rw [bind_eq_ok_iff]
    refine ⟨_, readBody, ?_⟩
    rw [← transaction]
    rfl

/-- A message that fits is read back from its datagram. -/
theorem decode_of_encode_eq_ok {message : Signal} {datagram : Bytes}
    (canonical : message.IsCanonical) (encoded : message.encode = .ok datagram) :
    decode datagram = .ok message := by
  obtain ⟨adaptationFits, short, rfl⟩ := encode_eq_ok_iff.mp encoded
  have adaptation : message.adaptation.length = message.header.adaptationLength.toNat :=
    (UInt8.toNat_ofNat_of_lt' adaptationFits).symm
  have declared : (message.adaptation ++ message.body.bytes).length =
      message.header.messageLength.toNat := by
    rw [List.length_append, message.body.length_bytes]
    exact (UInt16.toNat_ofNat_of_lt' short).symm
  have bodyFits : message.body.Fits := by
    apply SignalBody.fits_of_encodedLength_lt
    simp only [payloadLength] at short
    omega
  have readBody := SignalBody.reads bodyFits canonical []
  rw [List.append_nil] at readBody
  exact decode_eq_ok_iff.mpr ⟨_, _, _, message.header.reads _, declared,
    Reader.Reads.bytes _ adaptation _, readBody, rfl⟩

theorem length_of_encode_eq_ok {message : Signal} {datagram : Bytes}
    (encoded : message.encode = .ok datagram) :
    datagram.length = SignalHeader.length + message.payloadLength := by
  obtain ⟨_, _, rfl⟩ := encode_eq_ok_iff.mp encoded
  rw [List.length_append, List.length_append, SignalHeader.length_bytes,
    message.body.length_bytes, payloadLength]

/-- Where the blocks of a message lie in a datagram.  A resource comes after the
header, the adaptation header, the head of the confirm and the resources before it;
user data comes last. -/
structure IsLaidOutIn (message : Signal) (datagram : Bytes) : Prop where
  length : datagram.length = SignalHeader.length + message.payloadLength
  resource : ∀ confirm before resource after,
    message.body = .setupConfirm confirm →
    confirm.resources = before ++ resource :: after →
    ∃ front block back,
      datagram = front ++ block ++ back ∧
      front.length = SignalHeader.length + message.adaptation.length + 34 +
        Resource.totalLength before ∧
      resource.encode = .ok block ∧ block.length = resource.encodedLength
  userData : ∀ data, message.body.userData? = some data →
    ∃ front block,
      datagram = front ++ block ∧ data.encode = .ok block ∧ block.length = data.encodedLength

/-- The encoding of a message consists of blocks of the lengths that were computed. -/
theorem isLaidOutIn_of_encode_eq_ok {message : Signal} {datagram : Bytes}
    (encoded : message.encode = .ok datagram) : message.IsLaidOutIn datagram := by
  have length := length_of_encode_eq_ok encoded
  obtain ⟨_, short, rfl⟩ := encode_eq_ok_iff.mp encoded
  have bodyFits : message.body.Fits := by
    apply SignalBody.fits_of_encodedLength_lt
    simp only [payloadLength] at short
    omega
  refine ⟨length, ?_, ?_⟩
  · intro confirm before resource after confirms split
    rw [confirms] at bodyFits
    have fits : resource.content.dataLength < 65536 :=
      bodyFits.2.1 resource (by simp [split])
    refine ⟨message.header.bytes ++ message.adaptation ++ SignalBody.confirmHead confirm ++
        Resource.allBytes before, resource.bytes,
      Resource.allBytes after ++ confirm.userData.bytes, ?_, ?_,
      Resource.encode_eq_ok_iff.mpr ⟨fits, rfl⟩, resource.length_bytes⟩
    · simp only [confirms, SignalBody.bytes, split, Resource.allBytes, List.flatMap_append,
        List.flatMap_cons, List.append_assoc]
    · simp only [SignalBody.confirmHead, List.length_append, SignalHeader.length_bytes,
        SessionId.length_bytes, SessionId.length, Wire.length_word16,
        NsapAddress.length_bytes, Resource.length_allBytes]
  · intro data present
    obtain ⟨front, last⟩ := SignalBody.bytes_of_userData present
    refine ⟨message.header.bytes ++ message.adaptation ++ front, data.bytes, ?_,
      UserData.encode_eq_ok_iff.mpr ⟨SignalBody.fits_userData present bodyFits, rfl⟩,
      data.length_bytes⟩
    rw [last, List.append_assoc, List.append_assoc]

/-- A message that is no other in disguise has an encoding exactly when its
adaptation header and its payload fit their length fields.  The encoding is then
read back as the message, and each resource and the user data occupy as many of
its bytes as their lengths say. -/
theorem decode_encode {message : Signal} (canonical : message.IsCanonical) :
    ((∃ datagram, message.encode = .ok datagram) ↔
      message.adaptation.length ≤ 255 ∧ message.payloadLength ≤ 65535) ∧
    ∀ datagram, message.encode = .ok datagram →
      decode datagram = .ok message ∧ message.IsLaidOutIn datagram := by
  constructor
  · constructor
    · rintro ⟨datagram, encoded⟩
      obtain ⟨adaptationFits, short, _⟩ := encode_eq_ok_iff.mp encoded
      exact ⟨Nat.le_of_lt_succ adaptationFits, Nat.le_of_lt_succ short⟩
    · rintro ⟨adaptationFits, short⟩
      exact ⟨_, encode_eq_ok_iff.mpr
        ⟨Nat.lt_succ_of_le adaptationFits, Nat.lt_succ_of_le short, rfl⟩⟩
  · intro datagram encoded
    exact ⟨decode_of_encode_eq_ok canonical encoded, isLaidOutIn_of_encode_eq_ok encoded⟩

/-- A confirm that grants a program of one stream and a modulation without a name. -/
def sampleGrant : Signal where
  transaction := 7
  adaptation := [0xFF]
  body := .setupConfirm
    { session := ⟨.zero, 5⟩
      response := ⟨0⟩
      server := .zero
      resources :=
        [⟨1, 2, 3, 4, 5, .mpegProgram ⟨3, 256, 8191, [⟨257, 2, 9⟩], 257⟩⟩,
          ⟨1, 3, 3, 4, 5, .atscModulation ⟨1, 2, 3, .other 0x20, 5360537, 4, 5, 6⟩⟩,
          ⟨1, 4, 3, 4, 5, .unknown 0x0005 2 [0, 3]⟩]
      userData := ⟨[1], [2, 3]⟩ }

theorem decode_encode_sampleGrant :
    sampleGrant.IsCanonical ∧
    ∃ datagram, sampleGrant.encode = .ok datagram ∧ decode datagram = .ok sampleGrant ∧
      sampleGrant.IsLaidOutIn datagram := by
  have canonical : sampleGrant.IsCanonical := by
    intro resource member
    simp only [List.mem_cons, List.not_mem_nil, or_false] at member
    rcases member with rfl | rfl | rfl
    · trivial
    · exact ⟨by decide, by decide⟩
    · exact (by decide : (0x0005 : UInt16) ∉ ResourceContent.knownTypes)
  obtain ⟨possible, inverted⟩ := decode_encode canonical
  obtain ⟨datagram, encoded⟩ := possible.mpr ⟨by decide, by decide⟩
  exact ⟨canonical, datagram, encoded, inverted datagram encoded⟩

end Signal

end OnDemand
