import OnDemand.Proofs.Descriptor.Canonical

/-!
# The image of the writer

A reader of descriptors accepts what the writer writes for canonical descriptors and
nothing else.  That a written descriptor is read back goes by recursion over descriptors.
That a descriptor read was written goes category by category, from the inside of vendor
requests outwards, because the tags of a category decide what its values hold.
-/

namespace OnDemand

namespace Reader

variable {α β : Type} {input rest : Bytes}

/-- The last reader of a sequence, whose value is put into the result. -/
theorem last_eq_ok_iff {reader : Reader α} {build : α → β} {result : β} :
    (reader >>= fun value => pure (build value)) input = .ok (result, rest) ↔
      ∃ value, reader input = .ok (value, rest) ∧ build value = result := by
  rw [bind_eq_ok_iff]
  constructor
  · intro ⟨value, left, read, built⟩
    obtain ⟨same, used⟩ := pure_eq_ok_iff.mp built
    exact ⟨value, used ▸ read, same⟩
  · intro ⟨value, read, same⟩
    exact ⟨value, rest, read, pure_eq_ok_iff.mpr ⟨same, rfl⟩⟩

theorem whole_last_eq_ok_iff {reader : Reader α} {build : α → β} {result : β} :
    whole (reader >>= fun value => pure (build value)) input = .ok result ↔
      ∃ value, reader input = .ok (value, []) ∧ build value = result := by
  rw [whole_eq_ok_iff, last_eq_ok_iff]

theorem whole_word32_eq_ok_iff {build : UInt32 → β} {result : β} :
    whole (do return build (← word32)) input = .ok result ↔
      ∃ value, input = Wire.word32 value ∧ build value = result := by
  simp only [whole_last_eq_ok_iff, word32_eq_ok_iff, List.append_nil]

theorem whole_rest_eq_ok_iff {build : Bytes → β} {result : β} :
    whole (do return build (← Reader.rest)) input = .ok result ↔ build input = result := by
  simp only [whole_last_eq_ok_iff, rest_eq_ok_iff, and_true, exists_eq_left']

theorem mac_eq_ok_iff {address : MacAddress} :
    mac input = .ok (address, rest) ↔ input = address.bytes ++ rest := by
  rw [mac, last_eq_ok_iff]
  simp only [octets_eq_ok_iff]
  constructor
  · intro ⟨octets, starts, same⟩
    rw [starts, ← same]
    rfl
  · intro starts
    exact ⟨address.octets, starts, rfl⟩

theorem ipv4_eq_ok_iff {ip : Ipv4Address} :
    ipv4 input = .ok (ip, rest) ↔ input = ip.bytes ++ rest := by
  constructor
  · intro read
    match input with
    | [] | [_] | [_, _] | [_, _, _] => cases read
    | a :: b :: c :: d :: left =>
        cases read
        rfl
  · intro starts
    rw [starts]
    rfl

theorem text_eq_ok_iff {field : WireField} {value : String} :
    text field input = .ok (value, rest) ↔ input = Text.utf8 value ∧ rest = [] := by
  constructor
  · intro read
    simp only [text] at read
    split at read
    · next decoded =>
        cases read
        exact ⟨(Text.utf8_of_ofUtf8? decoded).symm, rfl⟩
    · cases read
  · intro ⟨starts, used⟩
    simp only [text, starts, used, Text.ofUtf8?_utf8]

theorem whole_text_eq_ok_iff {field : WireField} {build : String → β} {result : β} :
    whole (do return build (← text field)) input = .ok result ↔
      ∃ value, input = Text.utf8 value ∧ build value = result := by
  simp only [whole_last_eq_ok_iff, text_eq_ok_iff, and_true]

end Reader

namespace Descriptor

variable {category : DescriptorCategory} {descriptor : Descriptor} {descriptors : List Descriptor}
  {stop : Bytes → Bool} {value : UInt8 → Reader Descriptor} {input rest : Bytes}

/-- The number that two words make, the high one first. -/
def joinWords (high : UInt16) (low : UInt32) : UInt64 :=
  UInt64.ofNat (high.toNat * UInt32.size + low.toNat)

theorem toNat_joinWords (high : UInt16) (low : UInt32) :
    (joinWords high low).toNat = high.toNat * 4294967296 + low.toNat := by
  have highBound := high.toNat_lt
  have lowBound := low.toNat_lt
  apply UInt64.toNat_ofNat_of_lt'
  simp only [UInt32.size, UInt64.size]
  omega

theorem toNat_joinWords_le (high : UInt16) (low : UInt32) :
    (joinWords high low).toNat ≤ nodeGroupLimit := by
  have highBound := high.toNat_lt
  have lowBound := low.toNat_lt
  rw [toNat_joinWords, nodeGroupLimit]
  omega

theorem nodeGroupBytes_joinWords (high : UInt16) (low : UInt32) :
    nodeGroupBytes (joinWords high low) = Wire.word16 high ++ Wire.word32 low := by
  have highBound := high.toNat_lt
  have lowBound := low.toNat_lt
  have highWord : UInt16.ofNat ((joinWords high low).toNat / UInt32.size) = high := by
    apply UInt16.toNat_inj.mp
    rw [toNat_joinWords, UInt16.toNat_ofNat', UInt32.size]
    omega
  have lowWord : UInt32.ofNat (joinWords high low).toNat = low := by
    apply UInt32.toNat_inj.mp
    rw [toNat_joinWords, UInt32.toNat_ofNat']
    omega
  rw [nodeGroupBytes, highWord, lowWord]

theorem joinWords_of_le {id : UInt64} (fits : id.toNat ≤ nodeGroupLimit) :
    joinWords (UInt16.ofNat (id.toNat / UInt32.size)) (UInt32.ofNat id.toNat) = id := by
  rw [nodeGroupLimit] at fits
  apply UInt64.toNat_inj.mp
  rw [toNat_joinWords, UInt16.toNat_ofNat', UInt32.toNat_ofNat', UInt32.size]
  omega

/-- A node group identifier that fits is read from its six bytes and from nothing else. -/
theorem readNodeGroup_eq_ok_iff {id : UInt64} :
    readNodeGroup input = .ok (id, rest) ↔
      id.toNat ≤ nodeGroupLimit ∧ input = nodeGroupBytes id ++ rest := by
  constructor
  · intro read
    match input with
    | [] | [_] | [_, _] | [_, _, _] | [_, _, _, _] | [_, _, _, _, _] => cases read
    | a :: b :: c :: d :: e :: f :: left =>
        cases read
        have written := nodeGroupBytes_joinWords (Wire.ofWord16 a b) (Wire.ofWord32 c d e f)
        rw [Wire.word16_ofWord16, Wire.word32_ofWord32] at written
        exact ⟨toNat_joinWords_le _ _, congrArg (· ++ rest) written.symm⟩
  · intro ⟨fits, starts⟩
    have joined := joinWords_of_le fits
    rw [← Wire.ofWord16_word16 (UInt16.ofNat _), ← Wire.ofWord32_word32 (UInt32.ofNat _)] at joined
    rw [starts]
    exact congrArg (fun number : UInt64 => Except.ok (number, rest)) joined

/-! ## Reading one descriptor -/

theorem readWith_eq_ok_iff :
    readWith value input = .ok (descriptor, rest) ↔
      ∃ tag length front, input = tag :: length :: (front ++ rest) ∧
        front.length = length.toNat ∧ Reader.whole (value tag) front = .ok descriptor := by
  rw [readWith_eq]
  simp only [Reader.bind_eq_ok_iff, Reader.byte_eq_ok_iff, Reader.bytes_eq_ok_iff,
    Reader.lift_eq_ok_iff]
  constructor
  · intro ⟨tag, _, first, length, _, second, front, _, ⟨third, fourth⟩, read, last⟩
    subst first second fourth last
    exact ⟨tag, length, front, rfl, third, read⟩
  · intro ⟨tag, length, front, starts, count, read⟩
    exact ⟨tag, _, starts, length, _, rfl, front, rest, ⟨count, rfl⟩, read, rfl⟩

theorem readUntil_of_go (goes : stop input = false) :
    readUntil stop value input = (do
      let (descriptor, left) ← readWith value input
      let (others, left) ← readUntil stop value left
      return (descriptor :: others, left)) := by
  rw [readUntil, if_neg (Bool.not_eq_true _ ▸ goes)]
  split
  · next failed => rw [failed]; rfl
  · next descriptor left read =>
      rw [read]
      change _ = readUntil stop value left >>= fun found => .ok (descriptor :: found.1, found.2)
      cases readUntil stop value left <;> rfl

/-- The descriptors up to where the test fires are none, or one and those after it. -/
theorem readUntil_eq_ok_iff :
    readUntil stop value input = .ok (descriptors, rest) ↔
      stop input = true ∧ descriptors = [] ∧ input = rest ∨
      stop input = false ∧ ∃ descriptor left others,
        readWith value input = .ok (descriptor, left) ∧
          readUntil stop value left = .ok (others, rest) ∧ descriptors = descriptor :: others := by
  cases stops : stop input with
  | true =>
      rw [readUntil, if_pos stops]
      constructor
      · intro read
        cases read
        exact .inl ⟨rfl, rfl, rfl⟩
      · intro either
        cases either with
        | inl none => rw [none.2.1, none.2.2]
        | inr some => cases some.1
  | false =>
      rw [readUntil_of_go stops, bind_eq_ok_iff]
      constructor
      · intro ⟨⟨descriptor, left⟩, read, more⟩
        obtain ⟨⟨others, last⟩, readOthers, built⟩ := bind_eq_ok_iff.mp more
        cases built
        exact .inr ⟨rfl, descriptor, left, others, read, readOthers, rfl⟩
      · intro either
        cases either with
        | inl none => cases none.1
        | inr some =>
            obtain ⟨_, descriptor, left, others, read, readOthers, same⟩ := some
            exact ⟨_, read, bind_eq_ok_iff.mpr ⟨_, readOthers, same ▸ rfl⟩⟩

/-! ## What is written is read -/

/-- The test fires in front of no descriptor of the category. -/
def NeverStops (stop : Bytes → Bool) (category : DescriptorCategory) : Prop :=
  ∀ descriptor front rest, encode category descriptor = .ok front → stop (front ++ rest) = false

theorem neverStops_isEmpty : NeverStops List.isEmpty category := by
  intro descriptor front rest written
  obtain ⟨_, _, value, _, rfl⟩ := encode_eq_ok_iff.mp written
  rfl

/-- A descriptor whose value is read back is read back with its tag and its length. -/
theorem readWith_of_whole {front : Bytes} (written : encode category descriptor = .ok front)
    (read : ∀ bytes, descriptor.encodeValue = .ok bytes →
      Reader.whole (value descriptor.tag) bytes = .ok descriptor) :
    readWith value (front ++ rest) = .ok (descriptor, rest) := by
  obtain ⟨_, fits, bytes, writtenValue, rfl⟩ := encode_eq_ok_iff.mp written
  refine readWith_eq_ok_iff.mpr ⟨_, _, bytes, rfl, ?_, read bytes writtenValue⟩
  rw [length_of_encodeValue descriptor writtenValue]
  exact (UInt8.toNat_ofNat_of_lt' (Nat.lt_succ_of_le fits)).symm

theorem valueIn_of_unknown {tag : UInt8} (strange : tag ∉ category.knownTags) :
    valueIn category tag = do return unknown tag (← Reader.rest) := by
  cases category <;>
    simp only [DescriptorCategory.knownTags, List.mem_cons, List.not_mem_nil, or_false, not_or,
      ← UInt8.toNat_inj] at strange <;>
    simp only [valueIn, genericValue, appValue, vendorValue] <;>
    split <;>
    first | rfl | simp_all

mutual

/-- The value of a canonical descriptor is read back. -/
theorem whole_valueIn_of_encodeValue {category : DescriptorCategory} {bytes : Bytes} :
    (descriptor : Descriptor) → descriptor.IsCanonicalIn category →
      descriptor.encodeValue = .ok bytes →
        Reader.whole (valueIn category descriptor.tag) bytes = .ok descriptor
  | appRequest children => by
      intro ⟨place, canonical⟩ written
      subst place
      refine Reader.whole_last_eq_ok_iff.mpr ⟨children, ?_, rfl⟩
      have read :=
        readUntil_of_encodeAll neverStops_isEmpty children canonical written List.isEmpty_nil
      rwa [List.append_nil] at read
  | vendorRequest children => by
      intro ⟨place, canonical⟩ written
      subst place
      refine Reader.whole_last_eq_ok_iff.mpr ⟨children, ?_, rfl⟩
      have read :=
        readUntil_of_encodeAll neverStops_isEmpty children canonical written List.isEmpty_nil
      rwa [List.append_nil] at read
  | unknown tag value => by
      intro canonical written
      cases written
      rw [Descriptor.tag, valueIn_of_unknown canonical]
      exact Reader.whole_rest_eq_ok_iff.mpr rfl
  | nodeGroupId id => by
      intro place written
      cases place
      simp only [encodeValue] at written
      split at written
      · cases written
      · next fits =>
          cases written
          refine Reader.whole_last_eq_ok_iff.mpr ⟨id, readNodeGroup_eq_ok_iff.mpr ⟨?_, ?_⟩, rfl⟩
          · exact Nat.le_of_not_lt fits
          · rw [List.append_nil]
  | assetId provider asset => by
      intro place written
      cases place
      cases written
      exact Reader.Reads.whole (.bind (.word32 provider) (.last (.word32 asset)))
  | streamEndpoint endpoint => by
      intro place written
      cases place
      cases written
      exact Reader.Reads.whole (.bind (fun rest => rfl) (.last (.word16 endpoint.port)))
  | streamHandle _ | billingId _ | purchaseTime _ | timeRemaining _ | errorCode _
  | assetDuration _ | smartCardId _ | serviceGroup _ | homeId _ | bitRate _ => by
      intro place written
      cases place
      cases written
      exact Reader.whole_word32_eq_ok_iff.mpr ⟨_, rfl, rfl⟩
  | appResponse value => by
      intro place written
      cases place
      cases written
      exact Reader.whole_rest_eq_ok_iff.mpr rfl
  | assetName _ | providerName _ | recordingId _ => by
      intro place written
      cases place
      cases written
      exact Reader.whole_text_eq_ok_iff.mpr ⟨_, rfl, rfl⟩
  | clientMac mac => by
      intro place written
      cases place
      cases written
      exact Reader.whole_last_eq_ok_iff.mpr
        ⟨mac, Reader.mac_eq_ok_iff.mpr (List.append_nil _).symm, rfl⟩
  | protocolVersion version => by
      intro place written
      cases place
      cases written
      rfl

/-- Canonical descriptors that follow each other are read back up to a place where the test
fires, if it does so in front of no descriptor. -/
theorem readUntil_of_encodeAll {category : DescriptorCategory} {stop : Bytes → Bool}
    {bytes rest : Bytes} (never : NeverStops stop category) :
    (descriptors : List Descriptor) → AreCanonicalIn category descriptors →
      encodeAll category descriptors = .ok bytes → stop rest = true →
        readUntil stop (valueIn category) (bytes ++ rest) = .ok (descriptors, rest)
  | [] => by
      intro _ written stops
      rw [encodeAll_nil_eq_ok_iff.mp written]
      exact readUntil_eq_ok_iff.mpr (.inl ⟨stops, rfl, rfl⟩)
  | descriptor :: others => by
      intro ⟨canonical, canonicalOthers⟩ written stops
      obtain ⟨front, back, first, second, rfl⟩ := encodeAll_cons_eq_ok_iff.mp written
      have one : readWith (valueIn category) (front ++ (back ++ rest)) =
          .ok (descriptor, back ++ rest) :=
        readWith_of_whole first fun _ => whole_valueIn_of_encodeValue descriptor canonical
      have more := readUntil_of_encodeAll never others canonicalOthers second stops
      rw [List.append_assoc]
      exact readUntil_eq_ok_iff.mpr
        (.inr ⟨never descriptor front _ first, _, _, _, one, more, rfl⟩)

end

/-! ## What is read was written -/

/-- The descriptor is a canonical one of the tag, and these are the bytes of its value. -/
def IsWrittenAs (category : DescriptorCategory) (tag : UInt8) (front : Bytes)
    (descriptor : Descriptor) : Prop :=
  descriptor.tag = tag ∧ descriptor.IsCanonicalIn category ∧ descriptor.encodeValue = .ok front

/-- The reader gives for a tag and the bytes of a value only what is written as these. -/
def ReadsOnlyWritten (category : DescriptorCategory) (value : UInt8 → Reader Descriptor) : Prop :=
  ∀ {tag : UInt8} {front : Bytes} {descriptor : Descriptor},
    Reader.whole (value tag) front = .ok descriptor → descriptor.IsWrittenAs category tag front

theorem encode_of_readWith (only : ReadsOnlyWritten category value)
    (read : readWith value input = .ok (descriptor, rest)) :
    descriptor.IsCanonicalIn category ∧
      ∃ front, encode category descriptor = .ok front ∧ input = front ++ rest := by
  obtain ⟨tag, length, front, rfl, count, readValue⟩ := readWith_eq_ok_iff.mp read
  obtain ⟨rfl, canonical, written⟩ := only readValue
  have announced : descriptor.valueLength = length.toNat :=
    (length_of_encodeValue descriptor written).symm.trans count
  have fits : descriptor.valueLength ≤ valueLimit :=
    announced ▸ Nat.le_of_lt_succ length.toNat_lt
  have lengthByte : UInt8.ofNat descriptor.valueLength = length := by
    rw [announced, UInt8.ofNat_toNat]
  refine ⟨canonical, _, encode_eq_ok_iff.mpr ⟨canonical.mayStandIn, fits, front, written, rfl⟩, ?_⟩
  rw [lengthByte, List.cons_append, List.cons_append]

/-- Descriptors read one after another were written one after another. -/
theorem encodeAll_of_readUntil (only : ReadsOnlyWritten category value)
    (read : readUntil stop value input = .ok (descriptors, rest)) :
    stop rest = true ∧ AreCanonicalIn category descriptors ∧
      ∃ front, encodeAll category descriptors = .ok front ∧ input = front ++ rest := by
  induction descriptors generalizing input with
  | nil =>
      cases readUntil_eq_ok_iff.mp read with
      | inl none =>
          obtain ⟨stops, _, rfl⟩ := none
          exact ⟨stops, trivial, [], rfl, rfl⟩
      | inr some =>
          obtain ⟨_, _, _, _, _, _, same⟩ := some
          cases same
  | cons descriptor others ih =>
      cases readUntil_eq_ok_iff.mp read with
      | inl none => cases none.2.1
      | inr some =>
          obtain ⟨_, _, left, _, readOne, readOthers, same⟩ := some
          cases same
          obtain ⟨canonical, front, written, rfl⟩ := encode_of_readWith only readOne
          obtain ⟨stops, canonicalOthers, back, writtenOthers, rfl⟩ := ih readOthers
          refine ⟨stops, ⟨canonical, canonicalOthers⟩, front ++ back, ?_, ?_⟩
          · exact encodeAll_cons_eq_ok_iff.mpr ⟨front, back, written, writtenOthers, rfl⟩
          · rw [List.append_assoc]

theorem encodeAll_of_readAll (only : ReadsOnlyWritten category value)
    (read : readAll value input = .ok (descriptors, rest)) :
    AreCanonicalIn category descriptors ∧ encodeAll category descriptors = .ok input := by
  obtain ⟨stops, canonical, front, written, rfl⟩ := encodeAll_of_readUntil only read
  rw [List.isEmpty_iff.mp stops, List.append_nil]
  exact ⟨canonical, written⟩

section Values

variable {tag : UInt8} {front : Bytes}

/-- A tag without a meaning keeps its value. -/
theorem isWrittenAs_unknown (strange : tag ∉ category.knownTags)
    (read : Reader.whole (valueIn category tag) front = .ok descriptor) :
    descriptor.IsWrittenAs category tag front := by
  rw [valueIn_of_unknown strange, Reader.whole_rest_eq_ok_iff] at read
  subst read
  exact ⟨rfl, strange, rfl⟩

/-- Values of one word. -/
theorem isWrittenAs_word32 {build : UInt32 → Descriptor}
    (read : Reader.whole (do return build (← Reader.word32)) front = .ok descriptor)
    (each : ∀ word, (build word).IsWrittenAs category tag (Wire.word32 word)) :
    descriptor.IsWrittenAs category tag front := by
  obtain ⟨word, starts, same⟩ := Reader.whole_word32_eq_ok_iff.mp read
  rw [starts, ← same]
  exact each word

/-- Values of one text. -/
theorem isWrittenAs_text {build : String → Descriptor} {field : WireField}
    (read : Reader.whole (do return build (← Reader.text field)) front = .ok descriptor)
    (each : ∀ text, (build text).IsWrittenAs category tag (Text.utf8 text)) :
    descriptor.IsWrittenAs category tag front := by
  obtain ⟨text, starts, same⟩ := Reader.whole_text_eq_ok_iff.mp read
  rw [starts, ← same]
  exact each text

theorem readsOnlyWritten_vendorRequest : ReadsOnlyWritten .vendorRequest vendorValue := by
  intro tag front descriptor read
  by_cases known : tag ∈ DescriptorCategory.vendorRequest.knownTags
  · simp only [DescriptorCategory.knownTags, List.mem_cons, List.not_mem_nil, or_false] at known
    rcases known with rfl | rfl | rfl | rfl | rfl | rfl
    · exact isWrittenAs_word32 read fun _ => ⟨rfl, rfl, rfl⟩
    · exact isWrittenAs_text read fun _ => ⟨rfl, rfl, rfl⟩
    · exact isWrittenAs_text read fun _ => ⟨rfl, rfl, rfl⟩
    · exact isWrittenAs_text read fun _ => ⟨rfl, rfl, rfl⟩
    · exact isWrittenAs_word32 read fun _ => ⟨rfl, rfl, rfl⟩
    · exact isWrittenAs_word32 read fun _ => ⟨rfl, rfl, rfl⟩
  · exact isWrittenAs_unknown known read

theorem readsOnlyWritten_appRequest : ReadsOnlyWritten .appRequest appValue := by
  intro tag front descriptor read
  by_cases known : tag ∈ DescriptorCategory.appRequest.knownTags
  · simp only [DescriptorCategory.knownTags, List.mem_cons, List.not_mem_nil, or_false] at known
    rcases known with rfl | rfl | rfl | rfl
    · obtain ⟨children, readChildren, rfl⟩ := Reader.whole_last_eq_ok_iff.mp read
      obtain ⟨canonical, written⟩ :=
        encodeAll_of_readAll readsOnlyWritten_vendorRequest readChildren
      exact ⟨rfl, ⟨rfl, canonical⟩, written⟩
    · obtain ⟨mac, readMac, rfl⟩ := Reader.whole_last_eq_ok_iff.mp read
      rw [Reader.mac_eq_ok_iff.mp readMac, List.append_nil]
      exact ⟨rfl, rfl, rfl⟩
    · exact isWrittenAs_word32 read fun _ => ⟨rfl, rfl, rfl⟩
    · obtain ⟨version, readVersion, rfl⟩ := Reader.whole_last_eq_ok_iff.mp read
      rw [Reader.byte_eq_ok_iff.mp readVersion]
      exact ⟨rfl, rfl, rfl⟩
  · exact isWrittenAs_unknown known read

theorem readsOnlyWritten_generic : ReadsOnlyWritten .generic genericValue := by
  intro tag front descriptor read
  by_cases known : tag ∈ DescriptorCategory.generic.knownTags
  · simp only [DescriptorCategory.knownTags, List.mem_cons, List.not_mem_nil, or_false] at known
    rcases known with rfl | rfl | rfl | rfl | rfl | rfl | rfl | rfl | rfl | rfl | rfl
    · obtain ⟨provider, left, first, last⟩ :=
        Reader.bind_eq_ok_iff.mp (Reader.whole_eq_ok_iff.mp read)
      obtain ⟨asset, second, rfl⟩ := Reader.last_eq_ok_iff.mp last
      rw [Reader.word32_eq_ok_iff.mp first, Reader.word32_eq_ok_iff.mp second, List.append_nil]
      exact ⟨rfl, rfl, rfl⟩
    · obtain ⟨id, readId, rfl⟩ := Reader.whole_last_eq_ok_iff.mp read
      obtain ⟨fits, starts⟩ := readNodeGroup_eq_ok_iff.mp readId
      rw [starts, List.append_nil]
      exact ⟨rfl, rfl, if_neg (Nat.not_lt_of_le fits)⟩
    · obtain ⟨ip, left, first, last⟩ :=
        Reader.bind_eq_ok_iff.mp (Reader.whole_eq_ok_iff.mp read)
      obtain ⟨port, second, rfl⟩ := Reader.last_eq_ok_iff.mp last
      rw [Reader.ipv4_eq_ok_iff.mp first, Reader.word16_eq_ok_iff.mp second, List.append_nil]
      exact ⟨rfl, rfl, rfl⟩
    · exact isWrittenAs_word32 read fun _ => ⟨rfl, rfl, rfl⟩
    · obtain ⟨children, readChildren, rfl⟩ := Reader.whole_last_eq_ok_iff.mp read
      obtain ⟨canonical, written⟩ := encodeAll_of_readAll readsOnlyWritten_appRequest readChildren
      exact ⟨rfl, ⟨rfl, canonical⟩, written⟩
    · cases Reader.whole_rest_eq_ok_iff.mp read
      exact ⟨rfl, rfl, rfl⟩
    · exact isWrittenAs_word32 read fun _ => ⟨rfl, rfl, rfl⟩
    · exact isWrittenAs_word32 read fun _ => ⟨rfl, rfl, rfl⟩
    · exact isWrittenAs_word32 read fun _ => ⟨rfl, rfl, rfl⟩
    · exact isWrittenAs_word32 read fun _ => ⟨rfl, rfl, rfl⟩
    · exact isWrittenAs_word32 read fun _ => ⟨rfl, rfl, rfl⟩
  · exact isWrittenAs_unknown known read

end Values

theorem readsOnlyWritten_valueIn : ReadsOnlyWritten category (valueIn category) := by
  cases category with
  | generic => exact readsOnlyWritten_generic
  | appRequest => exact readsOnlyWritten_appRequest
  | vendorRequest => exact readsOnlyWritten_vendorRequest

/-- A canonical descriptor is read back from its encoding. -/
theorem reads_of_encode {front : Bytes} (canonical : descriptor.IsCanonicalIn category)
    (written : encode category descriptor = .ok front) :
    (decode category).Reads front descriptor :=
  fun _ => readWith_of_whole written fun _ => whole_valueIn_of_encodeValue descriptor canonical

/-- A cursor passes what is read, or stays in front of all bytes when nothing is read. -/
theorem advance_eq : advance category input = match decode category input with
    | .ok (descriptor, left) => (.ok descriptor, left)
    | .error fault => (.error fault, input) := by
  simp only [decode, advance, advanceWith, Cursor.reader, Cursor.onCopy]
  split <;> rfl

/-- A descriptor is read from the front of some bytes exactly when it is canonical and the
bytes start with its encoding; what follows is left.  The encoding is as long as its length
says.  A cursor over the bytes then stands at what is left.  When no descriptor is read, the
cursor has not moved, though reads before the one that fails have succeeded. -/
theorem decode_eq_ok_iff_isCanonicalIn :
    (decode category input = .ok (descriptor, rest) ↔
      descriptor.IsCanonicalIn category ∧
        ∃ front, encode category descriptor = .ok front ∧ input = front ++ rest) ∧
    (∀ front, encode category descriptor = .ok front →
      front.length = descriptor.encodedLength) ∧
    (advance category input = (.ok descriptor, rest) ↔
      decode category input = .ok (descriptor, rest)) ∧
    ∀ fault left, advance category input = (.error fault, left) ↔
      decode category input = .error fault ∧ left = input := by
  refine ⟨?_, fun _ => length_of_encode, ?_⟩
  · constructor
    · exact encode_of_readWith readsOnlyWritten_valueIn
    · intro ⟨canonical, front, written, starts⟩
      rw [starts]
      exact reads_of_encode canonical written rest
  · rw [advance_eq]
    cases decode category input with
    | ok found =>
        refine ⟨?_, fun _ _ => iff_of_false nofun nofun⟩
        rw [Prod.mk.injEq, Except.ok.injEq, Except.ok.injEq, Prod.ext_iff]
    | error cause =>
        refine ⟨iff_of_false nofun nofun, fun _ _ => ?_⟩
        rw [Prod.mk.injEq, Except.error.injEq, Except.error.injEq, eq_comm (a := input)]

/-- A handle is passed, but a handle behind it that is cut off is not: the cursor stands in
front of its tag, though the tag and the length have been read. -/
theorem advance_cutOff :
    advance .generic [4, 4, 0, 0, 0, 1, 4, 4, 1] = (.ok (streamHandle 1), [4, 4, 1]) ∧
    fieldsWith genericValue [4, 4, 1] = (.error (.insufficientData 4 1), [1]) ∧
    advance .generic [4, 4, 1] = (.error (.insufficientData 4 1), [4, 4, 1]) := by
  have written : encode .generic (streamHandle 1) = .ok [4, 4, 0, 0, 0, 1] := rfl
  have passed : decode .generic [4, 4, 0, 0, 0, 1, 4, 4, 1] = .ok (streamHandle 1, [4, 4, 1]) :=
    decode_eq_ok_iff_isCanonicalIn.1.mpr ⟨rfl, _, written, rfl⟩
  have stays : (_ ↔ decode .generic [4, 4, 1] = .ok (streamHandle 1, [])) ∧ _ :=
    decode_eq_ok_iff_isCanonicalIn.2.2
  exact ⟨decode_eq_ok_iff_isCanonicalIn.2.2.1.mpr passed, rfl, (stays.2 _ _).mpr ⟨rfl, rfl⟩⟩

end Descriptor

end OnDemand
