import Mathlib.Order.Bounds.Defs
import OnDemand.Descriptor.PrivateData
import OnDemand.Proofs.Descriptor.Image

/-!
# Private data comes back from its bytes

Nothing marks where the descriptors end and the padding starts.  A reader tells them apart
by content, although all ones are a legal tag, a legal length and a legal value: a
descriptor of that tag and that length is too long for padding.
-/

namespace OnDemand

namespace Descriptor

variable {category : DescriptorCategory} {descriptors : List Descriptor}

/-- Canonical descriptors that follow each other are read back one by one. -/
theorem reads_replicate_of_encodeAll {bytes : Bytes}
    (canonical : AreCanonicalIn category descriptors)
    (written : encodeAll category descriptors = .ok bytes) :
    (Reader.replicate (decode category) descriptors.length).Reads bytes descriptors := by
  induction descriptors generalizing bytes with
  | nil =>
      rw [encodeAll_nil_eq_ok_iff.mp written]
      exact .pure []
  | cons descriptor others ih =>
      obtain ⟨front, back, first, second, rfl⟩ := encodeAll_cons_eq_ok_iff.mp written
      exact .bind (reads_of_encode canonical.1 first) (.last (ih canonical.2 second))

end Descriptor

namespace PrivateData

variable {format : PrivateDataFormat} {data : PrivateData} {encoded : Bytes}

theorem padLength_lt (length : Nat) : padLength length < 4 := Nat.mod_lt _ (by decide)

/-- The length with padding is the least multiple of four that is no less. -/
theorem isLeast_paddedLength (length : Nat) :
    IsLeast {multiple | 4 ∣ multiple ∧ length ≤ multiple} (paddedLength length) := by
  constructor
  · change 4 ∣ paddedLength length ∧ length ≤ paddedLength length
    simp only [paddedLength, padLength]
    omega
  · intro multiple ⟨divides, enough⟩
    simp only [paddedLength, padLength]
    omega

theorem isPadding_eq_true_iff {bytes : Bytes} :
    isPadding bytes = true ↔ bytes.length < 4 ∧ ∀ byte ∈ bytes, byte = padByte := by
  simp only [isPadding, Bool.and_eq_true, List.isEmpty_iff, List.drop_eq_nil_iff, List.all_eq_true,
    beq_iff_eq, Nat.lt_succ_iff]

theorem isPadding_replicate {count : Nat} (few : count < 4) :
    isPadding (List.replicate count padByte) = true := by
  rw [isPadding_eq_true_iff, List.length_replicate]
  exact ⟨few, fun _ => List.eq_of_mem_replicate⟩

/-- The bytes of a descriptor are never taken for padding, whatever follows them. -/
theorem neverStops_isPadding {category : DescriptorCategory} :
    Descriptor.NeverStops isPadding category := by
  intro descriptor front rest written
  rw [Bool.eq_false_iff, ne_eq, isPadding_eq_true_iff]
  intro ⟨short, ones⟩
  obtain ⟨_, fits, value, writtenValue, rfl⟩ := Descriptor.encode_eq_ok_iff.mp written
  have lengthByte : UInt8.ofNat descriptor.valueLength = padByte := ones _ (by simp)
  have long : descriptor.valueLength = 255 := by
    rw [← UInt8.toNat_ofNat_of_lt' (Nat.lt_succ_of_le fits), lengthByte]
    rfl
  have count := Descriptor.length_of_encodeValue descriptor writtenValue
  simp only [List.cons_append, List.length_cons, List.length_append] at short
  omega

/-! ## Writing -/

theorem length_header {count : Nat} {front : Bytes} (written : header count format = .ok front) :
    front.length = format.headerLength := by
  cases format with
  | plain =>
      cases written
      rfl
  | counted protocol version =>
      obtain ⟨field, _, built⟩ := bind_eq_ok_iff.mp written
      cases built
      rfl

/-- The number of bytes with which private data is filled up. -/
def padCount (format : PrivateDataFormat) (padded : Bool) (data : PrivateData) : Nat :=
  if padded then padLength (data.unpaddedLength format) else 0

theorem padCount_lt (format : PrivateDataFormat) (padded : Bool) (data : PrivateData) :
    data.padCount format padded < 4 := by
  rw [padCount]
  split
  · exact padLength_lt _
  · decide

/-- Private data has an encoding exactly when its length with padding has a field, its
descriptors can be counted and each of them has an encoding. -/
theorem encode_eq_ok_iff {padded : Bool} :
    data.encode format padded = .ok encoded ↔
      data.unpaddedLength format + data.padCount format padded < 65536 ∧
        ∃ front body, header data.descriptors.length format = .ok front ∧
          Descriptor.encodeAll .generic data.descriptors = .ok body ∧
          encoded = front ++ body ++ List.replicate (data.padCount format padded) padByte := by
  simp only [encode, bind_eq_ok_iff, Wire.length16_eq_ok_iff]
  constructor
  · intro ⟨_, ⟨short, _⟩, front, head, body, written, last⟩
    cases last
    exact ⟨short, front, body, head, written, rfl⟩
  · intro ⟨short, front, body, head, written, last⟩
    exact ⟨_, ⟨short, rfl⟩, front, head, body, written, last ▸ rfl⟩

/-! ## Reading -/

theorem readDescriptors_of_written {front body rest : Bytes}
    (canonical : Descriptor.AreCanonicalIn .generic data.descriptors)
    (head : header data.descriptors.length format = .ok front)
    (written : Descriptor.encodeAll .generic data.descriptors = .ok body)
    (padding : isPadding rest = true) :
    readDescriptors format (front ++ body ++ rest) = .ok (data.descriptors, rest) := by
  cases format with
  | plain =>
      cases head
      exact Descriptor.readUntil_of_encodeAll neverStops_isPadding _ canonical written padding
  | counted protocol version =>
      obtain ⟨field, counted, built⟩ := bind_eq_ok_iff.mp head
      cases built
      obtain ⟨few, rfl⟩ := Wire.length8_eq_ok_iff.mp counted
      have reads : (readDescriptors (.counted protocol version)).Reads
          ([protocol, version, UInt8.ofNat data.descriptors.length] ++ body) data.descriptors := by
        refine .byte ?_
        rw [if_neg (not_not_intro rfl)]
        refine .byte (.byte ?_)
        rw [UInt8.toNat_ofNat_of_lt' few]
        exact Descriptor.reads_replicate_of_encodeAll canonical written
      exact reads rest

theorem decode_of_readDescriptors {input left : Bytes}
    (read : readDescriptors format input = .ok (data.descriptors, left))
    (padding : isPadding left = true) : decode format input = .ok data := by
  rw [decode, read]
  exact if_pos padding

/-- Canonical private data is read back from its encoding.  The encoding starts with the one
without padding, which is as long as its length says, and goes on in padding only; with
padding its length is the least multiple of four that is no less than that. -/
theorem decode_of_encode {padded : Bool}
    (canonical : Descriptor.AreCanonicalIn .generic data.descriptors)
    (written : data.encode format padded = .ok encoded) :
    decode format encoded = .ok data ∧
    (∃ bare count, data.encode format false = .ok bare ∧
      bare.length = data.unpaddedLength format ∧
      encoded = bare ++ List.replicate count padByte) ∧
    (padded = true →
      IsLeast {length | 4 ∣ length ∧ data.unpaddedLength format ≤ length} encoded.length) := by
  obtain ⟨short, front, body, head, writtenAll, layout⟩ := encode_eq_ok_iff.mp written
  have bare : data.encode format false = .ok (front ++ body) :=
    encode_eq_ok_iff.mpr ⟨Nat.lt_of_le_of_lt (Nat.le_add_right _ _) short, front, body, head,
      writtenAll, (List.append_nil _).symm⟩
  have length : (front ++ body).length = data.unpaddedLength format := by
    rw [List.length_append, length_header head, Descriptor.length_of_encodeAll _ writtenAll,
      unpaddedLength]
  refine ⟨?_, ⟨front ++ body, _, bare, length, layout⟩, ?_⟩
  · rw [layout]
    have padding := isPadding_replicate (padCount_lt format padded data)
    exact decode_of_readDescriptors (readDescriptors_of_written canonical head writtenAll padding)
      padding
  · intro padding
    rw [layout, List.length_append, length, List.length_replicate, padCount, if_pos padding]
    exact isLeast_paddedLength _

/-- Private data with an unknown descriptor of all ones, which is short of a multiple of four
by one byte. -/
def ones : PrivateData := ⟨[.unknown 0xFF [0xFF], .appRequest [.protocolVersion 9]]⟩

theorem decode_of_encode_ones :
    ones.encode (.counted 7 1) true =
      .ok [7, 1, 2, 0xFF, 1, 0xFF, 0x05, 3, 0x04, 1, 9, 0xFF] ∧
    decode (.counted 7 1) [7, 1, 2, 0xFF, 1, 0xFF, 0x05, 3, 0x04, 1, 9, 0xFF] = .ok ones := by
  have canonical : Descriptor.AreCanonicalIn .generic ones.descriptors :=
    ⟨(by decide : (0xFF : UInt8) ∉ DescriptorCategory.generic.knownTags),
      ⟨rfl, rfl, trivial⟩, trivial⟩
  have written : ones.encode (.counted 7 1) true =
      .ok [7, 1, 2, 0xFF, 1, 0xFF, 0x05, 3, 0x04, 1, 9, 0xFF] := rfl
  exact ⟨written, (decode_of_encode canonical written).1⟩

end PrivateData

end OnDemand
