import OnDemand.Proofs.Descriptor.PrivateData
import OnDemand.Proofs.Wire.Template

/-!
# What is read as private data

The version in front of counted descriptors is not looked at.  Every other byte of accepted
private data is fixed by its descriptors and its format, up to the padding: the bytes that are
read are those that fill a template, with padding behind them.  Bytes of all ones may be tags,
lengths or values as well as padding; what is taken for padding is only what no descriptor can
begin with.
-/

namespace OnDemand

open Template (exactly blank)

namespace Descriptor

variable {category : DescriptorCategory} {descriptors : List Descriptor} {input rest : Bytes}

/-- A number of descriptors are read from the bytes that are written for them. -/
theorem replicate_eq_ok_iff {count : Nat} :
    Reader.replicate (decode category) count input = .ok (descriptors, rest) ↔
      descriptors.length = count ∧ AreCanonicalIn category descriptors ∧
        ∃ bytes, encodeAll category descriptors = .ok bytes ∧ input = bytes ++ rest := by
  constructor
  · intro read
    induction count generalizing input descriptors with
    | zero =>
        obtain ⟨rfl, rfl⟩ := Reader.pure_eq_ok_iff.mp read
        exact ⟨rfl, trivial, [], rfl, rfl⟩
    | succ count ih =>
        obtain ⟨descriptor, left, first, more⟩ := Reader.bind_eq_ok_iff.mp read
        obtain ⟨others, readOthers, rfl⟩ := Reader.last_eq_ok_iff.mp more
        obtain ⟨canonical, front, written, rfl⟩ := encode_of_readWith readsOnlyWritten_valueIn first
        obtain ⟨length, canonicalOthers, back, writtenOthers, rfl⟩ := ih readOthers
        refine ⟨congrArg (· + 1) length, ⟨canonical, canonicalOthers⟩, front ++ back, ?_, ?_⟩
        · exact encodeAll_cons_eq_ok_iff.mpr ⟨front, back, written, writtenOthers, rfl⟩
        · rw [List.append_assoc]
  · rintro ⟨length, canonical, bytes, written, starts⟩
    rw [starts, ← length]
    exact reads_replicate_of_encodeAll canonical written rest

end Descriptor

/-- What is at the offset in private data of the format is not looked at: it is the version of a
header. -/
def PrivateDataFormat.Ignores : PrivateDataFormat → Nat → Prop
  | plain, _ => False
  | counted .., offset => offset = 1

namespace PrivateData

variable {format : PrivateDataFormat} {data : PrivateData} {input body front left : Bytes}

/-- The slots of private data in front of a number of descriptors. -/
def headerTemplate (count : Nat) : PrivateDataFormat → Template
  | .plain => []
  | .counted protocol _ => [some protocol, none, some (UInt8.ofNat count)]

/-- The slots of private data that holds so many descriptors, with these bytes. -/
def template (format : PrivateDataFormat) (count : Nat) (body : Bytes) : Template :=
  headerTemplate count format ++ exactly body

theorem isBlank_template_iff {count offset : Nat} :
    (template format count body).IsBlank offset ↔ format.Ignores offset := by
  cases format with
  | plain => exact iff_of_false Template.not_isBlank_exactly id
  | counted protocol version =>
      match offset with
      | 0 => exact iff_of_false nofun nofun
      | 1 => exact iff_of_true rfl rfl
      | 2 => exact iff_of_false nofun nofun
      | place + 3 => exact iff_of_false Template.not_isBlank_exactly nofun

theorem starts_template_plain {count : Nat} :
    (template .plain count body).Starts input left ↔ input = body ++ left :=
  Template.starts_exactly

theorem starts_template_counted {protocol version : UInt8} {count : Nat} :
    (template (.counted protocol version) count body).Starts input left ↔
      ∃ told, input = protocol :: told :: UInt8.ofNat count :: (body ++ left) := by
  simp only [template, headerTemplate, List.cons_append, List.nil_append, Template.Starts,
    Template.starts_exactly, Option.mem_def, Option.some.injEq, forall_eq', reduceCtorEq,
    false_implies, implies_true, true_and]
  constructor
  · rintro ⟨_, _, starts, rfl, told, _, second, _, _, third, rfl, last⟩
    exact ⟨told, by rw [starts, second, third, last]⟩
  · rintro ⟨told, starts⟩
    exact ⟨_, _, starts, rfl, told, _, rfl, _, _, rfl, rfl, rfl⟩

theorem header_counted_eq_ok_iff {protocol version : UInt8} {count : Nat} :
    header count (.counted protocol version) = .ok front ↔
      count < 256 ∧ front = [protocol, version, UInt8.ofNat count] := by
  simp only [header, bind_eq_ok_iff, Wire.length8_eq_ok_iff]
  constructor
  · rintro ⟨_, ⟨few, rfl⟩, built⟩
    cases built
    exact ⟨few, rfl⟩
  · rintro ⟨few, built⟩
    exact ⟨_, ⟨few, rfl⟩, built ▸ rfl⟩

/-- What is written fills its own template. -/
theorem starts_template_of_header {count : Nat} (head : header count format = .ok front)
    (body : Bytes) :
    (template format count body).Starts (front ++ body) [] := by
  cases format with
  | plain =>
      cases head
      exact starts_template_plain.mpr (List.append_nil body).symm
  | counted protocol version =>
      obtain ⟨_, rfl⟩ := header_counted_eq_ok_iff.mp head
      exact starts_template_counted.mpr ⟨version, by rw [List.append_nil]; rfl⟩

/-! ## What is accepted -/

theorem decode_eq_ok_iff :
    decode format input = .ok data ↔
      ∃ left, readDescriptors format input = .ok (data.descriptors, left) ∧
        isPadding left = true := by
  constructor
  · intro decoded
    obtain ⟨⟨descriptors, left⟩, read, last⟩ := bind_eq_ok_iff.mp decoded
    dsimp only at last
    split at last
    · next padding =>
        cases last
        exact ⟨left, read, padding⟩
    · cases last
  · rintro ⟨left, read, padding⟩
    exact decode_of_readDescriptors read padding

/-- The bytes that are read as descriptors with padding behind them are those that fill their
template. -/
theorem readDescriptors_eq_ok_iff (padding : isPadding left = true) :
    readDescriptors format input = .ok (data.descriptors, left) ↔
      Descriptor.AreCanonicalIn .generic data.descriptors ∧
        ∃ front body, header data.descriptors.length format = .ok front ∧
          Descriptor.encodeAll .generic data.descriptors = .ok body ∧
          (template format data.descriptors.length body).Starts input left := by
  cases format with
  | plain =>
      simp only [starts_template_plain]
      constructor
      · intro read
        obtain ⟨_, canonical, body, written, starts⟩ :=
          Descriptor.encodeAll_of_readUntil Descriptor.readsOnlyWritten_generic read
        exact ⟨canonical, [], body, rfl, written, starts⟩
      · rintro ⟨canonical, _, body, _, written, starts⟩
        rw [starts]
        exact Descriptor.readUntil_of_encodeAll neverStops_isPadding _ canonical written padding
  | counted protocol version =>
      simp only [readDescriptors, Reader.bind_eq_ok_iff, Reader.byte_eq_ok_iff,
        Reader.refusing_eq_ok_iff, Descriptor.replicate_eq_ok_iff, starts_template_counted,
        header_counted_eq_ok_iff]
      constructor
      · rintro ⟨_, _, starts, known, told, _, second, count, _, third, length, canonical, body,
          written, last⟩
        replace known := Decidable.of_not_not known
        have few : data.descriptors.length < 256 := length ▸ count.toNat_lt
        refine ⟨canonical, _, body, ⟨few, rfl⟩, written, told, ?_⟩
        rw [starts, known, second, third, last, length, UInt8.ofNat_toNat]
      · rintro ⟨canonical, _, body, ⟨few, _⟩, written, told, starts⟩
        have length : data.descriptors.length = (UInt8.ofNat data.descriptors.length).toNat :=
          (UInt8.toNat_ofNat_of_lt' few).symm
        exact ⟨_, _, starts, not_not_intro rfl, told, _, rfl, _, _, rfl, length, canonical, body,
          written, rfl⟩

theorem encode_unpadded_eq_ok_iff {encoded : Bytes} :
    data.encode format false = .ok encoded ↔
      encoded.length < 65536 ∧
        ∃ front body, header data.descriptors.length format = .ok front ∧
          Descriptor.encodeAll .generic data.descriptors = .ok body ∧ encoded = front ++ body := by
  simp only [encode_eq_ok_iff, padCount, Bool.false_eq_true, if_false, Nat.add_zero,
    List.replicate_zero, List.append_nil]
  have length : ∀ {front body}, header data.descriptors.length format = .ok front →
      Descriptor.encodeAll .generic data.descriptors = .ok body →
        (front ++ body).length = data.unpaddedLength format := by
    intro front body head written
    rw [List.length_append, length_header head, Descriptor.length_of_encodeAll _ written,
      unpaddedLength]
  constructor
  · rintro ⟨short, front, body, head, written, layout⟩
    exact ⟨by rwa [layout, length head written], front, body, head, written, layout⟩
  · rintro ⟨short, front, body, head, written, layout⟩
    exact ⟨by rwa [layout, length head written] at short, front, body, head, written, layout⟩

/-- Bytes that are not too many are accepted as private data exactly when its descriptors are
canonical and the bytes are those that are written for it without padding, with up to three bytes
of all ones behind them; only the version of a header may be another one. -/
theorem decode_eq_ok_iff_encode (short : input.length ≤ 65535) :
    decode format input = .ok data ↔
      Descriptor.AreCanonicalIn .generic data.descriptors ∧
        ∃ encoded kept pad, data.encode format false = .ok encoded ∧ input = kept ++ pad ∧
          pad.length ≤ 3 ∧ (∀ byte ∈ pad, byte = padByte) ∧ kept.length = encoded.length ∧
          ∀ offset, ¬ format.Ignores offset → kept[offset]? = encoded[offset]? := by
  rw [decode_eq_ok_iff]
  constructor
  · rintro ⟨pad, read, padding⟩
    obtain ⟨canonical, front, body, head, written, starts⟩ :=
      (readDescriptors_eq_ok_iff padding).mp read
    obtain ⟨few, ones⟩ := isPadding_eq_true_iff.mp padding
    obtain ⟨kept, fills, rfl⟩ := Template.starts_iff_exists.mp starts
    have own := starts_template_of_header head body
    obtain ⟨length, agree⟩ := own.starts_iff.mp fills
    rw [List.length_append] at short
    have encoded : data.encode format false = .ok (front ++ body) :=
      encode_unpadded_eq_ok_iff.mpr ⟨by omega, front, body, head, written, rfl⟩
    refine ⟨canonical, _, kept, pad, encoded, rfl, Nat.le_of_lt_succ few, ones, length, ?_⟩
    exact fun offset seen => agree offset ((not_congr isBlank_template_iff).mpr seen)
  · rintro ⟨canonical, encoded, kept, pad, encodes, split, few, ones, length, agree⟩
    have padding : isPadding pad = true :=
      isPadding_eq_true_iff.mpr ⟨Nat.lt_succ_of_le few, ones⟩
    obtain ⟨_, front, body, head, written, rfl⟩ := encode_unpadded_eq_ok_iff.mp encodes
    have own := starts_template_of_header head body
    have fills := own.starts_iff.mpr
      ⟨length, fun offset seen => agree offset ((not_congr isBlank_template_iff).mp seen)⟩
    refine ⟨pad, (readDescriptors_eq_ok_iff padding).mpr
      ⟨canonical, front, body, head, written, ?_⟩, padding⟩
    exact Template.starts_iff_exists.mpr ⟨kept, fills, split⟩

/-- The bytes of `ones` with a version of their own and more padding than is needed. -/
def strangeOnes : Bytes := [7, 9, 2, 0xFF, 1, 0xFF, 0x05, 3, 0x04, 1, 9, 0xFF, 0xFF, 0xFF]

theorem decode_eq_ok_iff_encode_strangeOnes :
    strangeOnes.length ≤ 65535 ∧ decode (.counted 7 1) strangeOnes = .ok ones ∧
    ∃ encoded kept pad, ones.encode (.counted 7 1) false = .ok encoded ∧
      strangeOnes = kept ++ pad ∧ pad.length ≤ 3 ∧ (∀ byte ∈ pad, byte = padByte) ∧
      kept.length = encoded.length ∧ ∀ offset, offset ≠ 1 → kept[offset]? = encoded[offset]? := by
  have short : strangeOnes.length ≤ 65535 := by decide
  have canonical : Descriptor.AreCanonicalIn .generic ones.descriptors :=
    ⟨(by decide : (0xFF : UInt8) ∉ DescriptorCategory.generic.knownTags),
      ⟨rfl, rfl, trivial⟩, trivial⟩
  have spelled : ∃ encoded kept pad, ones.encode (.counted 7 1) false = .ok encoded ∧
      strangeOnes = kept ++ pad ∧ pad.length ≤ 3 ∧ (∀ byte ∈ pad, byte = padByte) ∧
      kept.length = encoded.length ∧
      ∀ offset, offset ≠ 1 → kept[offset]? = encoded[offset]? := by
    refine ⟨[7, 1, 2, 0xFF, 1, 0xFF, 0x05, 3, 0x04, 1, 9], strangeOnes.take 11,
      List.replicate 3 padByte, rfl, rfl, Nat.le_refl 3, fun _ => List.eq_of_mem_replicate, rfl,
      fun offset seen => ?_⟩
    match offset with
    | 0 | _ + 2 => rfl
    | 1 => exact absurd rfl seen
  exact ⟨short, (decode_eq_ok_iff_encode short).mpr ⟨canonical, spelled⟩, spelled⟩

end PrivateData

end OnDemand
