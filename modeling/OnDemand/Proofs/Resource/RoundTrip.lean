import OnDemand.Proofs.Wire.Reads
import OnDemand.Resource.Codec

/-!
# Resources come back from their bytes

The bytes of a content are as many as its length says, which is computed apart
from them.  A resource is read back from its bytes unless it is a known one in
disguise: a content kept as bytes under a known type, or a modulation kept as a
number that has a name.
-/

namespace OnDemand

/-- The number of a modulation without a name is not that of a named one. -/
def Modulation.IsCanonical : Modulation → Prop
  | .other value => value ≠ 0x08 ∧ value ≠ 0x10
  | .qam64 | .qam256 => True

theorem Modulation.ofByte_toByte {modulation : Modulation}
    (canonical : modulation.IsCanonical) :
    Modulation.ofByte modulation.toByte = modulation := by
  cases modulation with
  | qam64 => rfl
  | qam256 => rfl
  | other value =>
      obtain ⟨notQam64, notQam256⟩ := canonical
      simp only [toByte, ofByte, notQam64, notQam256, if_false]

namespace ElementaryStream

@[simp] theorem length_bytes (stream : ElementaryStream) : stream.bytes.length = 5 := rfl

theorem length_flatMap_bytes (streams : List ElementaryStream) :
    (streams.flatMap bytes).length = 5 * streams.length := by
  induction streams with
  | nil => rfl
  | cons stream streams ih =>
      rw [List.flatMap_cons, List.length_append, length_bytes, ih, List.length_cons]
      omega

theorem reads (stream : ElementaryStream) : read.Reads stream.bytes stream :=
  .bind (.word16 _) (.byte (.last (.word16 _)))

end ElementaryStream

namespace ResourceContent

/-- The types whose fields are known. -/
def knownTypes : List UInt16 := [0x0003, 0x0004, 0x0006, 0xF001, 0xF003, 0xF004]

/-- The content is not a known one in disguise. -/
def IsCanonical : ResourceContent → Prop
  | atscModulation modulation => modulation.modulation.IsCanonical
  | unknown type _ _ => type ∉ knownTypes
  | _ => True

/-- The length announced for a content is the number of its bytes. -/
theorem length_bytes (content : ResourceContent) : content.bytes.length = content.dataLength := by
  cases content with
  | mpegProgram program =>
      simp only [bytes, fieldBytes, List.length_append, Wire.length_word16,
        ElementaryStream.length_flatMap_bytes, dataLength]
      omega
  | headendId headend =>
      simp [bytes, fieldBytes, dataLength, headend.headend.property]
  | clientCaInfo info =>
      simp only [bytes, fieldBytes, List.length_append, Wire.length_word16, dataLength]
      omega
  | unknown type fieldCount data =>
      simp only [bytes, fieldBytes, List.length_append, Wire.length_word16, dataLength]
  | physicalChannel _ | downstreamBandwidth _ | atscModulation _ => rfl

theorem reads_program {program : MpegProgram} (fits : program.streams.length < 65536) :
    readProgram.Reads (fieldBytes (mpegProgram program)) program := by
  have count : (UInt16.ofNat program.streams.length).toNat = program.streams.length :=
    UInt16.toNat_ofNat_of_lt' fits
  have streams : (Reader.replicate ElementaryStream.read program.streams.length).Reads
      (program.streams.flatMap ElementaryStream.bytes) program.streams :=
    .replicate program.streams fun stream _ => stream.reads
  simp only [fieldBytes, List.append_assoc]
  refine .bind (.word16 _) (.bind (.word16 _) (.bind (.word16 _) (.bind (.word16 _) ?_)))
  rw [count]
  refine .need ?_ (.bind streams (.last (.word16 _)))
  rw [List.length_append, ElementaryStream.length_flatMap_bytes]
  omega

theorem reads_modulation {m : AtscModulation} (canonical : m.modulation.IsCanonical)
    (one other : UInt8) :
    readModulation.Reads
      ([m.transmissionSystem, m.innerCodingMode, m.splitBitstreamMode, m.modulation.toByte]
        ++ Wire.word32 m.symbolRate
        ++ [one, m.interleaveDepth, m.modulationMode, m.forwardErrorCorrection, other]) m := by
  refine .byte (.byte (.byte (.byte ?_)))
  rw [Modulation.ofByte_toByte canonical]
  exact .bind (.word32 _) (.byte (.byte (.byte (.byte (.byte (.pure _))))))

theorem reads_caInfo {info : ClientCaInfo} (fits : info.caInfo.length < 65536) :
    readCaInfo.Reads (fieldBytes (clientCaInfo info)) info := by
  have length : info.caInfo.length = (UInt16.ofNat info.caInfo.length).toNat :=
    (UInt16.toNat_ofNat_of_lt' fits).symm
  simp only [fieldBytes, List.append_assoc]
  exact .bind (.word16 _) (.bind (.word16 _) (.bind (.word16 _) (.last (.bytes _ length))))

/-- Content of a type that is not known is everything after the field count. -/
theorem read_of_unknown {type : UInt16} (unknownType : type ∉ knownTypes) :
    read type = do
      let fieldCount ← Reader.word16
      return unknown type fieldCount (← Reader.rest) := by
  simp only [knownTypes, List.mem_cons, ← UInt16.toNat_inj, List.not_mem_nil, or_false,
    not_or] at unknownType
  obtain ⟨program, channel, bandwidth, modulation, headend, info⟩ := unknownType
  simp only [read]
  split
  next number => exact absurd number program
  next number => exact absurd number channel
  next number => exact absurd number bandwidth
  next number => exact absurd number modulation
  next number => exact absurd number headend
  next number => exact absurd number info
  rfl

/-- A content is read back from its fields, whatever count stands in front of them if its
type is known. -/
theorem whole_read_fieldBytes {content : ResourceContent} {count : UInt16}
    (fits : content.dataLength < 65536) (canonical : content.IsCanonical)
    (counted : content.type ∉ knownTypes → count = content.fieldCount) :
    Reader.whole (read content.type) (Wire.word16 count ++ content.fieldBytes) = .ok content := by
  cases content with
  | mpegProgram program =>
      have streams : program.streams.length < 65536 := by
        simp only [dataLength] at fits
        omega
      exact Reader.Reads.whole (.bind (.word16 _) (.last (reads_program streams)))
  | physicalChannel channel =>
      exact Reader.Reads.whole (.bind (.word16 _) (.bind (.word32 _) (.last (.word16 _))))
  | downstreamBandwidth bandwidth =>
      exact Reader.Reads.whole (.bind (.word16 _) (.bind (.word32 _) (.last (.word32 _))))
  | atscModulation modulation =>
      exact Reader.Reads.whole (.bind (.word16 _) (.last (reads_modulation canonical _ _)))
  | headendId headend =>
      rw [fieldBytes, List.append_assoc]
      exact Reader.Reads.whole
        (.bind (.word16 _) (.bind (.word16 _) (.bind (.octets _) (.last (.word32 _)))))
  | clientCaInfo info =>
      have length : info.caInfo.length < 65536 := by
        simp only [dataLength] at fits
        omega
      exact Reader.Reads.whole (.bind (.word16 _) (.last (reads_caInfo length)))
  | unknown number fieldCount data =>
      cases counted canonical
      have counts : Reader.word16 (Wire.word16 fieldCount ++ data) = .ok (fieldCount, data) :=
        Reader.Reads.word16 fieldCount data
      have all : read number (Wire.word16 fieldCount ++ data) =
          .ok (unknown number fieldCount data, []) := by
        rw [read_of_unknown canonical]
        exact congrArg (· >>= fun pair => pure (unknown number pair.1 pair.2, [])) counts
      change Reader.whole (read number) (Wire.word16 fieldCount ++ data) = _
      simp only [Reader.whole, all]
      rfl

end ResourceContent

namespace Resource

/-- A resource can be read back. -/
def IsCanonical (resource : Resource) : Prop := resource.content.IsCanonical

/-- The bytes of a resource whose content fits its length field. -/
def bytes (resource : Resource) : Bytes :=
  Wire.word16 resource.requestId ++ Wire.word16 resource.content.type
    ++ Wire.word16 resource.resourceNumber ++ Wire.word16 resource.associationTag
    ++ resource.flags :: resource.status
      :: Wire.word16 (UInt16.ofNat resource.content.dataLength)
    ++ resource.content.bytes

/-- A resource has an encoding exactly when its content fits its length field. -/
theorem encode_eq_ok_iff {resource : Resource} {encoded : Bytes} :
    resource.encode = .ok encoded ↔
      resource.content.dataLength < 65536 ∧ encoded = resource.bytes := by
  by_cases fits : resource.content.dataLength < 65536 <;>
    simp [encode, Wire.length16, fits, bytes, pure, bind, Except.pure, Except.bind, eq_comm]

/-- A resource takes up as many bytes as its length says. -/
theorem length_bytes (resource : Resource) : resource.bytes.length = resource.encodedLength := by
  simp only [bytes, List.length_append, List.length_cons, Wire.length_word16,
    ResourceContent.length_bytes, encodedLength]

theorem reads {resource : Resource} (fits : resource.content.dataLength < 65536)
    (canonical : resource.IsCanonical) : decode.Reads resource.bytes resource := by
  have length : resource.content.bytes.length =
      (UInt16.ofNat resource.content.dataLength).toNat := by
    rw [ResourceContent.length_bytes, UInt16.toNat_ofNat_of_lt' fits]
  simp only [bytes, List.append_assoc, List.cons_append]
  refine .bind (.word16 _) (.bind (.word16 _) (.bind (.word16 _) (.bind (.word16 _) ?_)))
  refine .byte (.byte (.bind (.word16 _) (.bindLast (.bytes _ length) ?_)))
  exact .lift (ResourceContent.whole_read_fieldBytes fits canonical fun _ => rfl) (.pure _)

end Resource

end OnDemand
