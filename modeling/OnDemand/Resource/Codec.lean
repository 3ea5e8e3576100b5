import OnDemand.Resource.Basic
import OnDemand.Wire.Reader

/-!
# Resources on the wire

The header of a resource ends with the length of its content. The content must
be used up by the fields of its type. Field counts and the two reserved bytes of
a modulation are written with fixed values and are not looked at when read.
-/

namespace OnDemand

namespace ElementaryStream

def bytes (stream : ElementaryStream) : Bytes :=
  Wire.word16 stream.pid ++ stream.streamType :: Wire.word16 stream.associationTag

/-- A stream of five bytes. -/
def read : Reader ElementaryStream := do
  return ⟨← Reader.word16, ← Reader.byte, ← Reader.word16⟩

end ElementaryStream

namespace ResourceContent

def reserved : UInt8 := 0xFF

/-- The fields of a content, after its field count. -/
def fieldBytes : ResourceContent → Bytes
  | mpegProgram program =>
      Wire.word16 program.programNumber ++ Wire.word16 program.pmtPid
        ++ Wire.word16 program.caPid
        ++ Wire.word16 (UInt16.ofNat program.streams.length)
        ++ program.streams.flatMap ElementaryStream.bytes
        ++ Wire.word16 program.pcrPid
  | physicalChannel channel =>
      Wire.word32 channel.frequencyHz ++ Wire.word16 channel.direction
  | downstreamBandwidth bandwidth =>
      Wire.word32 bandwidth.bitsPerSecond ++ Wire.word32 bandwidth.transportStreamId
  | atscModulation m =>
      [m.transmissionSystem, m.innerCodingMode, m.splitBitstreamMode, m.modulation.toByte]
        ++ Wire.word32 m.symbolRate
        ++ [reserved, m.interleaveDepth, m.modulationMode, m.forwardErrorCorrection, reserved]
  | headendId headend =>
      Wire.word16 headend.flag ++ headend.headend.val ++ Wire.word32 headend.transportStreamId
  | clientCaInfo info =>
      Wire.word16 info.caSystemId ++ Wire.word16 info.copyProtection
        ++ Wire.word16 (UInt16.ofNat info.caInfo.length) ++ info.caInfo
  | unknown _ _ data => data

def bytes (content : ResourceContent) : Bytes :=
  Wire.word16 content.fieldCount ++ content.fieldBytes

/-- The fields of a program. All its streams must be there before one is read. -/
def readProgram : Reader MpegProgram := do
  let programNumber ← Reader.word16
  let pmtPid ← Reader.word16
  let caPid ← Reader.word16
  let count ← Reader.word16
  Reader.need (count.toNat * 5)
  let streams ← Reader.replicate ElementaryStream.read count.toNat
  let pcrPid ← Reader.word16
  return ⟨programNumber, pmtPid, caPid, streams, pcrPid⟩

/-- The fields of a modulated channel. -/
def readModulation : Reader AtscModulation := do
  let transmissionSystem ← Reader.byte
  let innerCodingMode ← Reader.byte
  let splitBitstreamMode ← Reader.byte
  let modulation := Modulation.ofByte (← Reader.byte)
  let symbolRate ← Reader.word32
  let _ ← Reader.byte
  let interleaveDepth ← Reader.byte
  let modulationMode ← Reader.byte
  let forwardErrorCorrection ← Reader.byte
  let _ ← Reader.byte
  return ⟨transmissionSystem, innerCodingMode, splitBitstreamMode, modulation, symbolRate,
    interleaveDepth, modulationMode, forwardErrorCorrection⟩

/-- The fields for a conditional-access component. -/
def readCaInfo : Reader ClientCaInfo := do
  let caSystemId ← Reader.word16
  let copyProtection ← Reader.word16
  let length ← Reader.word16
  return ⟨caSystemId, copyProtection, ← Reader.bytes length.toNat⟩

/-- A content of a type. -/
def read (type : UInt16) : Reader ResourceContent := do
  let fieldCount ← Reader.word16
  match type.toNat with
  | 0x0003 => return mpegProgram (← readProgram)
  | 0x0004 => return physicalChannel ⟨← Reader.word32, ← Reader.word16⟩
  | 0x0006 => return downstreamBandwidth ⟨← Reader.word32, ← Reader.word32⟩
  | 0xF001 => return atscModulation (← readModulation)
  | 0xF003 => return headendId ⟨← Reader.word16, ← Reader.octets 20, ← Reader.word32⟩
  | 0xF004 => return clientCaInfo (← readCaInfo)
  | _ => return unknown type fieldCount (← Reader.rest)

end ResourceContent

namespace Resource

/-- The bytes of a resource. A content that is too long has no encoding. -/
def encode (resource : Resource) : Except WireError Bytes := do
  let length ← Wire.length16 resource.content.dataLength
  return Wire.word16 resource.requestId ++ Wire.word16 resource.content.type
    ++ Wire.word16 resource.resourceNumber ++ Wire.word16 resource.associationTag
    ++ resource.flags :: resource.status :: Wire.word16 length
    ++ resource.content.bytes

def encodeAll : List Resource → Except WireError Bytes
  | [] => .ok []
  | resource :: rest => do
      let front ← resource.encode
      let others ← encodeAll rest
      return front ++ others

/-- The first resource of the input. -/
def decode : Reader Resource := do
  let requestId ← Reader.word16
  let type ← Reader.word16
  let resourceNumber ← Reader.word16
  let associationTag ← Reader.word16
  let flags ← Reader.byte
  let status ← Reader.byte
  let length ← Reader.word16
  let data ← Reader.bytes length.toNat
  let content ← (Reader.whole (ResourceContent.read type) data : Except WireError _)
  return ⟨requestId, resourceNumber, associationTag, flags, status, content⟩

end Resource

end OnDemand
