import OnDemand.Wire.Word

/-!
# Resources

The network answers a session setup with the resources it has assigned. A
resource has a common header and a content, which starts with a field count.
Contents of a type that is not known are kept as bytes.
-/

namespace OnDemand

/-- How a channel is modulated. -/
inductive Modulation where
  | qam64
  | qam256
  | other (value : UInt8)
  deriving Repr, DecidableEq

namespace Modulation

def ofByte (value : UInt8) : Modulation :=
  if value = 0x08 then qam64 else if value = 0x10 then qam256 else other value

def toByte : Modulation → UInt8
  | qam64 => 0x08
  | qam256 => 0x10
  | other value => value

def name : Modulation → String
  | qam64 => "Qam64"
  | qam256 => "Qam256"
  | other value => "Other(" ++ toString value.toNat ++ ")"

end Modulation

/-- One stream of a program. -/
structure ElementaryStream where
  pid : UInt16
  streamType : UInt8
  associationTag : UInt16
  deriving Repr, DecidableEq

/-- The program that carries the asset. -/
structure MpegProgram where
  programNumber : UInt16
  pmtPid : UInt16
  caPid : UInt16
  streams : List ElementaryStream
  pcrPid : UInt16
  deriving Repr, DecidableEq

/-- The channel to tune to. -/
structure PhysicalChannel where
  frequencyHz : UInt32
  direction : UInt16
  deriving Repr, DecidableEq

/-- The bandwidth set aside in a transport stream. -/
structure DownstreamBandwidth where
  bitsPerSecond : UInt32
  transportStreamId : UInt32
  deriving Repr, DecidableEq

/-- The parameters of a modulated channel. -/
structure AtscModulation where
  transmissionSystem : UInt8
  innerCodingMode : UInt8
  splitBitstreamMode : UInt8
  modulation : Modulation
  symbolRate : UInt32
  interleaveDepth : UInt8
  modulationMode : UInt8
  forwardErrorCorrection : UInt8
  deriving Repr, DecidableEq

/-- The headend that serves the session. -/
structure HeadendId where
  flag : UInt16
  headend : Octets 20
  transportStreamId : UInt32
  deriving DecidableEq

/-- What a conditional-access component needs for an encrypted asset. -/
structure ClientCaInfo where
  caSystemId : UInt16
  copyProtection : UInt16
  caInfo : Bytes
  deriving Repr, DecidableEq

/-- The entitlement: four bytes after the six of the access descriptor's head. -/
def ClientCaInfo.entitlementId? (info : ClientCaInfo) : Option UInt32 :=
  match info.caInfo.drop 6 with
  | a :: b :: c :: d :: _ => some (Wire.ofWord32 a b c d)
  | _ => none

/-- The typed part of a resource. -/
inductive ResourceContent where
  | mpegProgram (program : MpegProgram)
  | physicalChannel (channel : PhysicalChannel)
  | downstreamBandwidth (bandwidth : DownstreamBandwidth)
  | atscModulation (modulation : AtscModulation)
  | headendId (headend : HeadendId)
  | clientCaInfo (info : ClientCaInfo)
  | unknown (type fieldCount : UInt16) (data : Bytes)
  deriving DecidableEq

namespace ResourceContent

def name : ResourceContent → String
  | mpegProgram _ => "MpegProgram"
  | physicalChannel _ => "PhysicalChannel"
  | downstreamBandwidth _ => "DownstreamBandwidth"
  | atscModulation _ => "AtscModulation"
  | headendId _ => "HeadendId"
  | clientCaInfo _ => "ClientCaInfo"
  | unknown .. => "Unknown"

def type : ResourceContent → UInt16
  | mpegProgram _ => 0x0003
  | physicalChannel _ => 0x0004
  | downstreamBandwidth _ => 0x0006
  | atscModulation _ => 0xF001
  | headendId _ => 0xF003
  | clientCaInfo _ => 0xF004
  | unknown type _ _ => type

/-- The number of fields announced in front of the fields. -/
def fieldCount : ResourceContent → UInt16
  | mpegProgram _ => 5
  | physicalChannel _ => 2
  | downstreamBandwidth _ => 2
  | atscModulation _ => 9
  | headendId _ => 3
  | clientCaInfo _ => 3
  | unknown _ count _ => count

/-- The number of bytes of a content, its field count included. -/
def dataLength : ResourceContent → Nat
  | mpegProgram program => 12 + 5 * program.streams.length
  | physicalChannel _ => 8
  | downstreamBandwidth _ => 10
  | atscModulation _ => 15
  | headendId _ => 28
  | clientCaInfo info => 8 + info.caInfo.length
  | unknown _ _ data => 2 + data.length

end ResourceContent

/-- A resource assigned to a session. -/
structure Resource where
  requestId : UInt16
  resourceNumber : UInt16
  associationTag : UInt16
  flags : UInt8
  status : UInt8
  content : ResourceContent
  deriving DecidableEq

/-- The number of bytes of a resource: a header of twelve, then the content. -/
def Resource.encodedLength (resource : Resource) : Nat := 12 + resource.content.dataLength

end OnDemand
