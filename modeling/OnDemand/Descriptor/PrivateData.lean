import OnDemand.Descriptor.Decode
import OnDemand.Descriptor.Encode

/-!
# Private data

Private data is a list of generic descriptors. Some resource managers expect a
header of three bytes in front of it: a protocol, a version and the number of
descriptors. Private data may be filled up with bytes of all ones to a multiple
of four bytes; up to three such bytes at the end are taken for padding.
-/

namespace OnDemand

/-- What stands in front of the descriptors. -/
inductive PrivateDataFormat where
  /-- The descriptors alone. -/
  | plain
  /-- A protocol, a version and the number of descriptors. -/
  | counted (protocol version : UInt8)
  deriving Repr, DecidableEq

def PrivateDataFormat.headerLength : PrivateDataFormat → Nat
  | plain => 0
  | counted .. => 3

/-- The top-level descriptors that accompany a message. -/
structure PrivateData where
  descriptors : List Descriptor

namespace PrivateData

/-- The byte with which private data is filled up. -/
def padByte : UInt8 := 0xFF

/-- The number of bytes that bring a length to a multiple of four. -/
def padLength (length : Nat) : Nat := (4 - length % 4) % 4

/-- The least multiple of four that is no less than a length. -/
def paddedLength (length : Nat) : Nat := length + padLength length

/-- Whether bytes at the end of private data are nothing but padding. -/
def isPadding (bytes : Bytes) : Bool :=
  (bytes.drop 3).isEmpty && bytes.all (· == padByte)

def unpaddedLength (format : PrivateDataFormat) (data : PrivateData) : Nat :=
  format.headerLength + Descriptor.totalLength data.descriptors

/-- The bytes in front of a number of descriptors. -/
def header (count : Nat) : PrivateDataFormat → Except WireError Bytes
  | .plain => .ok []
  | .counted protocol version => do return [protocol, version, ← Wire.length8 count]

/-- The bytes of private data, filled up to a multiple of four if `padded`. -/
def encode (format : PrivateDataFormat) (padded : Bool) (data : PrivateData) :
    Except WireError Bytes := do
  let length := data.unpaddedLength format
  let pad := if padded then padLength length else 0
  let _ ← Wire.length16 (length + pad)
  let front ← header data.descriptors.length format
  let body ← Descriptor.encodeAll .generic data.descriptors
  return front ++ body ++ List.replicate pad padByte

/-- The descriptors after the header of a format, and the bytes left. -/
def readDescriptors : PrivateDataFormat → Reader (List Descriptor)
  | .plain => Descriptor.readUntil isPadding Descriptor.genericValue
  | .counted protocol _ => do
      if (← Reader.byte) ≠ protocol then throw (.invalidValue .privateDataProtocol)
      let _ ← Reader.byte
      let count ← Reader.byte
      Reader.replicate (Descriptor.decode .generic) count.toNat

/-- The private data that bytes stand for. Nothing but padding may follow the
descriptors, and the version of a header is not compared. -/
def decode (format : PrivateDataFormat) (input : Bytes) : Except WireError PrivateData := do
  let (descriptors, left) ← readDescriptors format input
  if isPadding left then return ⟨descriptors⟩
  else throw (.lengthMismatch input.length (input.length - left.length))

/-- Where the stream is served: the first endpoint announced. -/
def streamEndpoint? (data : PrivateData) : Option Ipv4Endpoint :=
  data.descriptors.findSome? fun
    | .streamEndpoint endpoint => some endpoint
    | _ => none

/-- The first stream handle announced. -/
def streamHandle? (data : PrivateData) : Option UInt32 :=
  data.descriptors.findSome? fun
    | .streamHandle handle => some handle
    | _ => none

/-- The first asset length announced, in milliseconds. -/
def assetDuration? (data : PrivateData) : Option UInt32 :=
  data.descriptors.findSome? fun
    | .assetDuration milliseconds => some milliseconds
    | _ => none

end PrivateData

end OnDemand
