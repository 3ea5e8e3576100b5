import OnDemand.Descriptor.Basic
import OnDemand.Wire.Error

/-!
# Writing descriptors

A descriptor is written for the category in which it stands. It has no encoding
there when it belongs to another category, when its value is longer than a byte
can count, or when its value or one of its children has no encoding.
-/

namespace OnDemand.Descriptor

def nodeGroupLimit : Nat := 0xFFFFFFFFFFFF

/-- The six low-order bytes of a node group identifier. -/
def nodeGroupBytes (id : UInt64) : Bytes :=
  Wire.word16 (UInt16.ofNat (id.toNat / UInt32.size)) ++ Wire.word32 (UInt32.ofNat id.toNat)

/-- Refuse a descriptor of another category and a value that is too long. -/
def checkPlace (category : DescriptorCategory) (descriptor : Descriptor) :
    Except WireError Unit :=
  if descriptor.category?.any (· ≠ category) then
    .error (.illegalDescriptor descriptor.tag category)
  else if descriptor.valueLength > valueLimit then
    .error (.valueTooLong descriptor.valueLength valueLimit)
  else .ok ()

mutual

def encodeValue : Descriptor → Except WireError Bytes
  | assetId provider asset => .ok (Wire.word32 provider ++ Wire.word32 asset)
  | nodeGroupId id =>
      if id.toNat > nodeGroupLimit then .error (.invalidValue .nodeGroupId)
      else .ok (nodeGroupBytes id)
  | streamEndpoint endpoint => .ok (endpoint.ip.bytes ++ Wire.word16 endpoint.port)
  | appRequest children => encodeAll .appRequest children
  | vendorRequest children => encodeAll .vendorRequest children
  | clientMac mac => .ok mac.bytes
  | protocolVersion version => .ok [version]
  | streamHandle word | billingId word | purchaseTime word | timeRemaining word
  | errorCode word | assetDuration word | smartCardId word | serviceGroup word
  | homeId word | bitRate word => .ok (Wire.word32 word)
  | assetName text | providerName text | recordingId text => .ok (Text.utf8 text)
  | appResponse value => .ok value
  | unknown _ value => .ok value

/-- The bytes of descriptors that follow each other in one category. -/
def encodeAll (category : DescriptorCategory) : List Descriptor → Except WireError Bytes
  | [] => .ok []
  | descriptor :: rest => do
      checkPlace category descriptor
      let value ← encodeValue descriptor
      let others ← encodeAll category rest
      return descriptor.tag :: UInt8.ofNat descriptor.valueLength :: (value ++ others)

end

/-- The bytes of a descriptor that stands in `category`. -/
def encode (category : DescriptorCategory) (descriptor : Descriptor) :
    Except WireError Bytes := do
  checkPlace category descriptor
  let value ← encodeValue descriptor
  return descriptor.tag :: UInt8.ofNat descriptor.valueLength :: value

end OnDemand.Descriptor
