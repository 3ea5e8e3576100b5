import OnDemand.Text.Hex
import OnDemand.Descriptor.Category

/-!
# Faults of the wire formats

Every encoder and decoder of this library fails with one of these causes. The
wording shown to a person is in `WireError.message` alone.
-/

namespace OnDemand

/-- A field whose value can be refused although its length is right. -/
inductive WireField where
  | nodeGroupId
  | assetName
  | providerName
  | recordingId
  | privateDataProtocol
  | opcode
  deriving Repr, DecidableEq

def WireField.name : WireField → String
  | nodeGroupId => "node group id"
  | assetName => "asset name"
  | providerName => "provider name"
  | recordingId => "recording id"
  | privateDataProtocol => "private data protocol id"
  | opcode => "opcode"

/-- Why bytes were refused, or why a value has no encoding. -/
inductive WireError where
  /-- Fewer bytes are left than a field needs. -/
  | insufficientData (expected actual : Nat)
  /-- A length field disagrees with what is there. -/
  | lengthMismatch (declared actual : Nat)
  | badDiscriminator (value : UInt8)
  | unsupportedType (value : UInt8)
  | unknownMessageId (value : UInt16)
  | unknownOpcode (value : UInt8)
  | unsupportedVersion (value : UInt8)
  /-- A descriptor of another category stands in a list of `category`. -/
  | illegalDescriptor (tag : UInt8) (category : DescriptorCategory)
  /-- A value is longer than its length field can say. -/
  | valueTooLong (length limit : Nat)
  | invalidValue (field : WireField)
  deriving Repr, DecidableEq

def WireError.name : WireError → String
  | insufficientData .. => "InsufficientData"
  | lengthMismatch .. => "LengthMismatch"
  | badDiscriminator _ => "BadProtocolDiscriminator"
  | unsupportedType _ => "UnsupportedDsmccType"
  | unknownMessageId _ => "UnknownMessageId"
  | unknownOpcode _ => "UnknownOpcode"
  | unsupportedVersion _ => "UnsupportedVersion"
  | illegalDescriptor .. => "IllegalDescriptor"
  | valueTooLong .. => "ValueTooLong"
  | invalidValue _ => "InvalidValue"

def WireError.message : WireError → String
  | insufficientData expected actual =>
      s!"Insufficient data: expected {expected} bytes, got {actual}"
  | lengthMismatch declared actual =>
      s!"Length mismatch: header declares {declared} bytes, found {actual}"
  | badDiscriminator value =>
      "Bad protocol discriminator: " ++ Text.hexNumeral 2 value.toNat
  | unsupportedType value => "Unsupported DSMCC type: " ++ Text.hexNumeral 2 value.toNat
  | unknownMessageId value => "Unknown message id: " ++ Text.hexNumeral 4 value.toNat
  | unknownOpcode value => "Unknown LSCP opcode: " ++ Text.hexNumeral 2 value.toNat
  | unsupportedVersion value => s!"Unsupported LSCP version: {value.toNat}"
  | illegalDescriptor tag category =>
      "Descriptor tag " ++ Text.hexNumeral 2 tag.toNat ++ " is not legal in the "
        ++ category.name ++ " category"
  | valueTooLong length limit => s!"Value too long: {length} bytes (max {limit})"
  | invalidValue field => "Invalid value for " ++ field.name

end OnDemand
