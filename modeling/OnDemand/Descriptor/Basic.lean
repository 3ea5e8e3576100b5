import OnDemand.Address.Endpoint
import OnDemand.Address.Mac
import OnDemand.Descriptor.Category
import OnDemand.Text.Utf8

/-!
# Descriptors

Private data is a list of descriptors. A descriptor has a one-byte tag, a
one-byte length and a value. Requests hold descriptors of the next category as
their value, so descriptors form trees of at most three levels. A tag that has
no meaning in its category is kept with its bytes.
-/

namespace OnDemand

/-- A tagged value of private data. -/
inductive Descriptor where
  -- The generic category.
  | assetId (provider asset : UInt32)
  /-- A number of 48 bits. -/
  | nodeGroupId (id : UInt64)
  | streamEndpoint (endpoint : Ipv4Endpoint)
  | streamHandle (handle : UInt32)
  | appRequest (children : List Descriptor)
  | appResponse (value : Bytes)
  | billingId (id : UInt32)
  | purchaseTime (time : UInt32)
  | timeRemaining (time : UInt32)
  | errorCode (code : UInt32)
  /-- The length of the asset in milliseconds. -/
  | assetDuration (milliseconds : UInt32)
  -- The application-request category.
  | vendorRequest (children : List Descriptor)
  | clientMac (mac : MacAddress)
  | smartCardId (id : UInt32)
  | protocolVersion (version : UInt8)
  -- The vendor-request category.
  | serviceGroup (group : UInt32)
  | assetName (name : String)
  | providerName (name : String)
  | recordingId (id : String)
  | homeId (id : UInt32)
  | bitRate (rate : UInt32)
  /-- A tag without a meaning in the category where it stands. -/
  | unknown (tag : UInt8) (value : Bytes)

namespace Descriptor

instance : Inhabited Descriptor := ⟨unknown 0 []⟩

def name : Descriptor → String
  | assetId .. => "AssetId"
  | nodeGroupId _ => "NodeGroupId"
  | streamEndpoint _ => "StreamEndpoint"
  | streamHandle _ => "StreamHandle"
  | appRequest _ => "AppRequest"
  | appResponse _ => "AppResponse"
  | billingId _ => "BillingId"
  | purchaseTime _ => "PurchaseTime"
  | timeRemaining _ => "TimeRemaining"
  | errorCode _ => "ErrorCode"
  | assetDuration _ => "AssetDuration"
  | vendorRequest _ => "VendorRequest"
  | clientMac _ => "ClientMac"
  | smartCardId _ => "SmartCardId"
  | protocolVersion _ => "ProtocolVersion"
  | serviceGroup _ => "ServiceGroup"
  | assetName _ => "AssetName"
  | providerName _ => "ProviderName"
  | recordingId _ => "RecordingId"
  | homeId _ => "HomeId"
  | bitRate _ => "BitRate"
  | unknown .. => "Unknown"

/-- The tag of a descriptor on the wire. -/
def tag : Descriptor → UInt8
  | assetId .. => 0x01
  | nodeGroupId _ => 0x02
  | streamEndpoint _ => 0x03
  | streamHandle _ => 0x04
  | appRequest _ => 0x05
  | appResponse _ => 0x06
  | billingId _ => 0x07
  | purchaseTime _ => 0x08
  | timeRemaining _ => 0x09
  | errorCode _ => 0x0A
  | assetDuration _ => 0x0B
  | vendorRequest _ => 0x01
  | clientMac _ => 0x02
  | smartCardId _ => 0x03
  | protocolVersion _ => 0x04
  | serviceGroup _ => 0x01
  | assetName _ => 0x02
  | providerName _ => 0x03
  | recordingId _ => 0x04
  | homeId _ => 0x05
  | bitRate _ => 0x06
  | unknown tag _ => tag

/-- The category in which a descriptor has its meaning; an unknown tag may stand
anywhere. -/
def category? : Descriptor → Option DescriptorCategory
  | assetId .. | nodeGroupId _ | streamEndpoint _ | streamHandle _ | appRequest _
  | appResponse _ | billingId _ | purchaseTime _ | timeRemaining _ | errorCode _
  | assetDuration _ => some .generic
  | vendorRequest _ | clientMac _ | smartCardId _ | protocolVersion _ => some .appRequest
  | serviceGroup _ | assetName _ | providerName _ | recordingId _ | homeId _
  | bitRate _ => some .vendorRequest
  | unknown .. => none

mutual

def valueLength : Descriptor → Nat
  | assetId .. => 8
  | nodeGroupId _ | streamEndpoint _ | clientMac _ => 6
  | protocolVersion _ => 1
  | streamHandle _ | billingId _ | purchaseTime _ | timeRemaining _ | errorCode _
  | assetDuration _ | smartCardId _ | serviceGroup _ | homeId _ | bitRate _ => 4
  | appRequest children => totalLength children
  | vendorRequest children => totalLength children
  | assetName text | providerName text | recordingId text => text.utf8ByteSize
  | appResponse value => value.length
  | unknown _ value => value.length

def totalLength : List Descriptor → Nat
  | [] => 0
  | child :: rest => 2 + child.valueLength + totalLength rest

end

/-- The number of bytes of a whole descriptor. -/
def encodedLength (descriptor : Descriptor) : Nat := 2 + descriptor.valueLength

def valueLimit : Nat := 255

end Descriptor

end OnDemand
