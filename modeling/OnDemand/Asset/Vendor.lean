import OnDemand.Asset.Basic
import OnDemand.Descriptor.PrivateData

/-!
# Vendors

Resource managers of different vendors agree on the session messages, but not on
the private data of a setup request: its framing, the layout of the application
request, and how often a setup request may be repeated.
-/

namespace OnDemand

/-- The vendor of a session resource manager. -/
inductive Vendor where
  | arris
  | seaChange
  | cloudDvr
  deriving Repr, DecidableEq

namespace Vendor

def name : Vendor → String
  | arris => "arris"
  | seaChange => "seachange"
  | cloudDvr => "clouddvr"

/-- A text with the capital letters of ASCII made small. -/
def lowerCase (text : String) : String :=
  String.ofList (text.toList.map Char.toLower)

/-- The vendor of a name in letters of either case, or the name that is not known. -/
def parse (text : String) : Except String Vendor :=
  match lowerCase text with
  | "arris" => .ok arris
  | "seachange" => .ok seaChange
  | "clouddvr" | "cloud-dvr" => .ok cloudDvr
  | other => .error other

/-- What is said about a name that is no vendor's. -/
def unknownMessage (name : String) : String := "unknown vendor: " ++ name

end Vendor

/-- What the setup requests for a vendor look like. -/
structure VendorProfile where
  vendor : Vendor
  /-- The framing of private data, in both directions. -/
  format : PrivateDataFormat
  /-- How often a setup request is repeated beyond the configured number. -/
  retryBonus : UInt32
  deriving Repr, DecidableEq

namespace VendorProfile

def ofVendor : Vendor → VendorProfile
  | .arris => ⟨.arris, .plain, 1⟩
  | .seaChange => ⟨.seaChange, .counted 0x01 0x02, 1⟩
  | .cloudDvr => ⟨.cloudDvr, .plain, 1⟩

/-- How often a setup request is repeated. -/
def setupRetries (profile : VendorProfile) (configured : UInt32) : Nat :=
  min (configured.toNat + profile.retryBonus.toNat) (UInt32.size - 1)

def appProtocolVersion : UInt8 := 2

/-- The vendor request for an asset. -/
def vendorRequest (vendor : Vendor) (asset : AssetRequest) : List Descriptor :=
  .serviceGroup asset.serviceGroup ::
    match vendor with
    | .arris =>
        (asset.assetName.map Descriptor.assetName).toList
          ++ (asset.providerName.map Descriptor.providerName).toList
    | .seaChange =>
        (asset.homeId.map Descriptor.homeId).toList
          ++ (asset.bitRate.map Descriptor.bitRate).toList
    | .cloudDvr =>
        (asset.recordingId.map Descriptor.recordingId).toList
          ++ (asset.homeId.map Descriptor.homeId).toList

def appRequest (vendor : Vendor) (asset : AssetRequest) (mac : MacAddress) : List Descriptor :=
  match vendor with
  | .arris | .cloudDvr => [.clientMac mac, .vendorRequest (vendorRequest vendor asset)]
  | .seaChange =>
      .protocolVersion appProtocolVersion ::
        ((asset.smartCardId.map Descriptor.smartCardId).toList
          ++ [.vendorRequest (vendorRequest vendor asset)])

def setupPrivateData (profile : VendorProfile) (asset : AssetRequest) (mac : MacAddress) :
    PrivateData :=
  ⟨[.assetId asset.providerId asset.assetId, .nodeGroupId asset.nodeGroupId,
    .appRequest (appRequest profile.vendor asset mac)]⟩

end VendorProfile

end OnDemand
