/-!
# Assets

What a client asks the session resource manager for.
-/

namespace OnDemand

/-- A request for an asset. -/
structure AssetRequest where
  providerId : UInt32 := 0
  assetId : UInt32 := 0
  /-- The service group into which the client is tuned. -/
  serviceGroup : UInt32 := 0
  /-- The node group of the plant, a number of 48 bits. -/
  nodeGroupId : UInt64 := 0
  assetName : Option String := none
  providerName : Option String := none
  /-- A recording of a network recorder. -/
  recordingId : Option String := none
  homeId : Option UInt32 := none
  smartCardId : Option UInt32 := none
  bitRate : Option UInt32 := none
  deriving Repr, DecidableEq

end OnDemand
