import OnDemand.Address.Ipv4

/-!
# Endpoints

An internet address of version 4 together with a port.
-/

namespace OnDemand

/-- Where a streaming server listens. -/
structure Ipv4Endpoint where
  ip : Ipv4Address
  port : UInt16
  deriving Repr, DecidableEq, Inhabited

/-- The address and the port with a colon between them. -/
def Ipv4Endpoint.text (endpoint : Ipv4Endpoint) : String :=
  endpoint.ip.text ++ ":" ++ toString endpoint.port.toNat

end OnDemand
