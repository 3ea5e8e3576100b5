import OnDemand.Text.Hex

/-!
# Response codes

The number with which a confirm accepts or refuses a request, and its meaning.
-/

namespace OnDemand

/-- The outcome carried by a confirm. -/
structure ResponseCode where
  value : UInt16
  deriving Repr, DecidableEq

namespace ResponseCode

/-- The request was carried out. -/
def ok : ResponseCode := ⟨0x0000⟩

/-- Whether the code accepts the request. -/
def isOk (code : ResponseCode) : Bool := code.value == 0

def description (code : ResponseCode) : String :=
  match code.value.toNat with
  | 0x0000 => "Request completed with no errors"
  | 0x0001 => "Network is unable to assign a session id"
  | 0x0002 => "Client is not known to the network"
  | 0x0003 => "Server is not known to the network"
  | 0x0004 => "Requested session does not exist in the network"
  | 0x0005 => "Server is unable to accept new sessions"
  | 0x0006 => "Server rejected the client"
  | 0x0007 => "Requested service is not available on the server"
  | 0x0008 => "Requested continuous feed session is not available"
  | 0x0009 => "Client did not respond"
  | 0x000A => "Server did not respond"
  | 0x0010 => "Requested session does not exist on the server"
  | 0x0011 => "Resources were allocated, processing continues"
  | 0x0012 => "Network failed to allocate the requested resources"
  | 0x0013 => "Resources were allocated"
  | 0x0014 => "Resource values must be negotiated"
  | 0x0015 => "Client session is proceeding"
  | 0x0016 => "Unknown resource request id"
  | 0x0017 => "Client is unable to use the assigned resources"
  | 0x0018 => "Client is unable to accept new sessions"
  | 0x0019 => "Network has no resources for the session"
  | 0x0020 => "Server forwarded the session: overloaded"
  | 0x0021 => "Server forwarded the session: maintenance"
  | 0x0022 => "Server rejected the assigned resources"
  | 0x8001 => "Requested asset was not found"
  | 0x8002 => "Insufficient bandwidth in the service group"
  | 0x8003 => "Client is not entitled to the asset"
  | 0x8004 => "Server is busy, try again later"
  | _ => "Unknown response code"

def text (code : ResponseCode) : String :=
  code.description ++ " (" ++ Text.hexNumeral 4 code.value.toNat ++ ")"

def label (code : ResponseCode) : String :=
  "ResponseCode(" ++ Text.hexNumeral 4 code.value.toNat ++ ")"

end ResponseCode

end OnDemand
