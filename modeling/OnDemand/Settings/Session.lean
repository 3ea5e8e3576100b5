import OnDemand.Address.Socket
import OnDemand.Session.Client

/-!
# Settings of session control
-/

namespace OnDemand

/-- The settings of a client that negotiates sessions. -/
structure SessionSettings where
  /-- Where the session resource manager listens. -/
  manager : SocketAddress
  /-- The port from which datagrams are sent; zero for any. -/
  localPort : UInt16 := 0
  clientIp : Ipv4Address
  clientMac : MacAddress
  /-- How often an unanswered request is sent again. -/
  retryCount : UInt32 := 3
  /-- How long a request waits for its confirm. -/
  messageTimerMs : UInt64 := 2000
  /-- How long an established session waits between keep-alives. -/
  keepAliveSecs : UInt64 := 300
  /-- Whether the network names the sessions. -/
  serverAssigns : Bool := false
  deriving Repr, DecidableEq

/-- What a client takes from the settings. Its identifiers have no room for a
manager's address of version 6. -/
def SessionSettings.client (settings : SessionSettings) : ClientSettings where
  managerIp := settings.manager.ipv4
  clientIp := settings.clientIp
  clientMac := settings.clientMac
  retryCount := settings.retryCount
  messageTimer := settings.messageTimerMs.toNat * 1000
  keepAliveInterval := settings.keepAliveSecs.toNat * 1000000
  serverAssigns := settings.serverAssigns

end OnDemand
