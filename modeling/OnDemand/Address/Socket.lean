import OnDemand.Address.Endpoint
import OnDemand.Address.Ipv6

/-!
# Socket addresses

An internet address of either version together with a port. An address of version 6
stands in brackets and may name a scope. A port may have leading zeros.
-/

namespace OnDemand

/-- Where datagrams are sent to. -/
inductive SocketAddress where
  | v4 (endpoint : Ipv4Endpoint)
  | v6 (ip : Ipv6Address) (scope : UInt32) (port : UInt16)
  deriving Repr, DecidableEq

namespace SocketAddress

def port : SocketAddress → UInt16
  | v4 endpoint => endpoint.port
  | v6 _ _ port => port

/-- The address of version 4; one of version 6 has none to show. -/
def ipv4 : SocketAddress → Ipv4Address
  | v4 endpoint => endpoint.ip
  | v6 .. => .unspecified

def text : SocketAddress → String
  | v4 endpoint => endpoint.text
  | v6 ip scope port =>
      let scope := if scope = 0 then "" else "%" ++ toString scope.toNat
      "[" ++ ip.text ++ scope ++ "]:" ++ toString port.toNat

/-- The port written by a text. -/
def port? (text : List Char) : Option UInt16 :=
  ((Text.digitsIn? 10 text).filter (· < 65536)).map UInt16.ofNat

/-- The scope written after an address of version 6. -/
def scope? (text : List Char) : Option UInt32 :=
  match text with
  | [] => some 0
  | _ :: digits => ((Text.digitsIn? 10 digits).filter (· < 4294967296)).map UInt32.ofNat

/-- The socket address that a text stands for. -/
def parse? (text : List Char) : Option SocketAddress :=
  match text with
  | '[' :: rest =>
      let inside := rest.takeWhile (· != ']')
      match rest.dropWhile (· != ']') with
      | ']' :: ':' :: port => do
          let ip ← Ipv6Address.parse? (inside.takeWhile (· != '%'))
          return .v6 ip (← scope? (inside.dropWhile (· != '%'))) (← port? port)
      | _ => none
  | _ =>
      match text.dropWhile (· != ':') with
      | _ :: port => do
          let ip ← Ipv4Address.parse? (text.takeWhile (· != ':'))
          return .v4 ⟨ip, ← port? port⟩
      | [] => none

end SocketAddress

end OnDemand
