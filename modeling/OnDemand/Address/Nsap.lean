import OnDemand.Address.Ipv4
import OnDemand.Address.Mac

/-!
# Network service addresses

Clients and session resource managers are named by twenty bytes. An address of
the private format holds an internet address and a device address at fixed
places; those places are read the same way in any other address.
-/

namespace OnDemand

/-- The identifier of a client or of a session resource manager. -/
structure NsapAddress where
  octets : Octets 20
  deriving Repr, DecidableEq

namespace NsapAddress

def zero : NsapAddress := ⟨Octets.zero 20⟩

instance : Inhabited NsapAddress := ⟨zero⟩

def bytes (address : NsapAddress) : Bytes := address.octets.val

/-- The format byte of private addresses. -/
def privateFormat : UInt8 := 0x2D

/-- The private address of a device. -/
def ofDevice (ip : Ipv4Address) (mac : MacAddress) : NsapAddress :=
  ⟨⟨privateFormat :: List.replicate 8 0 ++ ip.bytes ++ mac.bytes ++ [0], by
    simp [Ipv4Address.bytes, MacAddress.bytes, mac.octets.property]⟩⟩

/-- The private address of a resource manager, which has no device address. -/
def ofManager (ip : Ipv4Address) : NsapAddress := ofDevice ip .zero

/-- The internet address at its place. -/
def ip (address : NsapAddress) : Ipv4Address :=
  match address.bytes.drop 9 with
  | a :: b :: c :: d :: _ => ⟨a, b, c, d⟩
  | _ => .unspecified

/-- The device address at its place. -/
def mac (address : NsapAddress) : MacAddress :=
  ⟨⟨(address.bytes.drop 13).take 6, by
    simp [bytes, address.octets.property]⟩⟩

/-- The address as the identifier of a client. -/
def clientLabel (address : NsapAddress) : String :=
  "ClientId(" ++ address.ip.text ++ "/" ++ address.mac.text ++ ")"

/-- The address as the identifier of a resource manager. -/
def managerLabel (address : NsapAddress) : String :=
  "ServerId(" ++ address.ip.text ++ ")"

end NsapAddress

end OnDemand
