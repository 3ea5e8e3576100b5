import OnDemand.Address.Mac

/-!
# Session identifiers

A session is named by the address of the client's device and a number. A client
that leaves the choice of the name to the network sends the identifier of all
zeros.
-/

namespace OnDemand

/-- The name of a session on the wire. -/
structure SessionId where
  device : MacAddress
  number : UInt32
  deriving Repr, DecidableEq

namespace SessionId

/-- The identifier of a session that has not been named yet. -/
def zero : SessionId := ⟨.zero, 0⟩

instance : Inhabited SessionId := ⟨zero⟩

/-- Whether the session has not been named yet. -/
def isZero (id : SessionId) : Bool := id == zero

/-- The ten bytes: the device, then the number. -/
def bytes (id : SessionId) : Bytes := id.device.bytes ++ Wire.word32 id.number

def length : Nat := 10

@[simp] theorem length_bytes (id : SessionId) : id.bytes.length = length := by
  simp [bytes, MacAddress.bytes, id.device.octets.property, length]

/-- The bytes in hexadecimal. -/
def text (id : SessionId) : String := Text.hexBytes id.bytes

def label (id : SessionId) : String := "SessionId(" ++ id.text ++ ")"

end SessionId

end OnDemand
