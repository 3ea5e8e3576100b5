import OnDemand.Text.Hex

/-!
# Status of replies

The number with which a server accepts or refuses a request about a stream.
-/

namespace OnDemand

/-- The outcome carried by a reply. -/
structure StreamStatus where
  value : UInt8
  deriving Repr, DecidableEq

namespace StreamStatus

def ok : StreamStatus := ⟨0x00⟩

/-- Whether the request was carried out. -/
def isOk (status : StreamStatus) : Bool := status.value == 0

def description (status : StreamStatus) : String :=
  match status.value.toNat with
  | 0x00 => "Success"
  | 0x10 => "Invalid request"
  | 0x11 => "Invalid stream handle"
  | 0x12 => "Request not valid in the current state"
  | 0x13 => "Unknown error"
  | 0x14 => "Client has no permission for the request"
  | 0x15 => "Invalid parameter"
  | 0x16 => "Request not implemented by the server"
  | 0x17 => "Server out of memory"
  | 0x18 => "Server implementation limit exceeded"
  | 0x19 => "Transient error, retry the request"
  | 0x1A => "No resources available"
  | 0x20 => "Server error"
  | 0x21 => "Server failure"
  | 0x30 => "Unsupported scale"
  | 0x31 => "Invalid start position"
  | 0x32 => "Invalid stop position"
  | 0x40 => "MPEG delivery error"
  | _ => "Unrecognized status"

def text (status : StreamStatus) : String :=
  status.description ++ " (" ++ Text.hexNumeral 2 status.value.toNat ++ ")"

def label (status : StreamStatus) : String :=
  "LscpStatus(" ++ Text.hexNumeral 2 status.value.toNat ++ ")"

end StreamStatus

end OnDemand
