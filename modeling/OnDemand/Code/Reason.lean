import OnDemand.Text.Hex

/-!
# Reason codes

The number with which a release, reset or status message explains itself.
-/

namespace OnDemand

/-- Why a session was released, a client reset, or a status asked for. -/
structure ReasonCode where
  value : UInt16
  deriving Repr, DecidableEq

namespace ReasonCode

/-- No reason is given. -/
def ok : ReasonCode := ⟨0x0000⟩

def normal : ReasonCode := ⟨0x0001⟩

def clientRelease : ReasonCode := ⟨0x0010⟩

def description (code : ReasonCode) : String :=
  match code.value.toNat with
  | 0x0000 => "No reason given"
  | 0x0001 => "Normal conditions"
  | 0x0002 => "Client procedure error"
  | 0x0003 => "Network procedure error"
  | 0x0004 => "Server procedure error"
  | 0x0005 => "Client message format error"
  | 0x0006 => "Network message format error"
  | 0x0007 => "Server message format error"
  | 0x0008 => "Network timed out waiting for a confirm"
  | 0x0009 => "Server timed out waiting for a confirm"
  | 0x0010 => "Client released the session"
  | 0x0011 => "Server released the session"
  | 0x0012 => "Network released the session"
  | 0x0013 => "Session released after inactivity"
  | 0x0014 => "Session released at end of stream"
  | _ => "Unknown reason code"

def text (code : ReasonCode) : String :=
  code.description ++ " (" ++ Text.hexNumeral 4 code.value.toNat ++ ")"

def label (code : ReasonCode) : String :=
  "ReasonCode(" ++ Text.hexNumeral 4 code.value.toNat ++ ")"

end ReasonCode

end OnDemand
