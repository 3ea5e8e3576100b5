import OnDemand.Schedule.Agenda
import OnDemand.Wire.Error
import OnDemand.Wire.Word

/-!
# Transports

The way of datagrams to the session resource manager. A transport may refuse a
datagram; every attempt to send one is recorded with its time.
-/

namespace OnDemand

/-- An attempt to send a datagram, on behalf of a session or of the client. -/
structure SendAttempt where
  time : Time
  sender : Option Nat
  /-- The kept request of which the datagram is a copy, by its ticket. -/
  ticket : Option AlarmHandle
  bytes : Bytes
  delivered : Bool
  deriving Repr, DecidableEq

/-- A transport, with the attempts so far, latest first. Whether it refuses a
datagram may depend on the attempts before. -/
structure Transport where
  refuses : List SendAttempt → Bool := fun _ => false
  attempts : List SendAttempt := []

namespace Transport

/-- Send a datagram; the answer is whether the transport took it. -/
def send (time : Time) (sender : Option Nat) (ticket : Option AlarmHandle) (bytes : Bytes)
    (transport : Transport) : Bool × Transport :=
  let delivered := !transport.refuses transport.attempts
  (delivered,
    { transport with
      attempts := ⟨time, sender, ticket, bytes, delivered⟩ :: transport.attempts })

/-- A transport that refuses everything from now on, or nothing. -/
def setFailing (failing : Bool) (transport : Transport) : Transport :=
  { transport with refuses := fun _ => failing }

/-- The datagrams taken since an earlier state of the transport, in order. -/
def deliveredSince (earlier transport : Transport) : List Bytes :=
  (((transport.attempts.take (transport.attempts.length - earlier.attempts.length)).filter
    (·.delivered)).map (·.bytes)).reverse

end Transport

/-- Why a request was not sent. -/
inductive SubmitError where
  | unencodable (fault : WireError)
  | refused
  deriving Repr, DecidableEq

/-- What a transport says about a datagram that it refuses. -/
def Transport.refusal : String := "IO error: send disabled"

def SubmitError.message : SubmitError → String
  | unencodable fault => "Encoding failed: " ++ fault.message
  | refused => "Send failed: " ++ Transport.refusal

end OnDemand
