/-!
# Server modes

What the server was doing with a stream when playback came to be done.
-/

namespace OnDemand

/-- The playback mode of a server. -/
inductive StreamMode where
  | opened
  | pause
  | searchTransport
  | transport
  | transportPause
  | searchTransportPause
  | pauseSearchTransport
  | endOfStream
  /-- A mode without a name. -/
  | other (value : UInt8)
  deriving Repr, DecidableEq

namespace StreamMode

def ofByte (value : UInt8) : StreamMode :=
  match value.toNat with
  | 0 => .opened
  | 1 => .pause
  | 2 => .searchTransport
  | 3 => .transport
  | 4 => .transportPause
  | 5 => .searchTransportPause
  | 6 => .pauseSearchTransport
  | 7 => .endOfStream
  | _ => .other value

def toByte : StreamMode → UInt8
  | .opened => 0
  | .pause => 1
  | .searchTransport => 2
  | .transport => 3
  | .transportPause => 4
  | .searchTransportPause => 5
  | .pauseSearchTransport => 6
  | .endOfStream => 7
  | .other value => value

def name : StreamMode → String
  | .opened => "Open"
  | .pause => "Pause"
  | .searchTransport => "SearchTransport"
  | .transport => "Transport"
  | .transportPause => "TransportPause"
  | .searchTransportPause => "SearchTransportPause"
  | .pauseSearchTransport => "PauseSearchTransport"
  | .endOfStream => "EndOfStream"
  | .other value => "Other(" ++ toString value.toNat ++ ")"

end StreamMode

end OnDemand
