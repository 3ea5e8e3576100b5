import OnDemand.Playback.Stream
import OnDemand.Session.Basic

/-!
# From a session to its stream

An established session whose confirm told where the stream is served, and under
which handle, can be streamed. The length of the asset, if told, ends the stream.
-/

namespace OnDemand

/-- Why a session cannot be streamed. -/
inductive OpenError where
  | notReady (state : SessionState)
  | noEndpoint
  | noHandle
  deriving Repr, DecidableEq

def OpenError.name : OpenError → String
  | notReady _ => "NotReady"
  | noEndpoint => "NoStreamEndpoint"
  | noHandle => "NoStreamHandle"

def OpenError.message : OpenError → String
  | notReady state => "Session is " ++ state.name ++ ", not ready for streaming"
  | noEndpoint => "Setup confirm carried no stream endpoint"
  | noHandle => "Setup confirm carried no stream handle"

/-- The stream of a session, and where it is served. -/
def Session.openStream (session : Session) (settings : StreamSettings) :
    Except OpenError (Ipv4Endpoint × Stream) :=
  if ¬ session.state.isEstablished then .error (.notReady session.state)
  else
    match session.endpoint, session.handle with
    | none, _ => .error .noEndpoint
    | some _, none => .error .noHandle
    | some endpoint, some handle =>
        .ok (endpoint, (Stream.initial handle settings).setAssetEnd session.duration)

end OnDemand
