import OnDemand.Resource.Codec
import OnDemand.Signal.Basic
import OnDemand.Signal.Header

/-!
# Session messages on the wire

After the header come the adaptation header and the body. A datagram holds one
message, whose length field must be right and whose body must be used up.
-/

namespace OnDemand

/-- A session identifier. All its bytes must be there. -/
def Reader.sessionId : Reader SessionId := do
  Reader.need SessionId.length
  return ⟨⟨← Reader.octets 6⟩, ← Reader.word32⟩

/-- The identifier of a client or resource manager. -/
def Reader.nsap : Reader NsapAddress := do return ⟨← Reader.octets 20⟩

namespace UserData

/-- The bytes of user data. Neither part may be too long for its length field. -/
def encode (data : UserData) : Except WireError Bytes := do
  let uuLength ← Wire.length16 data.uu.length
  let privateLength ← Wire.length16 data.privateData.length
  return Wire.word16 uuLength ++ data.uu ++ Wire.word16 privateLength ++ data.privateData

/-- The user data at the front of the input. -/
def read : Reader UserData := do
  let uuLength ← Reader.word16
  let uu ← Reader.bytes uuLength.toNat
  let privateLength ← Reader.word16
  return ⟨uu, ← Reader.bytes privateLength.toNat⟩

end UserData

namespace SignalBody

/-- The value of the two reserved bytes of a setup request. -/
def setupReserved : UInt16 := 0xFFFF

/-- The bytes of a body. -/
def encode : SignalBody → Except WireError Bytes
  | setupRequest body => do
      return body.session.bytes ++ Wire.word16 setupReserved ++ body.client.bytes
        ++ body.server.bytes ++ (← body.userData.encode)
  | setupConfirm body => do
      let count ← Wire.length16 body.resources.length
      let resources ← Resource.encodeAll body.resources
      return body.session.bytes ++ Wire.word16 body.response.value ++ body.server.bytes
        ++ Wire.word16 count ++ resources ++ (← body.userData.encode)
  | connectRequest body => do
      return body.session.bytes ++ (← body.userData.encode)
  | release _ body => do
      return body.session.bytes ++ Wire.word16 body.reason.value ++ (← body.userData.encode)
  | statusRequest body | statusConfirm body => do
      let length ← Wire.length16 body.data.length
      return Wire.word16 body.reason.value ++ body.client.bytes ++ Wire.word16 body.type
        ++ Wire.word16 length ++ body.data
  | reset _ body => .ok (body.client.bytes ++ Wire.word16 body.reason.value)
  | sessionInProgress sessions => do
      let count ← Wire.length16 sessions.length
      return Wire.word16 count ++ sessions.flatMap SessionId.bytes

def readSetupConfirm : Reader SetupConfirm := do
  let session ← Reader.sessionId
  let response := ⟨← Reader.word16⟩
  let server ← Reader.nsap
  let count ← Reader.word16
  let resources ← Reader.replicate Resource.decode count.toNat
  return ⟨session, response, server, resources, ← UserData.read⟩

/-- The body of a step of releasing a session. -/
def readRelease : Reader Release := do
  return ⟨← Reader.sessionId, ⟨← Reader.word16⟩, ← UserData.read⟩

def readStatus : Reader ClientStatus := do
  let reason := ⟨← Reader.word16⟩
  let client ← Reader.nsap
  let type ← Reader.word16
  let length ← Reader.word16
  return ⟨reason, client, type, ← Reader.bytes length.toNat⟩

/-- The body of a message of a kind. -/
def read : SignalKind → Reader SignalBody
  | .setupRequest => do
      let session ← Reader.sessionId
      let _ ← Reader.word16
      return setupRequest ⟨session, ← Reader.nsap, ← Reader.nsap, ← UserData.read⟩
  | .setupConfirm => do return setupConfirm (← readSetupConfirm)
  | .connectRequest => do return connectRequest ⟨← Reader.sessionId, ← UserData.read⟩
  | .release step => do return release step (← readRelease)
  | .statusRequest => do return statusRequest (← readStatus)
  | .statusConfirm => do return statusConfirm (← readStatus)
  | .reset step => do return reset step ⟨← Reader.nsap, ⟨← Reader.word16⟩⟩
  | .sessionInProgress => do
      let count ← Reader.word16
      Reader.need (count.toNat * SessionId.length)
      return sessionInProgress (← Reader.replicate Reader.sessionId count.toNat)

end SignalBody

namespace Signal

/-- The bytes of a message. The adaptation header must fit its one-byte length,
and it and the body together must fit their two-byte length. -/
def encode (message : Signal) : Except WireError Bytes := do
  let adaptationLength ← Wire.length8 message.adaptation.length
  let body ← message.body.encode
  let payload := message.adaptation ++ body
  let messageLength ← Wire.length16 payload.length
  let header : SignalHeader :=
    ⟨message.kind, message.transaction, adaptationLength, messageLength⟩
  return header.bytes ++ payload

/-- The message of a datagram. -/
def decode (datagram : Bytes) : Except WireError Signal := do
  let (header, payload) ← SignalHeader.read datagram
  let declared := header.messageLength.toNat
  if payload.length ≠ declared then throw (.lengthMismatch declared payload.length)
  let (adaptation, input) ← Reader.bytes header.adaptationLength.toNat payload
  let (body, left) ← SignalBody.read header.kind input
  if ¬ left.isEmpty then throw (.lengthMismatch (declared - left.length) declared)
  return ⟨header.transaction, adaptation, body⟩

end Signal

end OnDemand
