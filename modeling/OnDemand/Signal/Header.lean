import OnDemand.Signal.Kind
import OnDemand.Wire.Reader

/-!
# Headers of session messages

Twelve bytes: the protocol, the message family, the kind, the transaction, a
reserved byte, the length of the adaptation header, and the number of bytes that
follow.
-/

namespace OnDemand

/-- The header of a session message. -/
structure SignalHeader where
  kind : SignalKind
  transaction : UInt32
  adaptationLength : UInt8
  messageLength : UInt16
  deriving Repr, DecidableEq

namespace SignalHeader

def length : Nat := 12

/-- The protocol of session messages. -/
def discriminator : UInt8 := 0x11

/-- The family of messages between user and network. -/
def family : UInt8 := 0x02

def reserved : UInt8 := 0xFF

def bytes (header : SignalHeader) : Bytes :=
  discriminator :: family :: Wire.word16 header.kind.toWord
    ++ Wire.word32 header.transaction
    ++ reserved :: header.adaptationLength :: Wire.word16 header.messageLength

/-- The header at the front of the input. All its bytes must be there. -/
def read : Reader SignalHeader := do
  Reader.need length
  let protocol ← Reader.byte
  if protocol ≠ discriminator then throw (.badDiscriminator protocol)
  let type ← Reader.byte
  if type ≠ family then throw (.unsupportedType type)
  let number ← Reader.word16
  match SignalKind.ofWord? number with
  | none => throw (.unknownMessageId number)
  | some kind =>
      let transaction ← Reader.word32
      let _ ← Reader.byte
      let adaptationLength ← Reader.byte
      let messageLength ← Reader.word16
      return ⟨kind, transaction, adaptationLength, messageLength⟩

end SignalHeader

end OnDemand
