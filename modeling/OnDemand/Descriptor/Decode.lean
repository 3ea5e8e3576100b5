import OnDemand.Descriptor.Basic
import OnDemand.Wire.Reader

/-!
# Reading descriptors

The category in which a descriptor stands fixes the meaning of its tag. The
value must be used up by that meaning; a tag without one keeps its value as it
is. Values of requests are lists of descriptors of the next category.
-/

namespace OnDemand

def Reader.mac : Reader MacAddress := do return ⟨← Reader.octets 6⟩

def Reader.ipv4 : Reader Ipv4Address
  | a :: b :: c :: d :: rest => .ok (⟨a, b, c, d⟩, rest)
  | short => .error (.insufficientData 4 short.length)

/-- The text that all bytes left stand for, as the value of `field`. -/
def Reader.text (field : WireField) : Reader String := fun input =>
  match Text.ofUtf8? input with
  | some text => .ok (text, [])
  | none => .error (.invalidValue field)

namespace Descriptor

/-- The reads of a descriptor whose value is read as its tag says, one after
another. The value must be used up. -/
def fieldsWith (value : UInt8 → Reader Descriptor) : Cursor Descriptor := do
  let tag ← Reader.byte.attempt
  let length ← Reader.byte.attempt
  let front ← (Reader.bytes length.toNat).attempt
  liftM (Reader.whole (value tag) front)

/-- Move a cursor past a descriptor, or not at all. -/
def advanceWith (value : UInt8 → Reader Descriptor) : Cursor Descriptor :=
  Cursor.onCopy (fieldsWith value)

/-- A descriptor whose value is read as its tag says. -/
def readWith (value : UInt8 → Reader Descriptor) : Reader Descriptor :=
  Cursor.reader (advanceWith value)

theorem readWith_eq (value : UInt8 → Reader Descriptor) : readWith value = (do
    let tag ← Reader.byte
    let length ← Reader.byte
    let front ← Reader.bytes length.toNat
    liftM (Reader.whole (value tag) front)) := by
  simp only [readWith, advanceWith, fieldsWith, Cursor.reader_onCopy, Cursor.reader_bind,
    Cursor.reader_attempt, Cursor.reader_liftM]

theorem length_lt_of_readWith {value : UInt8 → Reader Descriptor} {input left : Bytes}
    {descriptor : Descriptor} (read : readWith value input = .ok (descriptor, left)) :
    left.length < input.length := by
  match input with
  | [] | [_] => cases read
  | tag :: length :: rest =>
    have reads : readWith value (tag :: length :: rest) = (do
        let (front, left) ← Reader.bytes length.toNat rest
        let descriptor ← Reader.whole (value tag) front
        return (descriptor, left)) := by
      rw [readWith_eq]
      simp only [bind, StateT.bind, Reader.byte, Except.bind]
      cases Reader.bytes length.toNat rest with
      | error fault => rfl
      | ok found => cases Reader.whole (value tag) found.1 <;> rfl
    rw [reads] at read
    simp only [Reader.bytes, bind, Except.bind, pure, Except.pure] at read
    split at read
    · cases read
    · rename_i taken
      split at taken
      · cases taken
        split at read
        · cases read
        · cases read
          simp only [List.length_drop, List.length_cons]
          omega
      · cases taken

/-- Descriptors one after another until the bytes left satisfy `stop`. -/
def readUntil (stop : Bytes → Bool) (value : UInt8 → Reader Descriptor) (input : Bytes) :
    Except WireError (List Descriptor × Bytes) :=
  if stop input then .ok ([], input)
  else
    match _read : readWith value input with
    | .error fault => .error fault
    | .ok (descriptor, left) =>
        match readUntil stop value left with
        | .error fault => .error fault
        | .ok (others, left) => .ok (descriptor :: others, left)
termination_by input.length
decreasing_by exact length_lt_of_readWith _read

/-- Descriptors one after another until no byte is left. -/
def readAll (value : UInt8 → Reader Descriptor) : Reader (List Descriptor) :=
  readUntil List.isEmpty value

/-- The meaning of a tag inside a vendor request. -/
def vendorValue (tag : UInt8) : Reader Descriptor :=
  match tag.toNat with
  | 0x01 => do return serviceGroup (← Reader.word32)
  | 0x02 => do return assetName (← Reader.text .assetName)
  | 0x03 => do return providerName (← Reader.text .providerName)
  | 0x04 => do return recordingId (← Reader.text .recordingId)
  | 0x05 => do return homeId (← Reader.word32)
  | 0x06 => do return bitRate (← Reader.word32)
  | _ => do return unknown tag (← Reader.rest)

/-- The meaning of a tag inside an application request. -/
def appValue (tag : UInt8) : Reader Descriptor :=
  match tag.toNat with
  | 0x01 => do return vendorRequest (← readAll vendorValue)
  | 0x02 => do return clientMac (← Reader.mac)
  | 0x03 => do return smartCardId (← Reader.word32)
  | 0x04 => do return protocolVersion (← Reader.byte)
  | _ => do return unknown tag (← Reader.rest)

/-- A node group identifier of six bytes. -/
def readNodeGroup : Reader UInt64
  | a :: b :: c :: d :: e :: f :: rest =>
      .ok (UInt64.ofNat ((Wire.ofWord16 a b).toNat * UInt32.size + (Wire.ofWord32 c d e f).toNat),
        rest)
  | short => .error (.insufficientData 6 short.length)

/-- The meaning of a tag at the top level of private data. -/
def genericValue (tag : UInt8) : Reader Descriptor :=
  match tag.toNat with
  | 0x01 => do return assetId (← Reader.word32) (← Reader.word32)
  | 0x02 => do return nodeGroupId (← readNodeGroup)
  | 0x03 => do return streamEndpoint ⟨← Reader.ipv4, ← Reader.word16⟩
  | 0x04 => do return streamHandle (← Reader.word32)
  | 0x05 => do return appRequest (← readAll appValue)
  | 0x06 => do return appResponse (← Reader.rest)
  | 0x07 => do return billingId (← Reader.word32)
  | 0x08 => do return purchaseTime (← Reader.word32)
  | 0x09 => do return timeRemaining (← Reader.word32)
  | 0x0A => do return errorCode (← Reader.word32)
  | 0x0B => do return assetDuration (← Reader.word32)
  | _ => do return unknown tag (← Reader.rest)

/-- The meaning of a tag in a category. -/
def valueIn : DescriptorCategory → UInt8 → Reader Descriptor
  | .generic => genericValue
  | .appRequest => appValue
  | .vendorRequest => vendorValue

/-- Move a cursor past the first descriptor of bytes that stand in `category`. -/
def advance (category : DescriptorCategory) : Cursor Descriptor :=
  advanceWith (valueIn category)

/-- The first descriptor of bytes that stand in `category`. -/
def decode (category : DescriptorCategory) : Reader Descriptor :=
  Cursor.reader (advance category)

/-- All descriptors of bytes that stand in `category`. -/
def decodeAll (category : DescriptorCategory) (input : Bytes) :
    Except WireError (List Descriptor) :=
  (readAll (valueIn category) input).map Prod.fst

end Descriptor

end OnDemand
