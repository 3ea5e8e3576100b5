/-!
# Big-endian words

Fixed-width numbers as byte lists, most significant byte first. Each writer has
a combining function that takes the bytes back to the word.
-/

namespace OnDemand

/-- A string of bytes. -/
abbrev Bytes := List UInt8

/-- A byte string of a fixed length. -/
abbrev Octets (length : Nat) := { bytes : Bytes // bytes.length = length }

namespace Octets

def zero (length : Nat) : Octets length :=
  ⟨List.replicate length 0, List.length_replicate⟩

/-- A byte string cut or filled with zeros to the length. -/
def ofBytes (length : Nat) (bytes : Bytes) : Octets length :=
  ⟨bytes.take length ++ List.replicate (length - bytes.length) 0, by
    simp only [List.length_append, List.length_take, List.length_replicate]; omega⟩

instance (length : Nat) : Inhabited (Octets length) := ⟨zero length⟩

end Octets

namespace Wire

/-- The two bytes of a 16-bit word. -/
def word16 (value : UInt16) : Bytes :=
  [UInt8.ofNat (value.toNat / 256), UInt8.ofNat value.toNat]

def ofWord16 (a b : UInt8) : UInt16 :=
  UInt16.ofNat (a.toNat * 256 + b.toNat)

/-- The four bytes of a 32-bit word. -/
def word32 (value : UInt32) : Bytes :=
  [UInt8.ofNat (value.toNat / 16777216), UInt8.ofNat (value.toNat / 65536),
    UInt8.ofNat (value.toNat / 256), UInt8.ofNat value.toNat]

def ofWord32 (a b c d : UInt8) : UInt32 :=
  UInt32.ofNat (((a.toNat * 256 + b.toNat) * 256 + c.toNat) * 256 + d.toNat)

/-- The two bytes of a signed 16-bit word in two's complement. -/
def signed16 (value : Int16) : Bytes := word16 value.toUInt16

/-- The four bytes of a signed 32-bit word in two's complement. -/
def signed32 (value : Int32) : Bytes := word32 value.toUInt32

@[simp] theorem length_word16 (value : UInt16) : (word16 value).length = 2 := rfl

@[simp] theorem length_word32 (value : UInt32) : (word32 value).length = 4 := rfl

@[simp] theorem length_signed16 (value : Int16) : (signed16 value).length = 2 := rfl

@[simp] theorem length_signed32 (value : Int32) : (signed32 value).length = 4 := rfl

end Wire

end OnDemand
