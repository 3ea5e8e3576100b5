import OnDemand.Text.Split
import OnDemand.Wire.Word

/-!
# Internet addresses of version 4

Four bytes, written as decimal numbers with dots between them. The reader
takes one to three digits for each byte and refuses a leading zero.
-/

namespace OnDemand

/-- An internet address of version 4. -/
structure Ipv4Address where
  a : UInt8
  b : UInt8
  c : UInt8
  d : UInt8
  deriving Repr, DecidableEq, Inhabited

namespace Ipv4Address

def unspecified : Ipv4Address := ⟨0, 0, 0, 0⟩

/-- The four bytes, in the order in which they are written. -/
def bytes (ip : Ipv4Address) : Bytes := [ip.a, ip.b, ip.c, ip.d]

def text (ip : Ipv4Address) : String :=
  ".".intercalate (ip.bytes.map fun byte => toString byte.toNat)

/-- The byte written by one part of an address. -/
def part? (part : List Char) : Option UInt8 := do
  guard (part.all Char.isDigit ∧ part ≠ [] ∧ part.length ≤ 3)
  guard (part.length = 1 ∨ part.head? ≠ some '0')
  let value := part.foldl (fun value digit => value * 10 + (digit.toNat - 48)) 0
  guard (value < 256)
  return UInt8.ofNat value

/-- The address that a text stands for. -/
def parse? (text : List Char) : Option Ipv4Address := do
  match ← (Text.splitWhen (· == '.') text).mapM part? with
  | [a, b, c, d] => some ⟨a, b, c, d⟩
  | _ => none

end Ipv4Address

end OnDemand
