import OnDemand.Text.Hex
import OnDemand.Text.Split
import OnDemand.Wire.Word

/-!
# Device addresses

A device is named by the six bytes of its link-layer address. The text of an
address has two lower-case digits for each byte, with colons between them. The
reader takes colons and dashes, digits of either case, a plus sign in front of
a part, and any number of leading zeros.
-/

namespace OnDemand

/-- A link-layer address. -/
structure MacAddress where
  octets : Octets 6
  deriving Repr, DecidableEq

namespace MacAddress

def zero : MacAddress := ⟨Octets.zero 6⟩

instance : Inhabited MacAddress := ⟨zero⟩

def bytes (mac : MacAddress) : Bytes := mac.octets.val

def text (mac : MacAddress) : String :=
  ":".intercalate (mac.bytes.map fun byte => Text.hex 2 byte.toNat)

def label (mac : MacAddress) : String := "MacAddress(" ++ mac.text ++ ")"

def isSeparator (char : Char) : Bool := char == ':' || char == '-'

/-- The byte written by one part of an address. -/
def part? (part : List Char) : Option UInt8 :=
  ((Text.numeralIn? 16 part).filter (· < 256)).map UInt8.ofNat

/-- The address that a text stands for. -/
def parse? (text : String) : Option MacAddress := do
  let bytes ← (Text.splitWhen isSeparator text.toList).mapM part?
  if six : bytes.length = 6 then some ⟨⟨bytes, six⟩⟩ else none

end MacAddress

end OnDemand
