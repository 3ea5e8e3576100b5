import OnDemand.Address.Ipv4
import OnDemand.Text.Hex

/-!
# Internet addresses of version 6

Eight groups of sixteen bits, written in base sixteen with colons between them. The
longest run of at least two groups of zeros is left out, and an address that stands
for one of version 4 ends in that address. The reader takes one such gap at any
place and an address of version 4 in place of the last two groups.
-/

namespace OnDemand

/-- An internet address of version 6. -/
structure Ipv6Address where
  groups : { groups : List UInt16 // groups.length = 8 }
  deriving Repr, DecidableEq

namespace Ipv6Address

/-- The number of zero groups at the front. -/
def zeroRun (groups : List UInt16) : Nat := (groups.takeWhile (· == 0)).length

/-- Where the longest run of zero groups begins and how long it is; of equally long
runs the first counts. -/
def longestGap : List UInt16 → Nat × Nat
  | [] => (0, 0)
  | group :: groups =>
      let (start, length) := longestGap groups
      let here := zeroRun (group :: groups)
      if here = 0 ∨ here < length then (start + 1, length) else (0, here)

def groupsText (groups : List UInt16) : String :=
  ":".intercalate (groups.map fun group => Text.hex 1 group.toNat)

/-- The address of version 4 for which an address stands. -/
def mapped? : List UInt16 → Option Ipv4Address
  | [0, 0, 0, 0, 0, 0xffff, high, low] =>
      some ⟨(high >>> 8).toUInt8, high.toUInt8, (low >>> 8).toUInt8, low.toUInt8⟩
  | _ => none

def text (ip : Ipv6Address) : String :=
  match mapped? ip.groups with
  | some ip => "::ffff:" ++ ip.text
  | none =>
      let groups := ip.groups.val
      let (start, length) := longestGap groups
      if 1 < length then
        groupsText (groups.take start) ++ "::" ++ groupsText (groups.drop (start + length))
      else groupsText groups

/-- The group written by one part of an address. -/
def group? (part : List Char) : Option UInt16 := do
  guard (part.length ≤ 4)
  return UInt16.ofNat (← Text.digitsIn? 16 part)

/-- The groups written by parts, the last of which may be an address of version 4. -/
def groups? (parts : List (List Char)) : Option (List UInt16) :=
  match Ipv4Address.parse? (parts.getLastD []) with
  | some ip => do
      let groups ← parts.dropLast.mapM group?
      return groups ++ [Wire.ofWord16 ip.a ip.b, Wire.ofWord16 ip.c ip.d]
  | none => parts.mapM group?

/-- The parts of one side of a gap; an empty side has none. -/
def sideParts (side : List Char) : List (List Char) :=
  if side.isEmpty then [] else Text.splitWhen (· == ':') side

/-- The texts before and after the first gap. -/
def splitGap? : List Char → Option (List Char × List Char)
  | ':' :: ':' :: after => some ([], after)
  | char :: rest => (splitGap? rest).map fun (before, after) => (char :: before, after)
  | [] => none

/-- The address of eight groups. -/
def ofGroups? (groups : List UInt16) : Option Ipv6Address :=
  if eight : groups.length = 8 then some ⟨groups, eight⟩ else none

/-- The address that a text stands for. A gap stands for at least one group. -/
def parse? (text : List Char) : Option Ipv6Address := do
  match splitGap? text with
  | none => ofGroups? (← groups? (Text.splitWhen (· == ':') text))
  | some (before, after) => do
      let before ← (sideParts before).mapM group?
      let after ← groups? (sideParts after)
      guard (before.length + after.length < 8)
      ofGroups? (before ++ List.replicate (8 - before.length - after.length) 0 ++ after)

end Ipv6Address

end OnDemand
