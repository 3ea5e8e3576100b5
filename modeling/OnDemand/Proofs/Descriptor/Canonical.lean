import OnDemand.Descriptor.Decode
import OnDemand.Descriptor.Encode
import OnDemand.Proofs.Wire.Accepts

/-!
# Descriptors in their place

A descriptor is canonical in a category when it belongs there with all that it holds, and
no tag in it that has a meaning where it stands is kept as unknown.  Only canonical
descriptors can come out of a reader.
-/

namespace OnDemand

/-- The tags that have a meaning in a category. -/
def DescriptorCategory.knownTags : DescriptorCategory → List UInt8
  | generic => [0x01, 0x02, 0x03, 0x04, 0x05, 0x06, 0x07, 0x08, 0x09, 0x0A, 0x0B]
  | appRequest => [0x01, 0x02, 0x03, 0x04]
  | vendorRequest => [0x01, 0x02, 0x03, 0x04, 0x05, 0x06]

namespace Descriptor

variable {category : DescriptorCategory} {descriptor : Descriptor} {descriptors : List Descriptor}

mutual

/-- The descriptor belongs to the category, as those that it holds belong to theirs, and
none of them is a known one in disguise. -/
def IsCanonicalIn (category : DescriptorCategory) : Descriptor → Prop
  | appRequest children => category = .generic ∧ AreCanonicalIn .appRequest children
  | vendorRequest children => category = .appRequest ∧ AreCanonicalIn .vendorRequest children
  | unknown tag _ => tag ∉ category.knownTags
  | descriptor => descriptor.category? = some category

/-- Descriptors that follow each other are all canonical. -/
def AreCanonicalIn (category : DescriptorCategory) : List Descriptor → Prop
  | [] => True
  | descriptor :: others => descriptor.IsCanonicalIn category ∧ AreCanonicalIn category others

end

/-- The descriptor has its meaning in the category, or it has none. -/
def MayStandIn (category : DescriptorCategory) (descriptor : Descriptor) : Prop :=
  ∀ own, descriptor.category? = some own → own = category

theorem IsCanonicalIn.mayStandIn (canonical : descriptor.IsCanonicalIn category) :
    descriptor.MayStandIn category := by
  intro own belongs
  cases descriptor with
  | appRequest children =>
      cases belongs
      exact canonical.1.symm
  | vendorRequest children =>
      cases belongs
      exact canonical.1.symm
  | unknown tag value => cases belongs
  | assetId _ _ | nodeGroupId _ | streamEndpoint _ | streamHandle _ | appResponse _
  | billingId _ | purchaseTime _ | timeRemaining _ | errorCode _ | assetDuration _
  | clientMac _ | smartCardId _ | protocolVersion _ | serviceGroup _ | assetName _
  | providerName _ | recordingId _ | homeId _ | bitRate _ =>
      exact Option.some.inj (belongs.symm.trans canonical)

theorem checkPlace_eq_ok_iff {result : Unit} :
    checkPlace category descriptor = .ok result ↔
      descriptor.MayStandIn category ∧ descriptor.valueLength ≤ valueLimit := by
  have place : descriptor.category?.any (· ≠ category) = true ↔
      ¬ descriptor.MayStandIn category := by
    cases belongs : descriptor.category? with
    | none => simp [MayStandIn, belongs]
    | some own => simp [MayStandIn, belongs]
  by_cases stands : descriptor.MayStandIn category
  · rw [checkPlace, if_neg fun foreign => place.mp foreign stands]
    by_cases long : descriptor.valueLength > valueLimit
    · rw [if_pos long]
      exact iff_of_false nofun fun both => Nat.not_lt_of_le both.2 long
    · rw [if_neg long]
      exact iff_of_true rfl ⟨stands, Nat.le_of_not_lt long⟩
  · rw [checkPlace, if_pos (place.mpr stands)]
    exact iff_of_false nofun fun both => stands both.1

/-- A descriptor has an encoding exactly when it may stand where it does, its value has one,
and the length of the value fits. -/
theorem encode_eq_ok_iff {encoded : Bytes} :
    encode category descriptor = .ok encoded ↔
      descriptor.MayStandIn category ∧ descriptor.valueLength ≤ valueLimit ∧
        ∃ value, descriptor.encodeValue = .ok value ∧
          encoded = descriptor.tag :: UInt8.ofNat descriptor.valueLength :: value := by
  simp only [encode, bind_eq_ok_iff, checkPlace_eq_ok_iff]
  constructor
  · intro ⟨_, ⟨stands, fits⟩, value, written, last⟩
    cases last
    exact ⟨stands, fits, value, written, rfl⟩
  · intro ⟨stands, fits, value, written, last⟩
    subst last
    exact ⟨(), ⟨stands, fits⟩, value, written, rfl⟩

theorem encodeAll_nil_eq_ok_iff {encoded : Bytes} :
    encodeAll category [] = .ok encoded ↔ encoded = [] := by
  rw [encodeAll, Except.ok.injEq, eq_comm]

theorem encodeAll_cons_eq_ok_iff {encoded : Bytes} :
    encodeAll category (descriptor :: descriptors) = .ok encoded ↔
      ∃ front others, encode category descriptor = .ok front ∧
        encodeAll category descriptors = .ok others ∧ encoded = front ++ others := by
  rw [encodeAll]
  simp only [bind_eq_ok_iff, encode_eq_ok_iff, checkPlace_eq_ok_iff]
  constructor
  · intro ⟨_, place, value, written, others, writtenOthers, last⟩
    cases last
    exact ⟨_, others, ⟨place.1, place.2, value, written, rfl⟩, writtenOthers, rfl⟩
  · intro ⟨front, others, ⟨stands, fits, value, written, first⟩, writtenOthers, last⟩
    subst first last
    exact ⟨(), ⟨stands, fits⟩, value, written, others, writtenOthers, rfl⟩

mutual

/-- The length announced for a value is the number of its bytes. -/
theorem length_of_encodeValue {value : Bytes} : (descriptor : Descriptor) →
    descriptor.encodeValue = .ok value → value.length = descriptor.valueLength
  | appRequest children => length_of_encodeAll children
  | vendorRequest children => length_of_encodeAll children
  | nodeGroupId id => by
      intro written
      simp only [encodeValue] at written
      split at written
      · cases written
      · cases written
        rfl
  | assetName text | providerName text | recordingId text => by
      intro written
      simp only [encodeValue, Except.ok.injEq] at written
      rw [← written, Text.length_utf8, valueLength]
  | clientMac mac => by
      intro written
      simp only [encodeValue, Except.ok.injEq] at written
      rw [← written, valueLength]
      exact mac.octets.property
  | assetId _ _ | streamEndpoint _ | streamHandle _ | appResponse _ | billingId _
  | purchaseTime _ | timeRemaining _ | errorCode _ | assetDuration _ | smartCardId _
  | protocolVersion _ | serviceGroup _ | homeId _ | bitRate _ | unknown _ _ => by
      intro written
      cases written
      rfl

/-- Descriptors that follow each other take as many bytes as their lengths say. -/
theorem length_of_encodeAll {category : DescriptorCategory} {encoded : Bytes} :
    (descriptors : List Descriptor) → encodeAll category descriptors = .ok encoded →
      encoded.length = totalLength descriptors
  | [] => by
      intro written
      rw [encodeAll_nil_eq_ok_iff.mp written, totalLength]
      rfl
  | descriptor :: others => by
      intro written
      obtain ⟨front, back, first, second, rfl⟩ := encodeAll_cons_eq_ok_iff.mp written
      obtain ⟨_, _, value, third, rfl⟩ := encode_eq_ok_iff.mp first
      rw [List.length_append, length_of_encodeAll others second, List.length_cons,
        List.length_cons, length_of_encodeValue descriptor third, totalLength]
      omega

end

theorem length_of_encode {encoded : Bytes} (written : encode category descriptor = .ok encoded) :
    encoded.length = descriptor.encodedLength := by
  obtain ⟨_, _, value, writtenValue, rfl⟩ := encode_eq_ok_iff.mp written
  rw [List.length_cons, List.length_cons, length_of_encodeValue descriptor writtenValue,
    encodedLength]
  omega

end Descriptor

end OnDemand
