import OnDemand.Descriptor.PrivateData
import OnDemand.Proofs.Descriptor.Canonical

/-!
# Why descriptors in their place have no encoding

A descriptor that stands where it belongs, with all that it holds, has no encoding for two reasons
only: something in it is too long, or it is a node group of more than 48 bits.  What a descriptor
holds is no longer than itself, and no node group stands inside another descriptor.  So it is enough
to look at the descriptors of the outermost list.
-/

namespace OnDemand

/-- A sequence fails where one of its parts fails first. -/
theorem bind_eq_error_iff {ε α β : Type} {first : Except ε α} {next : α → Except ε β} {fault : ε} :
    first >>= next = .error fault ↔
      first = .error fault ∨ ∃ value, first = .ok value ∧ next value = .error fault := by
  cases first with
  | error other => simp [bind, Except.bind]
  | ok value => simp [bind, Except.bind]

namespace Descriptor

variable {category : DescriptorCategory} {descriptor : Descriptor} {descriptors : List Descriptor}
  {fault : WireError}

/-- What can be wrong with a descriptor that stands in its place. -/
inductive Misfit (descriptor : Descriptor) : WireError → Prop where
  /-- Its value, or the value of one that it holds, is too long. -/
  | tooLong (length : Nat) (long : valueLimit < length) (held : length ≤ descriptor.valueLength) :
      Misfit descriptor (.valueTooLong length valueLimit)
  | nodeGroup (id : UInt64) (same : descriptor = .nodeGroupId id)
      (large : nodeGroupLimit < id.toNat) : Misfit descriptor (.invalidValue .nodeGroupId)

/-- The value can be counted in a byte, and the number of a node group in 48 bits. -/
structure Fits (descriptor : Descriptor) : Prop where
  short : descriptor.valueLength ≤ valueLimit
  small : ∀ id, descriptor = .nodeGroupId id → id.toNat ≤ nodeGroupLimit

/-- A descriptor that fits is no misfit. -/
theorem Fits.not_misfit (fits : descriptor.Fits) : ¬ descriptor.Misfit fault := by
  intro misfit
  cases misfit with
  | tooLong length long held => exact absurd (Nat.le_trans held fits.short) (Nat.not_le_of_lt long)
  | nodeGroup id same large => exact absurd (fits.small id same) (Nat.not_le_of_lt large)

theorem fits_nodeGroupId_iff {id : UInt64} :
    (nodeGroupId id).Fits ↔ id.toNat ≤ nodeGroupLimit := by
  constructor
  · intro fits
    exact fits.small id rfl
  · intro small
    constructor
    · exact (by decide : 6 ≤ valueLimit)
    · intro _ same
      cases same
      exact small

theorem fits_appRequest_iff {children : List Descriptor} :
    (appRequest children).Fits ↔ totalLength children ≤ valueLimit :=
  ⟨Fits.short, fun short => ⟨short, nofun⟩⟩

/-! ## What a descriptor holds -/

theorem valueLength_le_totalLength (held : descriptor ∈ descriptors) :
    descriptor.valueLength ≤ totalLength descriptors := by
  induction descriptors with
  | nil => exact absurd held List.not_mem_nil
  | cons first others ih =>
      rw [totalLength]
      cases held with
      | head => omega
      | tail _ later =>
          have inside := ih later
          omega

theorem AreCanonicalIn.of_mem (canonical : AreCanonicalIn category descriptors)
    (held : descriptor ∈ descriptors) : descriptor.IsCanonicalIn category := by
  induction descriptors with
  | nil => exact absurd held List.not_mem_nil
  | cons first others ih =>
      cases held with
      | head => exact canonical.1
      | tail _ later => exact ih canonical.2 later

/-- What is wrong with a descriptor inside another is too long for that one as well. -/
theorem Misfit.holder {holder : Descriptor} (misfit : descriptor.Misfit fault)
    (canonical : AreCanonicalIn category descriptors) (nested : category ≠ .generic)
    (held : descriptor ∈ descriptors) (holds : holder.valueLength = totalLength descriptors) :
    holder.Misfit fault := by
  cases misfit with
  | tooLong length long within =>
      apply Misfit.tooLong length long
      rw [holds]
      exact Nat.le_trans within (valueLength_le_totalLength held)
  | nodeGroup id same large =>
      have stands := canonical.of_mem held
      rw [same] at stands
      exact absurd (Option.some.inj stands).symm nested

/-! ## Writing -/

/-- In its place a descriptor is only refused when its value is too long. -/
theorem misfit_of_checkPlace (stands : descriptor.MayStandIn category)
    (refused : checkPlace category descriptor = .error fault) : descriptor.Misfit fault := by
  rw [checkPlace] at refused
  split at refused
  · next foreign =>
      obtain ⟨own, belongs, differs⟩ := (Option.any_eq_true _ _).mp foreign
      exact absurd (stands own belongs) (of_decide_eq_true differs)
  · split at refused
    · next long =>
        cases refused
        exact .tooLong descriptor.valueLength long (Nat.le_refl _)
    · cases refused

mutual

theorem misfit_of_encodeValue {category : DescriptorCategory} {fault : WireError} :
    (descriptor : Descriptor) → descriptor.IsCanonicalIn category →
      descriptor.encodeValue = .error fault → descriptor.Misfit fault
  | appRequest children => by
      intro canonical refused
      obtain ⟨child, held, misfit⟩ := misfit_of_encodeAll children canonical.2 refused
      exact misfit.holder canonical.2 (by decide) held rfl
  | vendorRequest children => by
      intro canonical refused
      obtain ⟨child, held, misfit⟩ := misfit_of_encodeAll children canonical.2 refused
      exact misfit.holder canonical.2 (by decide) held rfl
  | nodeGroupId id => by
      intro _ refused
      simp only [encodeValue] at refused
      split at refused
      · next large =>
          cases refused
          exact .nodeGroup id rfl large
      · cases refused
  | assetId _ _ | streamEndpoint _ | streamHandle _ | appResponse _ | billingId _
  | purchaseTime _ | timeRemaining _ | errorCode _ | assetDuration _ | clientMac _
  | smartCardId _ | protocolVersion _ | serviceGroup _ | assetName _ | providerName _
  | recordingId _ | homeId _ | bitRate _ | unknown _ _ => by
      intro _ refused
      cases refused

/-- Descriptors in their place have no encoding only for what is wrong with one of them. -/
theorem misfit_of_encodeAll {category : DescriptorCategory} {fault : WireError} :
    (descriptors : List Descriptor) → AreCanonicalIn category descriptors →
      encodeAll category descriptors = .error fault →
        ∃ descriptor ∈ descriptors, descriptor.Misfit fault
  | [] => by
      intro _ refused
      cases refused
  | descriptor :: others => by
      intro canonical refused
      simp only [encodeAll, bind_eq_error_iff] at refused
      have first : descriptor.Misfit fault → ∃ wrong ∈ descriptor :: others, wrong.Misfit fault :=
        fun misfit => ⟨descriptor, List.mem_cons_self, misfit⟩
      rcases refused with misplaced | ⟨_, _, unwritten | ⟨_, _, later | ⟨_, _, last⟩⟩⟩
      · exact first (misfit_of_checkPlace canonical.1.mayStandIn misplaced)
      · exact first (misfit_of_encodeValue descriptor canonical.1 unwritten)
      · obtain ⟨other, held, misfit⟩ := misfit_of_encodeAll others canonical.2 later
        exact ⟨other, List.mem_cons_of_mem descriptor held, misfit⟩
      · cases last

end

theorem nodeGroup_fits_of_encodeValue {id : UInt64} {value : Bytes}
    (written : (nodeGroupId id).encodeValue = .ok value) : id.toNat ≤ nodeGroupLimit := by
  simp only [encodeValue] at written
  split at written
  · cases written
  · next small => exact Nat.le_of_not_lt small

theorem Fits.of_encodeAll {encoded : Bytes} (written : encodeAll category descriptors = .ok encoded)
    (held : descriptor ∈ descriptors) : descriptor.Fits := by
  induction descriptors generalizing encoded with
  | nil => exact absurd held List.not_mem_nil
  | cons first others ih =>
      obtain ⟨front, back, writtenFirst, writtenOthers, _⟩ := encodeAll_cons_eq_ok_iff.mp written
      cases held with
      | head =>
          obtain ⟨_, short, value, writtenValue, _⟩ := encode_eq_ok_iff.mp writtenFirst
          refine ⟨short, fun id same => ?_⟩
          subst same
          exact nodeGroup_fits_of_encodeValue writtenValue
      | tail _ later => exact ih writtenOthers later

/-- Descriptors in their place have an encoding exactly when each of them fits. -/
theorem exists_encodeAll_iff (canonical : AreCanonicalIn category descriptors) :
    (∃ encoded, encodeAll category descriptors = .ok encoded) ↔
      ∀ descriptor ∈ descriptors, descriptor.Fits := by
  constructor
  · intro ⟨encoded, written⟩ descriptor held
    exact .of_encodeAll written held
  · intro fit
    cases outcome : encodeAll category descriptors with
    | ok encoded => exact ⟨encoded, rfl⟩
    | error fault =>
        obtain ⟨descriptor, held, misfit⟩ := misfit_of_encodeAll descriptors canonical outcome
        exact absurd misfit (fit descriptor held).not_misfit

end Descriptor

/-! ## Private data -/

theorem Wire.tooLong_of_length16 {length : Nat} {fault : WireError}
    (refused : length16 length = .error fault) :
    fault = .valueTooLong length 65535 ∧ 65535 < length := by
  rw [length16] at refused
  split at refused
  · cases refused
  · next long =>
      cases refused
      exact ⟨rfl, by omega⟩

theorem Wire.tooLong_of_length8 {length : Nat} {fault : WireError}
    (refused : length8 length = .error fault) :
    fault = .valueTooLong length 255 ∧ 255 < length := by
  rw [length8] at refused
  split at refused
  · cases refused
  · next long =>
      cases refused
      exact ⟨rfl, by omega⟩

namespace PrivateData

variable {format : PrivateDataFormat} {padded : Bool} {data : PrivateData} {fault : WireError}

theorem tooLong_of_header {count : Nat} (refused : header count format = .error fault) :
    fault = .valueTooLong count 255 ∧ 255 < count := by
  cases format with
  | plain => cases refused
  | counted protocol version =>
      simp only [header, bind_eq_error_iff] at refused
      rcases refused with long | ⟨_, _, last⟩
      · exact Wire.tooLong_of_length8 long
      · cases last

/-- Private data whose descriptors stand in their place has no encoding only when something is too
long, or for a node group at its top level. -/
theorem encode_eq_error (canonical : Descriptor.AreCanonicalIn .generic data.descriptors)
    (refused : data.encode format padded = .error fault) :
    (∃ length limit, fault = .valueTooLong length limit ∧ limit < length) ∨
      fault = .invalidValue .nodeGroupId ∧
        ∃ id, .nodeGroupId id ∈ data.descriptors ∧ Descriptor.nodeGroupLimit < id.toNat := by
  simp only [encode, bind_eq_error_iff] at refused
  rcases refused with long | ⟨_, _, uncounted | ⟨_, _, unwritten | ⟨_, _, last⟩⟩⟩
  · exact .inl ⟨_, _, Wire.tooLong_of_length16 long⟩
  · exact .inl ⟨_, _, tooLong_of_header uncounted⟩
  · obtain ⟨descriptor, held, misfit⟩ :=
      Descriptor.misfit_of_encodeAll data.descriptors canonical unwritten
    cases misfit with
    | tooLong length long => exact .inl ⟨_, _, rfl, long⟩
    | nodeGroup id same large => exact .inr ⟨rfl, id, same ▸ held, large⟩
  · cases last

end PrivateData
end OnDemand
