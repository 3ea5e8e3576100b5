import Mathlib.Algebra.Group.Nat.Defs
import OnDemand.Proofs.Descriptor.Misfits
import OnDemand.Proofs.Descriptor.PrivateData
import OnDemand.Settings.Basic

/-!
# The private data of a setup request

Each vendor lays out the private data of a setup request in its own way, with descriptors that may
be missing inside of others that may be missing.  All of them stand in their place, for every asset.
So the data comes back from its bytes, and only two things can keep it from having any: a node group
of more than 48 bits, and an application request that is too long.  Settings that were checked leave
only the length.
-/

namespace OnDemand

namespace Descriptor

variable {category : DescriptorCategory}

theorem areCanonicalIn_append {first second : List Descriptor}
    (canonical : AreCanonicalIn category first) (canonicalRest : AreCanonicalIn category second) :
    AreCanonicalIn category (first ++ second) := by
  induction first with
  | nil => exact canonicalRest
  | cons descriptor others ih => exact ⟨canonical.1, ih canonical.2⟩

/-- A descriptor that may be missing. -/
theorem areCanonicalIn_toList {value : Type} {build : value → Descriptor}
    (canonical : ∀ given, (build given).IsCanonicalIn category) (given : Option value) :
    AreCanonicalIn category (given.map build).toList := by
  cases given with
  | none => exact trivial
  | some given => exact ⟨canonical given, trivial⟩

end Descriptor

namespace VendorProfile

open Descriptor (AreCanonicalIn areCanonicalIn_append areCanonicalIn_toList)

theorem areCanonicalIn_vendorRequest (vendor : Vendor) (asset : AssetRequest) :
    AreCanonicalIn .vendorRequest (vendorRequest vendor asset) := by
  constructor
  · rfl
  · cases vendor with
    | arris | seaChange | cloudDvr =>
        apply areCanonicalIn_append <;> apply areCanonicalIn_toList
        · exact fun _ => rfl
        · exact fun _ => rfl

theorem areCanonicalIn_appRequest (vendor : Vendor) (asset : AssetRequest) (mac : MacAddress) :
    AreCanonicalIn .appRequest (appRequest vendor asset mac) := by
  have request : AreCanonicalIn .appRequest [.vendorRequest (vendorRequest vendor asset)] :=
    ⟨⟨rfl, areCanonicalIn_vendorRequest vendor asset⟩, trivial⟩
  cases vendor with
  | arris | cloudDvr => exact ⟨rfl, request⟩
  | seaChange =>
      refine ⟨rfl, areCanonicalIn_append ?_ request⟩
      apply areCanonicalIn_toList
      exact fun _ => rfl

theorem areCanonicalIn_setupPrivateData (profile : VendorProfile) (asset : AssetRequest)
    (mac : MacAddress) :
    AreCanonicalIn .generic (profile.setupPrivateData asset mac).descriptors :=
  ⟨rfl, rfl, ⟨rfl, areCanonicalIn_appRequest profile.vendor asset mac⟩, trivial⟩

/-! ## Writing the private data -/

variable {profile : VendorProfile} {format : PrivateDataFormat} {asset : AssetRequest}
  {mac : MacAddress} {fault : WireError}

/-- Nothing but the node group and the application request can be too large. -/
theorem fits_setupPrivateData_iff :
    (∀ descriptor ∈ (profile.setupPrivateData asset mac).descriptors, descriptor.Fits) ↔
      asset.nodeGroupId.toNat < 2 ^ 48 ∧
        Descriptor.totalLength (appRequest profile.vendor asset mac) ≤ 255 := by
  have identified : (Descriptor.assetId asset.providerId asset.assetId).Fits :=
    ⟨(by decide : 8 ≤ Descriptor.valueLimit), nofun⟩
  simp only [setupPrivateData, List.forall_mem_cons, List.not_mem_nil, false_implies, implies_true,
    and_true, identified, true_and, Descriptor.fits_nodeGroupId_iff,
    Descriptor.fits_appRequest_iff, Descriptor.nodeGroupLimit, Descriptor.valueLimit]
  omega

/-- What fits leaves room for the header and the padding. -/
theorem unpaddedLength_setupPrivateData
    (short : Descriptor.totalLength (appRequest profile.vendor asset mac) ≤ 255) :
    (profile.setupPrivateData asset mac).unpaddedLength format ≤ 278 := by
  have front : format.headerLength ≤ 3 := by
    cases format with
    | plain => exact Nat.zero_le 3
    | counted protocol version => exact Nat.le_refl 3
  simp only [PrivateData.unpaddedLength, setupPrivateData, Descriptor.totalLength,
    Descriptor.valueLength]
  omega

theorem exists_encode_setupPrivateData_iff :
    (∃ bytes, (profile.setupPrivateData asset mac).encode format true = .ok bytes) ↔
      asset.nodeGroupId.toNat < 2 ^ 48 ∧
        Descriptor.totalLength (appRequest profile.vendor asset mac) ≤ 255 := by
  have written :=
    Descriptor.exists_encodeAll_iff (areCanonicalIn_setupPrivateData profile asset mac)
  rw [← fits_setupPrivateData_iff, ← written]
  constructor
  · intro ⟨bytes, whole⟩
    obtain ⟨_, _, body, _, writtenAll, _⟩ := PrivateData.encode_eq_ok_iff.mp whole
    exact ⟨body, writtenAll⟩
  · intro ⟨body, writtenAll⟩
    have fits := fits_setupPrivateData_iff.mp (written.mp ⟨body, writtenAll⟩)
    have room : (profile.setupPrivateData asset mac).unpaddedLength format ≤ 278 :=
      unpaddedLength_setupPrivateData fits.2
    have padding := PrivateData.padCount_lt format true (profile.setupPrivateData asset mac)
    obtain ⟨front, head⟩ : ∃ front, PrivateData.header 3 format = .ok front := by
      cases format <;> exact ⟨_, rfl⟩
    exact ⟨_, PrivateData.encode_eq_ok_iff.mpr
      ⟨by omega, front, body, head, writtenAll, rfl⟩⟩

/-- Settings that were checked name a node group of 48 bits. -/
theorem nodeGroupId_le_of_check {settings : Settings} (checked : settings.check = .ok ()) :
    settings.asset.request.nodeGroupId.toNat ≤ Descriptor.nodeGroupLimit := by
  apply Nat.le_of_not_lt
  intro large
  simp only [Settings.check, if_pos large, bind, Except.bind, throw, throwThe,
    MonadExceptOf.throw] at checked
  split at checked
  · cases checked
  · split at checked <;> cases checked

/-- For every vendor, framing, asset and device: the private data of a setup request has an encoding
with padding exactly when the node group is a number of 48 bits and what the application request
holds takes at most 255 bytes; it is read back from that encoding in the same framing; none of its
descriptors is ever refused for its place; and for the asset of settings that were checked, it has
no encoding only when something is too long. -/
theorem encode_setupPrivateData (profile : VendorProfile) (format : PrivateDataFormat)
    (asset : AssetRequest) (mac : MacAddress) :
    let data := profile.setupPrivateData asset mac
    ((∃ bytes, data.encode format true = .ok bytes) ↔
      asset.nodeGroupId.toNat < 2 ^ 48 ∧
        Descriptor.totalLength (appRequest profile.vendor asset mac) ≤ 255) ∧
    (∀ bytes, data.encode format true = .ok bytes → PrivateData.decode format bytes = .ok data) ∧
    (∀ tag category, data.encode format true ≠ .error (.illegalDescriptor tag category)) ∧
    ∀ settings : Settings, settings.check = .ok () → asset = settings.asset.request →
      ∀ fault, data.encode format true = .error fault →
        ∃ length limit, fault = .valueTooLong length limit ∧ limit < length := by
  intro data
  have canonical := areCanonicalIn_setupPrivateData profile asset mac
  refine ⟨exists_encode_setupPrivateData_iff, ?_, ?_, ?_⟩
  · intro bytes written
    exact (PrivateData.decode_of_encode canonical written).1
  · intro tag category refused
    rcases PrivateData.encode_eq_error canonical refused with ⟨_, _, tooLong, _⟩ | ⟨invalid, _⟩
    · cases tooLong
    · cases invalid
  · intro settings checked named fault refused
    rcases PrivateData.encode_eq_error canonical refused with tooLong | ⟨_, id, held, large⟩
    · exact tooLong
    · -- The only node group is that of the asset, and the settings were checked for it.
      have known : id = asset.nodeGroupId := by simpa [setupPrivateData] using held
      rw [known, named] at large
      exact absurd (nodeGroupId_le_of_check checked) (Nat.not_le_of_lt large)

/-- The private data by which the asset of settings is asked for. -/
def setupDataOf (vendor : Vendor) (settings : Settings) : PrivateData :=
  (ofVendor vendor).setupPrivateData settings.asset.request settings.session.clientMac

/-- The bytes of the private data for the sample settings, for a vendor that counts descriptors. -/
def sampleSetupBytes : Bytes :=
  [1, 2, 3, 1, 8, 0, 0, 0, 0, 0, 0, 3, 233, 2, 6, 0, 0, 0, 0, 0, 0,
    5, 11, 4, 1, 2, 1, 6, 1, 4, 0, 0, 0, 1, 255, 255]

/-- The sample settings, with an asset that has a long name. -/
def longNameSettings : Settings where
  session := Settings.sample.session
  asset := ⟨"arris", { assetName := some (String.ofList (List.replicate 240 'a')) }⟩

set_option maxRecDepth 4000 in
/-- The asset of the sample settings can be asked for.  With a name of 240 letters the vendor
request still fits, but the application request around it does not. -/
theorem encode_setupPrivateData_longName :
    ((setupDataOf .seaChange Settings.sample).encode (.counted 1 2) true = .ok sampleSetupBytes ∧
      PrivateData.decode (.counted 1 2) sampleSetupBytes =
        .ok (setupDataOf .seaChange Settings.sample)) ∧
    longNameSettings.check = .ok () ∧
    (setupDataOf .arris longNameSettings).encode .plain true = .error (.valueTooLong 258 255) ∧
    ∃ length limit, WireError.valueTooLong 258 255 = .valueTooLong length limit ∧
      limit < length := by
  have written : (setupDataOf .seaChange Settings.sample).encode (.counted 1 2) true =
      .ok sampleSetupBytes := by rfl
  have checked : longNameSettings.check = .ok () := by rfl
  have refused : (setupDataOf .arris longNameSettings).encode .plain true =
      .error (.valueTooLong 258 255) := by rfl
  have reads := (encode_setupPrivateData (ofVendor .seaChange) (.counted 1 2)
    Settings.sample.asset.request Settings.sample.session.clientMac).2.1
  have refuses := (encode_setupPrivateData (ofVendor .arris) .plain
    longNameSettings.asset.request longNameSettings.session.clientMac).2.2.2
  exact ⟨⟨written, reads _ written⟩, checked, refused,
    refuses longNameSettings checked rfl _ refused⟩

end VendorProfile
end OnDemand
