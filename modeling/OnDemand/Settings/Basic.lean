import OnDemand.Asset.Vendor
import OnDemand.Settings.Session
import OnDemand.Settings.Stream

/-!
# Settings

All settings of a client: how it negotiates sessions, how it controls streams, and
which asset it asks for. Some values fit their types but make no sense; `check` names
the first of them.
-/

namespace OnDemand

/-- The asset to ask for, and the name of the vendor that serves it as it was
written. -/
structure AssetSettings where
  vendor : String
  request : AssetRequest
  deriving Repr, DecidableEq

/-- The profile of the vendor, or the name that is not known. -/
def AssetSettings.profile (settings : AssetSettings) : Except String VendorProfile :=
  (Vendor.parse settings.vendor).map VendorProfile.ofVendor

/-- The settings of a client. -/
structure Settings where
  session : SessionSettings
  stream : StreamSettings := {}
  asset : AssetSettings
  deriving Repr, DecidableEq

/-- A value that makes no sense. -/
inductive UnusableSetting where
  | managerPort
  | messageTimer
  | nodeGroupId
  | vendor (name : String)
  deriving Repr, DecidableEq

def UnusableSetting.message : UnusableSetting → String
  | managerPort => "session.srm_address needs a port"
  | messageTimer => "session.message_timer_ms must be positive"
  | nodeGroupId => "asset.node_group_id is a 48-bit value"
  | vendor name => Vendor.unknownMessage name

/-- Why settings were refused. -/
inductive SettingsError where
  /-- The text is no TOML document, or a value is missing or of a wrong type. -/
  | unreadable
  | unusable (setting : UnusableSetting)
  deriving Repr, DecidableEq

/-- The text of a refusal; what is wrong with an unreadable text is not told. -/
def SettingsError.message : SettingsError → String
  | unreadable => "TOML parse error"
  | unusable setting => "Invalid configuration: " ++ setting.message

namespace Settings

/-- Refuse the first value that makes no sense. -/
def check (settings : Settings) : Except UnusableSetting Unit := do
  if settings.session.manager.port = 0 then throw .managerPort
  if settings.session.messageTimerMs = 0 then throw .messageTimer
  if Descriptor.nodeGroupLimit < settings.asset.request.nodeGroupId.toNat then throw .nodeGroupId
  match Vendor.parse settings.asset.vendor with
  | .ok _ => return ()
  | .error name => throw (.vendor name)

/-- Settings to begin with. -/
def sample : Settings where
  session :=
    { manager := .v4 ⟨⟨10, 0, 0, 1⟩, 13819⟩
      clientIp := ⟨10, 0, 0, 2⟩
      clientMac := ⟨⟨[0x00, 0x1a, 0x2b, 0x3c, 0x4d, 0x5e], rfl⟩⟩ }
  asset := ⟨Vendor.arris.name, { assetId := 1001, serviceGroup := 1 }⟩

end Settings

end OnDemand
