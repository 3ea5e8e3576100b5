import OnDemand.Settings.Basic
import OnDemand.Toml.Document
import OnDemand.Toml.Written

/-!
# Settings as TOML documents

Settings are a document with a table for sessions, one for streams and one for the
asset. Keys that mean nothing are ignored; a value of a wrong type or out of range is
refused. A table may also be written as an array of its values in the order in which
they are written here; an array may end where all that is missing has defaults.
-/

namespace OnDemand

namespace Toml

/-- The values of a record, found by name or by position. -/
inductive Fields where
  | named (entries : List (String × TomlValue))
  | listed (items : List TomlValue)

namespace Fields

/-- The values of a record. A date has none of them. -/
def ofValue? : TomlValue → Option Fields
  | .table entries => some (.named entries)
  | .array items => some (.listed items)
  | .date _ => some (.named [])
  | _ => none

/-- The value of a field, if it is there. -/
def find? (position : Nat) (name : String) : Fields → Option TomlValue
  | named entries => entries.lookup name
  | listed items => items[position]?

def required {α : Type} (position : Nat) (name : String) (read : TomlValue → Option α)
    (fields : Fields) : Option α :=
  (fields.find? position name).bind read

def withDefault {α : Type} (default : α) (position : Nat) (name : String)
    (read : TomlValue → Option α) (fields : Fields) : Option α :=
  match fields.find? position name with
  | some value => read value
  | none => some default

def optional {α : Type} (position : Nat) (name : String) (read : TomlValue → Option α)
    (fields : Fields) : Option (Option α) :=
  match fields, fields.find? position name with
  | _, some value => (read value).map some
  | named _, none => some none
  | listed _, none => none

end Fields

def asText : TomlValue → Option String
  | .text text => some text
  | _ => none

def asBoolean : TomlValue → Option Bool
  | .boolean value => some value
  | _ => none

/-- A whole number that is not negative and below a bound. -/
def asNatBelow (bound : Nat) : TomlValue → Option Nat
  | .integer (.ofNat value) => if value < bound then some value else none
  | _ => none

def asUInt16 (value : TomlValue) : Option UInt16 := (asNatBelow UInt16.size value).map UInt16.ofNat

def asUInt32 (value : TomlValue) : Option UInt32 := (asNatBelow UInt32.size value).map UInt32.ofNat

def asUInt64 (value : TomlValue) : Option UInt64 := (asNatBelow UInt64.size value).map UInt64.ofNat

end Toml

open Toml

namespace SessionSettings

/-- The settings that a record stands for. -/
def ofFields? (fields : Fields) : Option SessionSettings := do
  return {
    manager := ← fields.required 0 "srm_address" fun value => do
      SocketAddress.parse? (← asText value).toList
    localPort := ← fields.withDefault 0 1 "local_port" asUInt16
    clientIp := ← fields.required 2 "client_ip" fun value => do
      Ipv4Address.parse? (← asText value).toList
    clientMac := ← fields.required 3 "client_mac" fun value => do
      MacAddress.parse? (← asText value)
    retryCount := ← fields.withDefault 3 4 "retry_count" asUInt32
    messageTimerMs := ← fields.withDefault 2000 5 "message_timer_ms" asUInt64
    keepAliveSecs := ← fields.withDefault 300 6 "keep_alive_secs" asUInt64
    serverAssigns := ← fields.withDefault false 7 "server_assigns_session_id" asBoolean }

def entries (settings : SessionSettings) : List (String × TomlValue) :=
  [("srm_address", .text settings.manager.text),
    ("local_port", .integer settings.localPort.toNat),
    ("client_ip", .text settings.clientIp.text),
    ("client_mac", .text settings.clientMac.text),
    ("retry_count", .integer settings.retryCount.toNat),
    ("message_timer_ms", .integer settings.messageTimerMs.toNat),
    ("keep_alive_secs", .integer settings.keepAliveSecs.toNat),
    ("server_assigns_session_id", .boolean settings.serverAssigns)]

end SessionSettings

namespace StreamSettings

/-- The settings that a record stands for; each has a default. -/
def ofFields? (fields : Fields) : Option StreamSettings := do
  let usual : StreamSettings := {}
  return {
    connectTimeoutMs :=
      ← fields.withDefault usual.connectTimeoutMs 0 "connect_timeout_ms" asUInt64
    replyTimeoutMs := ← fields.withDefault usual.replyTimeoutMs 1 "reply_timeout_ms" asUInt64
    readPollMs := ← fields.withDefault usual.readPollMs 2 "read_poll_ms" asUInt64
    maxReadFailures :=
      ← fields.withDefault usual.maxReadFailures 3 "max_read_failures" asUInt32
    resyncIntervalSecs :=
      ← fields.withDefault usual.resyncIntervalSecs 4 "resync_interval_secs" asUInt64
    boundaryThresholdMs :=
      ← fields.withDefault usual.boundaryThresholdMs 5 "boundary_threshold_ms" asUInt64 }

/-- The settings that a document with these fields alone stands for. -/
def ofToml (document : String) : Except SettingsError StreamSettings :=
  match (parse? document).bind fun entries => ofFields? (.named entries) with
  | some settings => .ok settings
  | none => .error .unreadable

def entries (settings : StreamSettings) : List (String × TomlValue) :=
  [("connect_timeout_ms", .integer settings.connectTimeoutMs.toNat),
    ("reply_timeout_ms", .integer settings.replyTimeoutMs.toNat),
    ("read_poll_ms", .integer settings.readPollMs.toNat),
    ("max_read_failures", .integer settings.maxReadFailures.toNat),
    ("resync_interval_secs", .integer settings.resyncIntervalSecs.toNat),
    ("boundary_threshold_ms", .integer settings.boundaryThresholdMs.toNat)]

end StreamSettings

namespace AssetSettings

/-- The settings that a record stands for. -/
def ofFields? (fields : Fields) : Option AssetSettings := do
  return {
    vendor := ← fields.required 0 "vendor" asText
    request := {
      providerId := ← fields.withDefault 0 1 "provider_id" asUInt32
      assetId := ← fields.required 2 "asset_id" asUInt32
      serviceGroup := ← fields.withDefault 0 3 "service_group" asUInt32
      nodeGroupId := ← fields.withDefault 0 4 "node_group_id" asUInt64
      assetName := ← fields.optional 5 "asset_name" asText
      providerName := ← fields.optional 6 "provider_name" asText
      recordingId := ← fields.optional 7 "recording_id" asText
      homeId := ← fields.optional 8 "home_id" asUInt32
      smartCardId := ← fields.optional 9 "smart_card_id" asUInt32
      bitRate := ← fields.optional 10 "bit_rate" asUInt32 } }

/-- The entries of the table of these settings; what is left out has none. -/
def entries (settings : AssetSettings) : List (String × TomlValue) :=
  let request := settings.request
  [("vendor", .text settings.vendor),
    ("provider_id", .integer request.providerId.toNat),
    ("asset_id", .integer request.assetId.toNat),
    ("service_group", .integer request.serviceGroup.toNat),
    ("node_group_id", .integer request.nodeGroupId.toNat)]
    ++ [request.assetName.map fun name => ("asset_name", TomlValue.text name),
      request.providerName.map fun name => ("provider_name", .text name),
      request.recordingId.map fun id => ("recording_id", .text id),
      request.homeId.map fun id => ("home_id", .integer id.toNat),
      request.smartCardId.map fun id => ("smart_card_id", .integer id.toNat),
      request.bitRate.map fun rate => ("bit_rate", .integer rate.toNat)].filterMap id

end AssetSettings

namespace Settings

/-- The settings that the entries of a document stand for, whether they make sense or
not. -/
def ofEntries? (entries : List (String × TomlValue)) : Option Settings := do
  let fields := Fields.named entries
  return {
    session := ← fields.required 0 "session" fun value => do
      SessionSettings.ofFields? (← Fields.ofValue? value)
    stream := ← fields.withDefault {} 1 "stream" fun value => do
      StreamSettings.ofFields? (← Fields.ofValue? value)
    asset := ← fields.required 2 "asset" fun value => do
      AssetSettings.ofFields? (← Fields.ofValue? value) }

/-- The settings that a document stands for. -/
def ofToml (document : String) : Except SettingsError Settings :=
  match (parse? document).bind ofEntries? with
  | none => .error .unreadable
  | some settings =>
      match settings.check with
      | .ok () => .ok settings
      | .error setting => .error (.unusable setting)

/-- The document of settings: a table for each part, with empty lines between them. -/
def toToml (settings : Settings) : String :=
  "\n".intercalate [tableText "session" settings.session.entries,
    tableText "stream" settings.stream.entries, tableText "asset" settings.asset.entries]

end Settings

end OnDemand
