import OnDemand.Session.Operations
import OnDemand.Settings.Document

/-!
# The command line

The program writes sample settings, or reads settings and shows the datagrams by which
a client with these settings asks the resource manager for its session.
-/

namespace OnDemand

/-- What is asked of the program. -/
inductive Command where
  | showSample
  /-- Show the request for a session, perhaps for another asset than the settings name. -/
  | showRequest (assetId : Option UInt32)
  deriving Repr, DecidableEq

/-- Why arguments were not understood. -/
inductive UsageError where
  | unknownArgument (text : String)
  | missingAssetId
  | badAssetId (text : String)
  deriving Repr, DecidableEq

def UsageError.message : UsageError → String
  | unknownArgument text => "unexpected argument " ++ text
  | missingAssetId => "--asset needs an asset id"
  | badAssetId text => text ++ " is no asset id"

/-- Why a command could not be carried out. -/
inductive CommandError where
  | settings (cause : SettingsError)
  | session (cause : SessionError)

def CommandError.message : CommandError → String
  | settings cause => cause.message
  | session cause => cause.message

namespace Command

/-- Take one argument after another; of several asset ids the last counts. -/
def addArguments (command : Command) : List String → Except UsageError Command
  | [] => .ok command
  | "--example-config" :: rest => addArguments .showSample rest
  | ["--asset"] => .error .missingAssetId
  | "--asset" :: text :: rest =>
      match (Text.digitsIn? 10 text.toList).filter (· < UInt32.size) with
      | none => .error (.badAssetId text)
      | some assetId =>
          match command with
          | .showSample => addArguments .showSample rest
          | .showRequest _ => addArguments (.showRequest (some (.ofNat assetId))) rest
  | text :: _ => .error (.unknownArgument text)

/-- The command that arguments give. -/
def ofArguments (arguments : List String) : Except UsageError Command :=
  addArguments (.showRequest none) arguments

def readsSettings : Command → Bool
  | showSample => false
  | showRequest _ => true

end Command

/-- The datagrams by which a client asks for its session. -/
def Settings.opening (settings : Settings) : Except CommandError (List Bytes) :=
  match settings.asset.profile with
  | .error name => .error (.settings (.unusable (.vendor name)))
  | .ok profile =>
      let (ref, client) :=
        (Client.start settings.session.client).create profile settings.asset.request
      match client.setup ref with
      | (.error cause, _) => .error (.session cause)
      | (.ok (), client) => .ok (Transport.deliveredSince {} client.courier.transport)

def Settings.withAsset (settings : Settings) (assetId : UInt32) : Settings :=
  { settings with
    asset := { settings.asset with request := { settings.asset.request with assetId } } }

/-- The lines that a command prints, given the document with the settings. -/
def Command.lines (command : Command) (document : String) :
    Except CommandError (List String) :=
  match command with
  | .showSample => .ok [Settings.sample.toToml]
  | .showRequest assetId =>
      match Settings.ofToml document with
      | .error cause => .error (.settings cause)
      | .ok settings =>
          let settings := assetId.elim settings settings.withAsset
          settings.opening.map (·.map Text.hexBytes)

end OnDemand
