import PerpetualCurve.Market.Registry
import PerpetualCurve.Settings.Basic
import PerpetualCurve.Settings.Expansion
import PerpetualCurve.Settings.Layer
import PerpetualCurve.Toml.Document

/-!
# Loading settings

Settings come from a single TOML text, or from a host. A host has a file with the base settings,
next to it may be files for environments such as `staging`, and environment variables override both.
-/

namespace PerpetualCurve

/-- Why there are no settings or no registry. -/
inductive SettingsError where
  /-- A path refers to a variable that does not exist. -/
  | unknownVariable (path : String)
  /-- A source is missing or is no TOML document. -/
  | badSource
  /-- A name of a source leads to an item that a list cannot have. No check precedes it. -/
  | escapedPlace
  /-- The sources hold values of the wrong kind. -/
  | badSetting
  /-- A text does not describe settings. -/
  | badSettings
  /-- A text does not describe markets. -/
  | badMarkets
  | registry (cause : RegistryError)
  deriving DecidableEq

/-- The text that reports an error. -/
def SettingsError.message : SettingsError → String
  | unknownVariable path => s!"Failed to expand config path {path}"
  | badSource => "Failed to build configuration"
  | escapedPlace => "Place out of range"
  | badSetting => "Failed to deserialize configuration"
  | badSettings => "Failed to parse configuration"
  | badMarkets => "Failed to parse market registry"
  | registry cause => cause.message

/-! ## From a text -/

/-- The settings that a TOML text describes. -/
def Settings.ofToml (toml : String) : Except SettingsError Settings :=
  match (Toml.read? toml).bind fun table =>
    Toml.format.record (Settings.fields Toml.format) (.table table) with
  | some settings => .ok settings
  | none => .error .badSettings

namespace Registry

/-- The only field of a document with markets. -/
def fields {V : Type} (format : Format V) : Fields V (List Listing) :=
  .required "markets" (format.listOf (format.record (Listing.fields format)))

/-- The registry of the markets that a TOML text describes. -/
def ofToml (toml : String) : Except SettingsError Registry :=
  match (Toml.read? toml).bind fun table =>
    Toml.format.record (fields Toml.format) (.table table) with
  | some markets => (ofList markets).mapError .registry
  | none => .error .badMarkets

end Registry

/-- The registry of the configured markets. -/
def Settings.registry (settings : Settings) : Except RegistryError Registry :=
  Registry.ofList settings.markets

/-! ## From a host -/

namespace Host

variable (host : Host)

/-- The text at a path from the root, which may lack the extension of the file. -/
def textAt? (path : Path) : Option String :=
  match host.read? path with
  | some toml => if path.hasExtension "toml".toList then some toml else none
  | none => (path.lengthened? ".toml".toList).bind host.read?

/-- The source at a path. -/
def source? (path : Path) : Option (List (String × Setting)) := do
  Setting.ofDocument? (← Toml.read? (← host.textAt? (host.fromRoot path)))

/-- The path of the settings for an environment, next to the base settings. -/
def environmentPath? (base : Path) (environment : String) : Option Path := do
  let directory : Path :=
    { steps := ["environments".toList], isAbsolute := false, isDirectory := true }
  let file ← Path.ofText? (environment.toList ++ ".toml".toList)
  return (base.parent.append directory).append file

/-- The source with the settings for an environment. It is empty where there is none. -/
def environment? (base : Path) (environment : Option String) : Option (List (String × Setting)) :=
  match environment.bind (environmentPath? base) with
  | some path => if host.exists? path then host.source? path else some []
  | none => some []

/-- Settings with another source merged in. -/
def override (setting : Setting) (source : List (String × Setting)) :
    Except SettingsError Setting :=
  (setting.override? host.room source).getDM (.error .escapedPlace)

/-- The merged settings of all sources. What they come to is merged once more into an empty table,
as a name may have become a place by its lower-case form. -/
def sources (base : List Char) (environment : Option String) : Except SettingsError Setting := do
  let base ← (Path.ofText? base).getDM (.error .badSource)
  let source ← (host.source? base).getDM (.error .badSource)
  let setting ← host.override (.table []) source
  let overrides ← (host.environment? base environment).getDM (.error .badSource)
  let setting ← host.override setting overrides
  let setting ← host.override setting (Setting.ofVariables host.bindings)
  host.override (.table []) setting.entries

end Host

/-- Where the base settings are unless said otherwise. -/
def Settings.defaultPath : String := "config/vamm.toml"

/-- The settings of a host, for an environment if one is named. -/
def Settings.load (host : Host) (path environment : Option String) :
    Except SettingsError Settings := do
  let path := path.getD defaultPath
  let base ← (host.expand? path.toList).getDM (.error (.unknownVariable path))
  let setting ← host.sources base environment
  (Setting.format.record (Settings.fields Setting.format) setting).getDM (.error .badSetting)

/-- The settings of a host from the default place, if their markets make a registry. -/
def Settings.loadDefault (host : Host) (environment : Option String) :
    Except SettingsError Settings := do
  let settings ← load host none environment
  match settings.registry with
  | .ok _ => return settings
  | .error cause => throw (.registry cause)

end PerpetualCurve
