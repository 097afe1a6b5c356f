import TypedContainers.Configuration.Declaration
import TypedContainers.Files.Tree
import TypedContainers.Json.Reader
import TypedContainers.Record.Unit
import TypedContainers.Settings
import TypedContainers.Yaml.Document

/-!
# Failures

Why a run stops early.  A failure is told as a chain, from what was attempted to
what went wrong, and the last link may be the complaint of a reader or of the
machine.
-/

namespace TypedContainers

/-- One link of the chain that explains a failure. -/
inductive Link
  | text (message : String)
  | io (error : IoError)
  | json (error : Json.ReadError)
  | yaml (error : Yaml.ReadError)
  | toml (message : String)
deriving Repr, DecidableEq

def Link.message : Link → String
  | text message => message
  | io error => error.message
  | json error => error.message
  | yaml error => error.message
  | toml message => message

def SettingsFault.links : SettingsFault → List Link
  | malformed error => [.text "Failed to parse generator settings", .toml error.message]
  | unknownName name =>
    [.text "Failed to parse generator settings", .toml ("unknown name " ++ name)]
  | wrongKind name =>
    [.text "Failed to parse generator settings", .toml ("wrong kind of value for " ++ name)]
  | entry fault => [.text "Invalid [[categorical]] entry", .text fault.message]

/-- Why a run stops early. -/
inductive Failure
  | configurationMissing (file : Path)
  | configurationUnreadable (file : Path) (error : IoError)
  | configurationJson (file : Path) (error : Json.ReadError)
  | configurationYaml (file : Path) (error : Yaml.ReadError)
  | configurationInvalid (file : Path) (fault : ConfigurationFault)
  | settingsMissing (file : Path)
  | settingsUnreadable (file : Path) (error : IoError)
  | settingsInvalid (file : Path) (fault : SettingsFault)
  | registry (fault : RegistryFault)
  | collision (collision : Collision)
  | outputDirectory (directory : Path) (error : IoError)
  | outputFile (error : IoError)
  | projectDirectory (directory : Path) (error : IoError)
  | starterFile (file : Path) (error : IoError)
  | formatterUnavailable (error : IoError)
  | formatterFailed
deriving Repr, DecidableEq

namespace Failure

def links : Failure → List Link
  | configurationMissing file => [.text (file.text ++ " not found")]
  | configurationUnreadable file error => [.text ("Failed to read " ++ file.text), .io error]
  | configurationJson file error =>
    [.text ("Failed to parse JSON in " ++ file.text), .json error]
  | configurationYaml file error =>
    [.text ("Failed to parse YAML in " ++ file.text), .yaml error]
  | configurationInvalid file fault =>
    [.text ("Invalid configuration in " ++ file.text), .text fault.message]
  | settingsMissing file => [.text ("settings file not found: " ++ file.text)]
  | settingsUnreadable file error =>
    [.text ("Failed to read settings: " ++ file.text), .io error]
  | settingsInvalid file fault =>
    .text ("Invalid settings file: " ++ file.text) :: fault.links
  | registry fault => [.text fault.message]
  | collision c => [.text c.message]
  | outputDirectory directory error =>
    [.text ("Failed to create output directory " ++ directory.text), .io error]
  | outputFile error => [.io error]
  | projectDirectory directory error =>
    [.text ("Failed to create " ++ directory.text), .io error]
  | starterFile file error => [.text ("Failed to write " ++ file.text), .io error]
  | formatterUnavailable error => [.io error]
  | formatterFailed => [.text "rustfmt failed"]

def message (failure : Failure) : String :=
  String.intercalate ": " (failure.links.map Link.message)

end Failure

end TypedContainers
