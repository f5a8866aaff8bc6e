import CatalogSearch.Json.Reader
import CatalogSearch.Settings.Basic

/-!
# The settings file

Settings are kept in one file of a directory. Loading creates the directory and the file where they
are missing; reading and writing do not create the directory. What is refused leaves everything as
it was.
-/

namespace CatalogSearch

/-- The content of a file: a text, or bytes that are no text. -/
inductive FileContent where
  | text (text : String)
  | bytes (bytes : List UInt8)
deriving DecidableEq

/-- What stands where the settings file belongs. -/
inductive SettingsEntry where
  | absent
  | file (content : FileContent)
  | directory
deriving DecidableEq

/-- The directory of the settings: not there, obstructed by a file in its place, or there. -/
inductive SettingsStore where
  | missing
  | obstructed
  | present (entry : SettingsEntry)
deriving DecidableEq

/-- Why the settings file cannot be used. -/
inductive StoreError where
  | unavailable
  | obstructed
  | notJson
  | malformed (cause : DecodeError)
  | unsupportedVersion (version : String)
  | flawed (flaw : SettingsFlaw)

namespace StoreError

/-- The path of the settings file. -/
def filePath (directory : String) : String :=
  directory ++ "/search-query.json"

/-- The words for an error about the file in the given directory, where they are fixed. -/
def message? (directory : String) : StoreError → Option String
  | .unavailable => none
  | .obstructed =>
      some ("Config error: failed to create config directory " ++ directory ++
        ": File exists (os error 17)")
  | .notJson => none
  | .malformed cause =>
      some ("Config error: failed to parse search config " ++ filePath directory ++ ": " ++
        cause.message)
  | .unsupportedVersion version =>
      some ("Config error: unsupported search config version " ++ version)
  | .flawed flaw => some ("Config error: " ++ flaw.message)

end StoreError

namespace SearchSettings

/-- The settings that a value denotes, of the current version and without flaw. -/
def ofJson (json : Json) : Except StoreError SearchSettings :=
  match decode json with
  | .error cause => .error (.malformed cause)
  | .ok settings =>
      if settings.version ≠ currentVersion then
        .error (.unsupportedVersion settings.version)
      else
        match settings.flaw? with
        | some flaw => .error (.flawed flaw)
        | none => .ok settings

/-- The settings that a text denotes. What stands beside the fields of a record is checked for its
form alone, so the outline of a text is enough: no field of settings is null. -/
def ofText (text : String) : Except StoreError SearchSettings :=
  match Json.parse? text with
  | some json => ofJson json
  | none =>
      match (Json.outline? text).map ofJson with
      | some (.ok settings) => .ok settings
      | _ => .error .notJson

/-- The text of a settings file. -/
def text (settings : SearchSettings) : String :=
  settings.toJson.indented

end SearchSettings

namespace SettingsStore

/-- The content of the settings file, if there is one. -/
def content? : SettingsStore → Option FileContent
  | .present (.file content) => some content
  | _ => none

/-- Reads the settings from their file, which must be of the current version. -/
def read (store : SettingsStore) : Except StoreError SearchSettings :=
  match store.content? with
  | some (.text text) => SearchSettings.ofText text
  | _ => .error .unavailable

/-- Writes settings without flaw, if the directory is there and the file can be written. -/
def write (settings : SearchSettings) (store : SettingsStore) :
    Except StoreError Unit × SettingsStore :=
  match settings.flaw? with
  | some flaw => (.error (.flawed flaw), store)
  | none =>
      match store with
      | .missing | .obstructed | .present .directory => (.error .unavailable, store)
      | .present _ => (.ok (), .present (.file (.text settings.text)))

/-- Loads the settings, and creates them as the initial ones where there are none. -/
def load : SettingsStore → Except StoreError SearchSettings × SettingsStore
  | .obstructed => (.error .obstructed, .obstructed)
  | .missing | .present .absent =>
      (.ok .initial, .present (.file (.text SearchSettings.initial.text)))
  | store => (store.read, store)

end SettingsStore

end CatalogSearch
