import CatalogSearch.Codec.Record
import CatalogSearch.Text.Blank

/-!
# Settings

Which fields each backend takes, and how. Settings are written as a record with a version.
-/

namespace CatalogSearch

/-- The settings of the portal: the fields that are rendered at all, those whose exact values are
sent apart from the search text, and those that are sent as request parameters. -/
structure PortalSettings where
  allowedFields : List String
  filterableFields : List String
  parameterFields : List String
deriving DecidableEq

/-- The settings of the items interface: the fields that other parts of a request carry, and the
number of items of a page. -/
structure OgcSettings where
  reservedFields : List String
  defaultLimit : UInt32
deriving DecidableEq

/-- The settings of all backends. -/
structure SearchSettings where
  version : String
  portal : PortalSettings
  ogc : OgcSettings
deriving DecidableEq

namespace PortalSettings

/-- Whether a field may be searched for. -/
def allows (settings : PortalSettings) (field : String) : Bool :=
  settings.allowedFields.contains field

/-- Whether the exact values of a field are sent apart. -/
def isFilterable (settings : PortalSettings) (field : String) : Bool :=
  settings.filterableFields.contains field

/-- Whether a field is sent as a request parameter. -/
def isParameter (settings : PortalSettings) (field : String) : Bool :=
  settings.parameterFields.contains field

/-- Whether a field belongs into the search texts. -/
def includes (settings : PortalSettings) (field : String) : Bool :=
  !settings.isParameter field && settings.allows field

/-- The settings of the current version. -/
def initial : PortalSettings where
  allowedFields :=
    ["access", "bbox", "categories", "categoryFilter", "created", "culture", "description", "group",
      "id", "isopendata", "isviewonly", "modified", "name", "orgid", "owner", "searchUserAccess",
      "searchUserName", "snippet", "tags", "term", "title", "type", "typekeywords"]
  filterableFields := ["name", "owner", "tags", "title", "type", "typekeywords"]
  parameterFields := ["bbox", "searchUserAccess", "searchUserName"]

/-- The written form of the settings of the portal. -/
def toJson (settings : PortalSettings) : Json :=
  .object [("allowed_fields", .ofStrings settings.allowedFields),
    ("filterable_fields", .ofStrings settings.filterableFields),
    ("param_fields", .ofStrings settings.parameterFields)]

/-- Decodes the settings of the portal. -/
def decode : Decoder PortalSettings :=
  ((Record.done mk).andThen (Record.required "allowed_fields" (Decode.list Decode.string))
    |>.andThen (Record.required "filterable_fields" (Decode.list Decode.string))
    |>.andThen (Record.required "param_fields" (Decode.list Decode.string))).decode
      "PortalSettings" false

end PortalSettings

namespace OgcSettings

/-- Whether another part of a request carries a field. -/
def isReserved (settings : OgcSettings) (field : String) : Bool :=
  settings.reservedFields.contains field

/-- Whether a field belongs into the filter expression. -/
def includes (settings : OgcSettings) (field : String) : Bool :=
  !settings.isReserved field

/-- The settings of the current version. -/
def initial : OgcSettings where
  reservedFields := ["term", "bbox", "fields", "flatten", "limit", "startindex", "sortBy"]
  defaultLimit := 10

/-- The written form of the settings of the items interface. -/
def toJson (settings : OgcSettings) : Json :=
  .object [("reserved_fields", .ofStrings settings.reservedFields),
    ("default_limit", .number (.ofUInt32 settings.defaultLimit))]

/-- Decodes the settings of the items interface. -/
def decode : Decoder OgcSettings :=
  ((Record.done mk).andThen (Record.required "reserved_fields" (Decode.list Decode.string))
    |>.andThen (Record.required "default_limit" Decode.unsigned32)).decode "OgcSettings" false

end OgcSettings

/-- What makes settings unusable. -/
inductive SettingsFlaw where
  | noVersion
  | noAllowedFields
  | noLimit
deriving DecidableEq

/-- The message of a flaw. -/
def SettingsFlaw.message : SettingsFlaw → String
  | .noVersion => "version must not be empty"
  | .noAllowedFields => "portal.allowed_fields must not be empty"
  | .noLimit => "ogc.default_limit must be greater than zero"

namespace SearchSettings

/-- The version of the written form. -/
def currentVersion : String := "1.0.0"

/-- The settings used when none have been written. -/
def initial : SearchSettings :=
  ⟨currentVersion, .initial, .initial⟩

/-- The first flaw of settings: a blank version, no allowed field, or pages without items. -/
def flaw? (settings : SearchSettings) : Option SettingsFlaw :=
  if settings.version.toList.all Text.isBlank then some .noVersion
  else if settings.portal.allowedFields.isEmpty then some .noAllowedFields
  else if settings.ogc.defaultLimit = 0 then some .noLimit
  else none

/-- The written form of settings. -/
def toJson (settings : SearchSettings) : Json :=
  .object [("version", .string settings.version), ("portal", settings.portal.toJson),
    ("ogc", settings.ogc.toJson)]

/-- Decodes settings. -/
def decode : Decoder SearchSettings :=
  ((Record.done mk).andThen (Record.required "version" Decode.string)
    |>.andThen (Record.required "portal" PortalSettings.decode)
    |>.andThen (Record.required "ogc" OgcSettings.decode)).decode "SearchConfig" false

end SearchSettings

end CatalogSearch
