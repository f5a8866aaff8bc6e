/-!
# Shortcuts

A shortcut is a name that begins with a dollar sign and stands for one or more alternatives. Each
alternative asks some fields to have one of a list of texts.
-/

namespace CatalogSearch

/-- One alternative of a shortcut: fields, each with the texts of which it must have one. -/
abbrev Fragment := List (String × List String)

namespace Shortcut

/-- Whether a text is a shortcut, registered or not. -/
def isShortcut (text : String) : Bool :=
  text.toList.head? == some '$'

/-- The types of applications. -/
def appTypes : List String :=
  ["Web Mapping Application", "Application", "Mobile Application", "Native Application",
    "Operations Dashboard Application", "Dashboard", "Insights Page", "Insights Workbook",
    "Web Experience", "StoryMap"]

/-- The types of datasets. -/
def datasetTypes : List String :=
  ["Feature Service", "Map Service", "Image Service", "Vector Tile Service", "Scene Service", "WFS",
    "WMS", "KML", "KML Collection", "Feature Collection", "Table", "CSV", "CSV Collection",
    "Shapefile", "File Geodatabase", "GeoJson", "GeoPackage", "Microsoft Excel"]

/-- The types of documents. -/
def documentTypes : List String :=
  ["PDF", "Microsoft Word", "Microsoft Powerpoint", "Document Link", "Image", "Visio Document",
    "Report Template"]

/-- The types of maps. -/
def mapTypes : List String :=
  ["Web Map", "Web Scene", "Mobile Map Package", "Map Area"]

/-- The types of sites. -/
def siteTypes : List String :=
  ["Hub Site Application", "Site Application"]

/-- The types of initiatives. -/
def initiativeTypes : List String :=
  ["Hub Initiative"]

/-- The types of templates. -/
def templateTypes : List String :=
  ["Solution", "Hub Initiative Template"]

/-- The types of feedback forms. -/
def feedbackTypes : List String :=
  ["Form", "Quick Capture Project"]

/-- The types of experiences. -/
def experienceTypes : List String :=
  ["Web Experience"]

/-- A story map is an item of its own type, or an older application with a keyword for it. -/
def storyMapFragments : List Fragment :=
  [[("type", ["StoryMap"])],
    [("type", ["Web Mapping Application"]), ("typekeywords", ["Story Map"])]]

/-- A dashboard is an item of its own type, or an older application with a keyword for it. -/
def dashboardFragments : List Fragment :=
  [[("type", ["Dashboard"])],
    [("type", ["Web Mapping Application"]), ("typekeywords", ["Dashboard"])]]

/-- A single fragment that asks for one of some types. -/
def ofTypes (types : List String) : List Fragment :=
  [[("type", types)]]

/-- The registered shortcuts and their alternatives. -/
def registry : List (String × List Fragment) :=
  [("$app", ofTypes appTypes), ("$apps", ofTypes appTypes),
    ("$dataset", ofTypes datasetTypes), ("$datasets", ofTypes datasetTypes),
    ("$document", ofTypes documentTypes), ("$documents", ofTypes documentTypes),
    ("$map", ofTypes mapTypes), ("$maps", ofTypes mapTypes),
    ("$site", ofTypes siteTypes), ("$sites", ofTypes siteTypes),
    ("$initiative", ofTypes initiativeTypes), ("$initiatives", ofTypes initiativeTypes),
    ("$template", ofTypes templateTypes), ("$templates", ofTypes templateTypes),
    ("$feedback", ofTypes feedbackTypes),
    ("$experience", ofTypes experienceTypes), ("$experiences", ofTypes experienceTypes),
    ("$storymap", storyMapFragments), ("$storymaps", storyMapFragments),
    ("$dashboard", dashboardFragments), ("$dashboards", dashboardFragments)]

/-- The alternatives of a shortcut, if it is registered. -/
def fragments? (shortcut : String) : Option (List Fragment) :=
  registry.lookup shortcut

end Shortcut

end CatalogSearch
