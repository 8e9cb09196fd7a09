import Refit.Project.Dependencies
import Refit.Yaml.Reader

/-!
The manifest of a project: its name, versions, dependencies, assets and fonts.

A text that is no YAML, or whose document is no mapping, reads as an empty manifest, and a missing
or empty value as its default. Other values are taken by their text.
-/

namespace Refit

structure Manifest where
  name : String := "unknown"
  description : String := ""
  version : String := "1.0.0"
  flutterVersion : String := "3.0.0"
  dartMin : String := "3.0.0"
  dartMax : Option String := none
  dependencies : Dependencies := {}
  assets : List String := []
  fonts : List String := []
  deriving Inhabited

namespace Manifest

open Pattern

def toDatum (m : Manifest) : Datum :=
  .record [("name", .text m.name), ("description", .text m.description),
    ("version", .text m.version), ("flutter_version", .text m.flutterVersion),
    ("dart_min_version", .text m.dartMin), ("dart_max_version", .ofOption .text m.dartMax),
    ("dependencies", m.dependencies.toDatum), ("assets", .texts m.assets),
    ("fonts", .texts m.fonts)]

-- The name of the file that holds a manifest.
def fileName : String :=
  "pubspec.yaml"

def versionText : Pattern :=
  group 1 (plus (one fun c => (Letter.digitValue? c).isSome || c == '.'))

def lowerBound : Pattern :=
  char '>' ++ opt (char '=') ++ star blank ++ versionText

def upperBound : Pattern :=
  char '<' ++ star blank ++ versionText

def defaultConstraint : String :=
  ">=3.0.0 <4.0.0"

def defaultVersion : String :=
  "3.0.0"

def lowerOf (constraint : String) : String :=
  ((lowerBound.search? constraint).map (·.group 1)).getD defaultVersion

def upperOf (constraint : String) : Option String :=
  (upperBound.search? constraint).map (·.group 1)

-- The least version and the first one too new of a constraint.
def sdkBounds (constraint : Datum) : Datum.Read (String × Option String) := do
  let s ← (constraint.orElse (.text defaultConstraint)).toText
  return (lowerOf s, upperOf s)

-- The entries of a section, none if it is no mapping.
def sectionOf (es : Dict) (key : String) : Dict :=
  ((es.get key).entries?).getD []

def textOf (es : Dict) (key fallback : String) : Datum.Read String :=
  ((es.get key).orElse (.text fallback)).toText

-- The families of fonts, of the entries that have one.
def families (fonts : List Datum) : Datum.Read (List String) :=
  let named := fonts.filterMap fun f => do
    let family := Dict.get (← f.entries?) "family"
    if family.truthy then some family else none
  named.mapM Datum.toText

def ofDict (es : Dict) : Datum.Read Manifest := do
  let environment := sectionOf es "environment"
  let (dartMin, dartMax) ← sdkBounds (environment.get "sdk")
  let flutterVersion ← textOf environment "flutter" ">=3.0.0"
  let flutter := sectionOf es "flutter"
  let assets ← ((flutter.get "assets").orElse (.list [])).items
  let assets ← (assets.filter Datum.truthy).mapM Datum.toText
  let fonts ← families (← ((flutter.get "fonts").orElse (.list [])).items)
  return {
    name := ← textOf es "name" "unknown"
    description := ← textOf es "description" ""
    version := ← textOf es "version" "1.0.0"
    flutterVersion := lowerOf flutterVersion
    dartMin := dartMin
    dartMax := dartMax
    dependencies := .ofPackages (sectionOf es "dependencies") (sectionOf es "dev_dependencies")
    assets := assets
    fonts := fonts }

def ofText (s : String) : Datum.Read Manifest :=
  match Yaml.read s with
  | .ok d => ofDict (d.entries?.getD [])
  | .error (.fault f) => .error f
  | .error (.refused _) => ofDict []

end Manifest

end Refit
