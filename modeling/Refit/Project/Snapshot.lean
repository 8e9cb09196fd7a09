import Refit.Project.Architecture
import Refit.Project.Manifest
import Refit.Project.Model
import Refit.Project.Screen
import Refit.Project.Theme
import Refit.Project.Widget

/-!
The snapshot of a project: all that an analysis finds, as it is stored and read back.
-/

namespace Refit

structure Stats where
  files : Int := 0
  dartFiles : Int := 0
  testFiles : Int := 0
  lines : Int := 0
  deriving DecidableEq, Repr, Inhabited

namespace Stats

def toDatum (s : Stats) : Datum :=
  .record [("total_files", .int s.files), ("dart_files", .int s.dartFiles),
    ("test_files", .int s.testFiles), ("lines_of_code", .int s.lines)]

def ofDatum (d : Datum) : Datum.Read Stats := do
  let count (key : String) : Datum.Read Int := do (← Record.optional d key (.int 0)).toInt
  let files ← count "total_files"
  let dartFiles ← count "dart_files"
  let testFiles ← count "test_files"
  let lines ← count "lines_of_code"
  return ⟨files, dartFiles, testFiles, lines⟩

def isTest (path : String) : Bool :=
  path.beginsWith "test/" || path.holds "/test/" || path.finishesWith "_test.dart"

-- The lines of a text, the last one counting without a break.
def linesOf (s : List Char) : Nat :=
  s.count '\n' + if s.isEmpty || s.getLast? == some '\n' then 0 else 1

-- Tests count as files but not for the lines of code.
def ofFiles (fs : List SourceFile) : Stats :=
  let dart := fs.filter (Path.isDart ·.path)
  let counts := (dart.filter (! isTest ·.path)).map (linesOf ·.content.toList)
  { files := fs.length
    dartFiles := dart.length
    testFiles := (dart.filter (isTest ·.path)).length
    lines := Int.ofNat (counts.foldl (· + ·) 0) }

end Stats

structure Snapshot where
  name : Datum
  architecture : Assessment
  description : Datum := ""
  flutterVersion : Datum := "3.0.0"
  dartVersion : Datum := "3.0.0"
  dependencies : Dependencies := {}
  models : List Model := []
  screens : List Screen := []
  widgets : List Widget := []
  theme : Option Theme := none
  stats : Stats := {}
  deriving Inhabited

namespace Snapshot

def toDatum (s : Snapshot) : Datum :=
  .record [("name", s.name), ("architecture", s.architecture.toDatum),
    ("description", s.description), ("flutter_version", s.flutterVersion),
    ("dart_version", s.dartVersion), ("dependencies", s.dependencies.toDatum),
    ("models", .list (s.models.map Model.toDatum)),
    ("screens", .list (s.screens.map Screen.toDatum)),
    ("widgets", .list (s.widgets.map Widget.toDatum)), ("theme", .ofOption Theme.toDatum s.theme),
    ("stats", s.stats.toDatum)]

def themeOf (d : Datum) : Datum.Read (Option Theme) :=
  if d.truthy then do return some (← Theme.ofDatum d) else return none

def ofDatum (d : Datum) : Datum.Read Snapshot := do
  let theme ← Record.optional d "theme" .null
  let name ← Record.optional d "name" "unknown"
  let description ← Record.optional d "description" ""
  let flutterVersion ← Record.optional d "flutter_version" "3.0.0"
  let dartVersion ← Record.optional d "dart_version" "3.0.0"
  let architecture ← Assessment.ofDatum (← Record.orElse d "architecture" (.dict []))
  let dependencies ← Dependencies.ofDatum (← Record.orElse d "dependencies" (.dict []))
  let models ← Record.each d "models" Model.ofDatum
  let screens ← Record.each d "screens" Screen.ofDatum
  let widgets ← Record.each d "widgets" Widget.ofDatum
  let theme ← themeOf theme
  let stats ← Stats.ofDatum (← Record.orElse d "stats" (.dict []))
  return ⟨name, architecture, description, flutterVersion, dartVersion, dependencies, models,
    screens, widgets, theme, stats⟩

end Snapshot

end Refit
