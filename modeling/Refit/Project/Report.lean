import Refit.Project.Snapshot

/-!
The report on a snapshot.
-/

namespace Refit.Snapshot

-- How many items of a kind a report names.
def reported : Nat := 30

-- A section with a count and a line for each of the first items.
def sectionOf (title : String) (xs : List α) (line : α → String) : List String :=
  if xs.isEmpty then []
  else ["", "## " ++ title ++ " (" ++ toString xs.length ++ ")"] ++ (xs.take reported).map line

def modelLine (m : Model) : String :=
  "- " ++ m.name.shown ++ " [" ++ m.file.shown ++ "]: " ++ toString m.fields.length ++ " fields"

def screenLine (s : Screen) : String :=
  ("- " ++ s.name.shown ++ " " ++ (s.route.orElse "").shown ++ " (" ++ s.kind.shown ++ ", "
    ++ s.layout.shown ++ ")").strippedRight

def widgetLine (w : Widget) : String :=
  "- " ++ w.name.shown ++ ": " ++ toString w.props.length ++ " props"

def generators (d : Dependencies) : List String :=
  let names := [("freezed", d.usesFreezed), ("json_serializable", d.usesJsonSerializable),
    ("build_runner", d.usesBuildRunner)]
  (names.filter (·.2)).map (·.1)

def themeLines (t : Theme) : List String :=
  ["", "## Theme", "- Material: " ++ (Datum.bool t.usesMaterial).shown ++ ", Cupertino: "
      ++ (Datum.bool t.usesCupertino).shown]
    ++ (if t.primary.truthy then ["- Primary color: " ++ t.primary.shown] else [])
    ++ (if t.font.truthy then ["- Font family: " ++ t.font.shown] else [])
    ++ (if t.colors.isEmpty then [] else ["- Named colors: " ++ toString t.colors.length])

def report (s : Snapshot) : String :=
  let a := s.architecture
  let d := s.dependencies
  let generated := generators d
  "\n".joining <|
    ["# Flutter Project Analysis: " ++ s.name.shown, "", "## Overview",
        "- Flutter: " ++ s.flutterVersion.shown ++ ", Dart: " ++ s.dartVersion.shown,
        "- Files: " ++ toString s.stats.files ++ " (" ++ toString s.stats.dartFiles ++ " Dart, "
          ++ toString s.stats.testFiles ++ " tests)",
        "- Lines of code: " ++ Number.withCommas s.stats.lines, "", "## Architecture",
        "- Detected: " ++ a.detected.shown ++ " (" ++ Number.percent a.confidence
          ++ " confidence)"]
      ++ (if a.reasoning.truthy then ["- Reasoning: " ++ a.reasoning.shown] else [])
      ++ ["", "## Dependencies", "- State management: " ++ d.state.shown,
        "- Persistence: " ++ d.persistence.shown, "- Networking: " ++ d.networking.shown,
        "- Navigation: " ++ d.navigation.shown]
      ++ (if generated.isEmpty then []
        else ["- Code generation: " ++ ", ".joining generated])
      ++ sectionOf "Models" s.models modelLine
      ++ sectionOf "Screens" s.screens screenLine
      ++ sectionOf "Widgets" s.widgets widgetLine
      ++ ((s.theme.map themeLines).getD [])

end Refit.Snapshot
