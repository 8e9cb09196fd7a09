import Refit.Plan.Options
import Refit.Plan.Schema
import Refit.Plan.Table
import Refit.Project.Snapshot

/-!
Planning a rebuild from a snapshot.

A class is known by its file and its name. A model that is found twice is moved once, and a class
found both as a screen and as a widget counts as a screen. What cannot be carried over as it is
becomes a warning.
-/

namespace Refit.Plan

open Datum (Read)

/-! Choosing an architecture and a library for state -/

def architectures : List String :=
  ["clean", "feature-first", "layer-first"]

def stateLibraries : List String :=
  ["riverpod", "bloc"]

def isOneOf (d : Datum) (names : List String) : Bool :=
  names.any fun n => d.same (.text n)

-- What was chosen, and the warnings about the choice.
abbrev Choice := Datum × List String

def customAsLayers (chosen : Datum) : Choice :=
  if chosen.same "custom" then
    ("layer-first", ["Detected architecture is custom; rebuilding as layer-first."])
  else (chosen, [])

def chooseArchitecture (s : Snapshot) (target : Datum) : Choice :=
  if target.same "keep" then
    if s.architecture.confidence == 0 then
      ("layer-first", ["Architecture requested as 'keep' but detection confidence is 0. "
        ++ "Falling back to layer-first."])
    else customAsLayers s.architecture.detected
  else if isOneOf target architectures then (target, [])
  else
    ("layer-first",
      ["Unknown target architecture '" ++ target.shown ++ "'. Using layer-first."])

def chooseState (s : Snapshot) (target : Datum) : Read Choice := do
  let detected := s.dependencies.state
  if isOneOf target stateLibraries then return (target, [])
  else if !target.same "keep" then
    return ("riverpod",
      ["Unknown target state management '" ++ target.shown ++ "'. Using Riverpod."])
  else if isOneOf detected stateLibraries then return (detected, [])
  else if detected.same "none" then
    return ("riverpod", ["No state management detected. Adding Riverpod by default."])
  else
    return ("riverpod", ["State management '" ++ (← detected.toText)
      ++ "' cannot be rebuilt directly. Migrating to Riverpod."])

/-! Modules and colour -/

-- The first of each group of equal values.
def distinct (ds : List Datum) : List Datum :=
  ds.foldl (fun seen d => if seen.any d.same then seen else seen ++ [d]) []

-- The modules of the new project, each once and without the excluded ones.
def chooseModules (s : Snapshot) (o : Options) : Read (List Datum) := do
  let given (b : Bool) (m : String) : List Datum := if b then [.text m] else []
  let extra ← o.extraModules.items
  let ids :=
    given (o.offline.truthy || s.dependencies.persistence.same "drift") "drift"
      ++ given o.offline.truthy "pwa" ++ given o.applyDesign.truthy "design"
      ++ given (!s.dependencies.networking.same "none") "api" ++ [.text "state"] ++ extra
  let ids ← ids.mapM Datum.asKey
  let excluded ← (← o.excludedModules.items).mapM Datum.asKey
  return (distinct ids).filter fun m => !excluded.any m.same

def defaultColor : String :=
  "#6366F1"

-- The primary colour of the theme without its alpha, if it is a literal.
def themeColor (s : Snapshot) : Read String := do
  let primary := (s.theme.map Theme.primary).getD .null
  if !primary.truthy then return defaultColor
  let p ← primary.asText "startswith"
  if p.beginsWith "0x" && p.length == 10 then return "#" ++ p.skipChars 4 else return defaultColor

/-! The definition of the new project -/

def offlineSection (o : Options) : Datum :=
  if o.offline.truthy then
    .record [("strategy", "offline-first"),
      ("storage", .record [("type", "drift"), ("encryption", o.encryption)]),
      ("caching", .record [("assets", .bool true), ("api", .bool true), ("ttl", .int 3600)]),
      ("sync", .record [("enabled", .bool true), ("strategy", "auto")])]
  else .null

def definition (s : Snapshot) (o : Options) (architecture state : Datum) (modules : List Datum) :
    Read Dict := do
  let color ← themeColor s
  let shortName ← s.name.firstParts 12
  return [
    (.text "name", s.name), (.text "description", s.description),
    (.text "architecture", architecture), (.text "state_management", state),
    (.text "targets", .texts ["web"]),
    (.text "pwa", .record [("name", s.name), ("short_name", shortName),
      ("description", s.description), ("theme_color", .text color),
      ("background_color", "#FFFFFF"), ("display", "standalone"), ("orientation", "any"),
      ("start_url", "/"), ("scope", "/")]),
    (.text "offline", offlineSection o),
    (.text "flutter", .record [("version", s.flutterVersion.orElse "3.10.0")]),
    (.text "modules", .list (modules.map fun m =>
      .record [("id", m), ("enabled", .bool true), ("config", .dict [])]))]

/-! Classes -/

-- What a class is known by.
structure ClassKey where
  file : Datum
  name : Datum

namespace ClassKey

def same (a b : ClassKey) : Bool :=
  a.file.same b.file && a.name.same b.name

def of (file name : Datum) : Read ClassKey := do
  return ⟨← file.asKey, ← name.asKey⟩

end ClassKey

-- Splits off the classes whose key came earlier, or is among `taken`.
def split (key : α → Read ClassKey) : List ClassKey → List α → Read (List α × List α)
  | _, [] => return ([], [])
  | taken, x :: xs => do
    let k ← key x
    if taken.any k.same then
      let (first, again) ← split key taken xs
      return (first, x :: again)
    else
      let (first, again) ← split key (taken ++ [k]) xs
      return (x :: first, again)

def modelKey (m : Model) : Read ClassKey :=
  ClassKey.of m.file m.name

def screenKey (s : Screen) : Read ClassKey :=
  ClassKey.of s.file s.name

def widgetKey (w : Widget) : Read ClassKey :=
  ClassKey.of w.file w.name

/-! Migrations -/

def manyModels : Nat := 20

-- How a model is moved. Its fields are copied.
def modelMigration (o : Options) (m : Model) : Read Datum := do
  if o.keepModels.truthy then
    return .record [("action", "preserve"), ("source", m.file), ("name", m.name)]
  else
    let fields ← m.fields.mapM fun f => f.toDatum.unshared
    return .record [("action", "migrate-to-drift"), ("source", m.file), ("name", m.name),
      ("fields", .list fields)]

def screenMigration (o : Options) (s : Screen) : Datum :=
  if o.keepScreens.truthy then
    .record [("action", "preserve-structure"), ("source", s.file), ("name", s.name),
      ("apply_theme", o.applyDesign)]
  else
    .record [("action", "regenerate"), ("source", s.file), ("name", s.name), ("kind", s.kind),
      ("route", s.route), ("scaffold", s.scaffold.toDatum)]

def widgetMigration (w : Widget) : Datum :=
  .record [("action", "preserve"), ("source", w.file), ("name", w.name)]

def duplicateWarning (m : Model) : Read String := do
  return "Duplicate model " ++ (← m.name.toText) ++ " in " ++ (← m.file.toText) ++ " ignored."

def emptyWarning (m : Model) : Read String := do
  return "Model " ++ (← m.name.toText) ++ " has no fields to migrate (" ++ (← m.file.toText) ++ ")."

def migrationWarnings (o : Options) (models : List Model) : Read (List String) := do
  if o.keepModels.truthy then return []
  else
    let empty ← (models.filter (·.fields.isEmpty)).mapM emptyWarning
    return empty ++ if manyModels < models.length then
        ["Migrating " ++ toString models.length
          ++ " models to Drift. This may require manual adjustments."]
      else []

def confidenceWarnings (confidence : Float) : Read (List String) := do
  if confidence < 0.7 then
    let share ← Datum.roundFloat (confidence * 100)
    return ["Low architecture confidence (" ++ toString share ++ "%). Manual review recommended."]
  else return []

/-! The plan -/

def themeFiles : List String :=
  ["lib/theme/app_theme.dart", "lib/theme/design_tokens.dart"]

def stateFiles (state : Datum) : List String :=
  if state.same "bloc" then ["lib/blocs/app_bloc.dart"] else ["lib/providers/app_providers.dart"]

def filesFor (folder : String) (names : List Datum) : Read (List Datum) :=
  names.mapM fun n => do return .text ("lib/" ++ folder ++ "/" ++ (← Column.snakeOf n) ++ ".dart")

def generation (o : Options) (state : Datum) (models : List Model) (screens : List Screen) :
    Read Dict := do
  let modelFiles ←
    if o.keepModels.truthy then pure [] else filesFor "models" (models.map (·.name))
  let screenFiles ← filesFor "screens" (screens.map (·.name))
  return [
    (.text "theme", .texts (if o.applyDesign.truthy then themeFiles else [])),
    (.text "models", .list modelFiles), (.text "screens", .list screenFiles),
    (.text "widgets", .list []), (.text "state", .texts (stateFiles state))]

def preservedFiles (o : Options) (models : List Model) (screens : List Screen)
    (widgets : List Widget) : List Datum :=
  distinct <|
    (if o.keepModels.truthy then models.map (·.file) else [])
      ++ (if o.keepScreens.truthy then screens.map (·.file) else [])
      ++ widgets.map (·.file)

def tables (o : Options) (modules : List Datum) (models : List Model) : Read (List Datum) := do
  if !o.keepModels.truthy && modules.any (Datum.same "drift") then
    return (← models.mapM Table.ofModel).map Table.toDatum
  else return []

end Refit.Plan

namespace Refit

-- The plan of a rebuild.
def Schema.ofSnapshot (s : Snapshot) (o : Options := {}) : Datum.Read Schema := do
  let (architecture, w₁) := Plan.chooseArchitecture s o.architecture
  let w₂ ← Plan.confidenceWarnings s.architecture.confidence
  let (state, w₃) ← Plan.chooseState s o.state
  let modules ← Plan.chooseModules s o
  let (models, again) ← Plan.split Plan.modelKey [] s.models
  let w₄ ← again.mapM Plan.duplicateWarning
  let (screens, _) ← Plan.split Plan.screenKey [] s.screens
  let screenKeys ← screens.mapM Plan.screenKey
  let (widgets, _) ← Plan.split Plan.widgetKey screenKeys s.widgets
  let w₅ ← Plan.migrationWarnings o models
  let migrations ← models.mapM (Plan.modelMigration o)
  let generation ← Plan.generation o state models screens
  let tables ← Plan.tables o modules models
  let definition ← Plan.definition s o architecture state modules
  return {
    definition := definition
    models := migrations
    screens := screens.map (Plan.screenMigration o)
    widgets := widgets.map Plan.widgetMigration
    generation := generation
    preserved := Plan.preservedFiles o models screens widgets
    warnings := (w₁ ++ w₂ ++ w₃ ++ w₄ ++ w₅).map .text
    tables := tables }

end Refit
