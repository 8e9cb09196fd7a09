import Refit.Json.Writer
import Refit.Rebuild.Ledger
import Refit.Yaml.Writer

/-!
The files that a project is generated with: those of every project, and those of each module.
-/

namespace Refit

-- Files by their path, in the order in which the paths came up.
abbrev Files := List (String × String)

namespace Files

def put : Files → String → String → Files
  | [], p, c => [(p, c)]
  | (q, d) :: r, p, c => if q == p then (q, c) :: r else (q, d) :: put r p c

-- The later files win.
def putAll (fs gs : Files) : Files :=
  gs.foldl (fun fs g => fs.put g.1 g.2) fs

end Files

namespace Output

open Datum (Read)

-- A text of lines, each ended.
def source (lines : List String) : String :=
  "".joining (lines.map (· ++ "\n"))

def texts (entries : List (String × String)) : Dict :=
  entries.map fun e => (.text e.1, .text e.2)

def baseDependencies : Dict :=
  texts [("go_router", "^14.0.0"), ("equatable", "^2.0.5"), ("json_annotation", "^4.9.0")]

def stateDependencies : Dict :=
  [(.text "riverpod", .dict (texts [("flutter_riverpod", "^2.4.0"),
      ("riverpod_annotation", "^2.3.0")])),
    (.text "bloc", .dict (texts [("flutter_bloc", "^8.1.3"), ("bloc", "^8.1.2")]))]

def moduleDependencies : Dict :=
  [(.text "drift", .dict (texts [("drift", "^2.14.0"), ("sqlite3_flutter_libs", "^0.5.0"),
      ("path_provider", "^2.1.1"), ("path", "^1.8.3")])),
    (.text "api", .dict (texts [("dio", "^5.4.0")]))]

-- The packages that a table lists for a value.
def listed (table : Dict) (d : Datum) : Read Dict := do
  match Dict.at? table (← d.asKey) with
  | some (.dict es) => return es
  | _ => return []

def sdk : Datum :=
  .record [("sdk", "flutter")]

def dependencies (state : Datum) (modules : List Datum) : Read Dict := do
  let forState ← listed stateDependencies state
  let forModules ← modules.mapM (listed moduleDependencies)
  return (forState :: forModules).foldl Dict.putAll
    (Dict.putAll [(.text "flutter", sdk)] baseDependencies)

def defaultDescription : String :=
  "A rebuilt Flutter application."

-- The manifest of the new project.
def manifest (name description state : Datum) (modules : List Datum) : Read Datum := do
  let packages ← dependencies state modules
  let tools := [("flutter_test", sdk), ("flutter_lints", .text "^3.0.0"),
    ("build_runner", .text "^2.4.6")]
  let tools := if modules.any (Datum.same "drift") then
      tools ++ [("drift_dev", .text "^2.14.0")]
    else tools
  return .record [("name", name), ("description", description), ("version", "1.0.0+1"),
    ("environment", .record [("sdk", ">=3.0.0 <4.0.0")]), ("dependencies", .dict packages),
    ("dev_dependencies", .record tools),
    ("flutter", .record [("uses_material_design", .bool true)])]

def analysisOptions : String :=
  source [
    "include: package:flutter_lints/flutter.yaml",
    "",
    "linter:",
    "  rules:",
    "    - prefer_const_constructors",
    "    - prefer_const_literals_to_create_immutables",
    "    - prefer_final_fields",
    "    - avoid_print",
    "    - prefer_single_quotes"]

def readme (name description architecture state : Datum) (modules : List Datum) : Read String := do
  let listed ← modules.mapM fun m => return "- " ++ (← m.toText)
  return source ([
    "# " ++ (← name.toText),
    "",
    ← description.toText,
    "",
    "## Architecture",
    "",
    "- **Pattern**: " ++ (← architecture.toText),
    "- **State Management**: " ++ (← state.toText),
    "",
    "## Modules",
    ""] ++ if listed.isEmpty then ["- None"] else listed)

def welcome : String :=
  "Welcome to your rebuilt Flutter app!"

def mainSource (name : String) (withRiverpod : Bool) : String :=
  let app := if withRiverpod then "const ProviderScope(child: MyApp())" else "const MyApp()"
  source (["import 'package:flutter/material.dart';"]
    ++ (if withRiverpod then ["import 'package:flutter_riverpod/flutter_riverpod.dart';"] else [])
    ++ [
    "",
    "void main() \x7b",
    "  runApp(" ++ app ++ ");",
    "\x7d",
    "",
    "class MyApp extends StatelessWidget \x7b",
    "  const MyApp(\x7bsuper.key\x7d);",
    "",
    "  @override",
    "  Widget build(BuildContext context) \x7b",
    "    return MaterialApp(",
    "      title: '" ++ name ++ "',",
    "      home: const Scaffold(",
    "        body: Center(child: Text('" ++ welcome ++ "')),",
    "      ),",
    "    );",
    "  \x7d",
    "\x7d"])

-- The files of every project.
def core (p : ProjectRecord) : Except Stop Files := do
  let d := p.definition
  let name := Ledger.nameOf d
  let state := Dict.get d "state_management" "riverpod"
  let description := (Dict.get d "description").orElse (.text defaultDescription)
  let read {α : Type} (r : Read α) : Except Stop α := r.mapError .fault
  let modules ← read do (← (Dict.get d "modules" (.list [])).items).mapM (·.field "id")
  let manifest ← read (manifest name description state modules)
  let architecture := Dict.get d "architecture" "layer-first"
  let readme ← read (readme name description architecture state modules)
  return [
    ("pubspec.yaml", ← read (Yaml.write manifest)),
    ("analysis_options.yaml", analysisOptions),
    ("README.md", readme),
    ("lib/main.dart", mainSource (← read name.toText) (state.same "riverpod"))]

/-! Modules -/

def namesOf (config : Dict) (key : String) : Read String := do
  let names ← (← (config.get key (.list [])).items).mapM (·.field "name")
  let s ← Datum.joinTexts ", " names
  return if s.isEmpty then "none" else s

def database (config : Dict) : Read String := do
  return source [
    "import 'package:drift/drift.dart';",
    "",
    "// Tables: " ++ (← namesOf config "tables"),
    "class AppDatabase \x7b\x7d"]

def webManifest (config : Dict) : Read String := do
  return (← Json.write (config.get "manifest" (.dict []))) ++ "\n"

def theme (config : Dict) : Read String := do
  let theme ← (config.get "theme" (.dict [])).asDict
  let color ← (Dict.get theme "primary_color" "#6366F1").asText "lstrip"
  return source [
    "import 'package:flutter/material.dart';",
    "",
    "class AppTheme \x7b",
    "  static ThemeData get lightTheme => ThemeData(",
    "    colorScheme: ColorScheme.fromSeed(seedColor: const Color(0xFF"
      ++ color.withoutLeading (· == '#') ++ ")),",
    "    useMaterial3: true,",
    "  );",
    "\x7d"]

def client (config : Dict) : Read String := do
  let base ← (config.get "base_url" "").toText
  return source [
    "import 'package:dio/dio.dart';",
    "",
    "class ApiClient \x7b",
    "  final Dio dio = Dio(BaseOptions(baseUrl: '" ++ base ++ "'));",
    "\x7d"]

def blocs (config : Dict) : Read String := do
  return source [
    "import 'package:flutter_bloc/flutter_bloc.dart';",
    "",
    "// Blocs: " ++ (← namesOf config "blocs")]

def providers (config : Dict) : Read String := do
  return source [
    "import 'package:flutter_riverpod/flutter_riverpod.dart';",
    "",
    "// Providers: " ++ (← namesOf config "providers"),
    "final appStateProvider = StateProvider<int>((ref) => 0);"]

-- The source file of a module, if it has one.
def sourceOf (module : Datum) (config : Dict) : Read Files := do
  match module with
  | .text "drift" => return [("lib/database/app_database.dart", ← database config)]
  | .text "pwa" => return [("web/manifest.json", ← webManifest config)]
  | .text "design" => return [("lib/theme/app_theme.dart", ← theme config)]
  | .text "api" => return [("lib/services/api_client.dart", ← client config)]
  | .text "state" =>
    if (config.get "type").same "bloc" then return [("lib/blocs/app_bloc.dart", ← blocs config)]
    else return [("lib/providers/app_providers.dart", ← providers config)]
  | _ => return []

-- The configuration of a module as a document of its own.
def configFile (module : Datum) (config : Dict) : Read String :=
  Yaml.write (.record [("module", module), ("config", .dict config)])

-- The files of a module.
def module (module : Datum) (config : Dict) : Read Files := do
  let file := ("config/modules/" ++ (← module.toText) ++ ".yaml", ← configFile module config)
  return file :: (← sourceOf module config)

-- The files of a project or, if one is named, of a module of it.
def generate (l : Ledger) (id : Datum) (which : Option Datum) : Except Stop Files := do
  let p ← l.find id
  match which with
  | none => core p
  | some m =>
    let m ← m.asKey.mapError .fault
    match p.config? m with
    | none => .error (.notConfigured m id)
    | some config =>
      (module m (config.map fun e => (e.1, l.current e.2))).mapError .fault

end Output

end Refit
