import Refit.Plan.Schema
import Refit.Rebuild.Tool

/-!
The calls of tools that configure the modules of a plan.
-/

namespace Refit.Schema

open Datum (Read)

-- The modules that tools configure.
def toolModules : List String :=
  ["drift", "pwa", "design", "api", "state"]

def needsTools (module : Datum) : Bool :=
  toolModules.any fun m => module.same (.text m)

def call (tool : Tool) (project : Datum) (args : List (String × Datum)) : ToolCall :=
  ⟨.text tool.name, .record (("project_id", project) :: args)⟩

def tableCall (project table : Datum) : Read ToolCall := do
  let name ← table.field "name"
  let columns ← table.field "columns"
  let timestamps ← Record.optional table "timestamps" (.bool false)
  let softDelete ← Record.optional table "soft_delete" (.bool false)
  return call .addTable project [("name", name), ("columns", columns),
    ("timestamps", timestamps), ("soft_delete", softDelete)]

def encrypts (s : Schema) : Read Bool := do
  let offline := (Dict.get s.definition "offline").orElse (.dict [])
  let storage ← Record.orElse offline "storage" (.dict [])
  Record.flag storage "encryption"

-- The section of the definition that describes the web application.
def webSection (s : Schema) : Datum :=
  (Dict.get s.definition "pwa").orElse (.dict [])

def stateCall (s : Schema) (project : Datum) : ToolCall :=
  if (Dict.get s.definition "state_management").same "bloc" then
    call .bloc project [("name", "AppBloc"), ("events", .texts ["LoadData", "UpdateData"]),
      ("states", .texts ["Initial", "Loading", "Loaded", "Error"])]
  else
    call .provider project [("name", "appState"), ("state_type", "Map<String, dynamic>"),
      ("auto_dispose", .bool true)]

-- The calls that configure a module of a project.
def calls (s : Schema) (project module : Datum) : Read (List ToolCall) := do
  match module with
  | .text "drift" =>
    let tables ← s.tables.mapM (tableCall project)
    if ← s.encrypts then
      return tables ++ [call .encrypt project [("strategy", "stored")]]
    else return tables
  | .text "pwa" =>
    let web ← s.webSection.asMapping
    return [⟨.text Tool.manifest.name, .dict (Dict.putAll [(.text "project_id", project)] web)⟩]
  | .text "design" =>
    let color ← Record.optional s.webSection "theme_color" "#6366F1"
    return [call .theme project [("primary_color", color), ("dark_mode", .bool true)]]
  | .text "api" => return [call .client project [("client", "dio")]]
  | .text "state" => return [s.stateCall project]
  | _ => return []

end Refit.Schema
