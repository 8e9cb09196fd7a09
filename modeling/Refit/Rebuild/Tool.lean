import Refit.Rebuild.Ledger

/-!
The tools that configure the modules of a project.

A tool reads its arguments before it changes anything, so a call with an argument missing or of the
wrong kind changes nothing.
-/

namespace Refit

-- A call of a tool by its name.
structure ToolCall where
  tool : Datum
  args : Datum

inductive Tool where
  | addTable
  | encrypt
  | manifest
  | theme
  | client
  | provider
  | bloc
  deriving DecidableEq, Repr

namespace Tool

open Datum (Read)

def all : List Tool :=
  [addTable, encrypt, manifest, theme, client, provider, bloc]

def name : Tool → String
  | addTable => "drift_add_table"
  | encrypt => "drift_enable_encryption"
  | manifest => "pwa_configure_manifest"
  | theme => "design_generate_theme"
  | client => "api_configure_client"
  | provider => "state_create_provider"
  | bloc => "state_create_bloc"

-- The module that a tool configures.
def module : Tool → String
  | addTable | encrypt => "drift"
  | manifest => "pwa"
  | theme => "design"
  | client => "api"
  | provider | bloc => "state"

def ofName? (name : Datum) : Option Tool :=
  all.find? fun t => name.same (.text t.name)

-- Adds a value to a list of the configuration, which is empty at first.
def appendTo (key : String) (d : Datum) : Ledger.Edit := do
  let draft ← get
  match draft.config.get? key with
  | none => set { draft with config := draft.config.set key (.list [d]) }
  | some old =>
    match Datum.added draft.store old d with
    | some (new, store) => set (⟨draft.config.set key new, store⟩ : Ledger.Draft)
    | none => throw (.noMember old.kind "append")

def settings (es : Dict) : Ledger.Edit :=
  modify fun draft => { draft with config := draft.config.putAll es }

def setting (key : String) (d : Datum) : Ledger.Edit :=
  settings [(.text key, d)]

-- What a call is about to do: the change, and what it answers beside its success.
structure Work where
  edit : Ledger.Edit
  reply : List (String × Datum)

def flag (args : Dict) (key : String) (fallback : Bool) : Datum :=
  .bool (args.get key (.bool fallback)).truthy

def listArg (args : Dict) (key : String) : Read Datum :=
  return .list (← (args.get key (.list [])).items)

def work (args : Dict) : Tool → Read Work
  | addTable => do
    let name ← (Datum.dict args).field "name"
    let columns ← listArg args "columns"
    let table := Datum.record [("name", name), ("columns", columns),
      ("timestamps", flag args "timestamps" false), ("soft_delete", flag args "soft_delete" false)]
    return ⟨appendTo "tables" table, [("table", name)]⟩
  | encrypt =>
    let strategy := args.get "strategy" "stored"
    return ⟨setting "encryption" (.record [("enabled", .bool true), ("strategy", strategy)]),
      [("strategy", strategy)]⟩
  | manifest =>
    let entries := args.filter fun e => !e.1.same "project_id"
    return ⟨setting "manifest" (.dict entries), []⟩
  | theme =>
    let theme := Datum.record [("primary_color", args.get "primary_color" "#6366F1"),
      ("dark_mode", flag args "dark_mode" true), ("font_family", args.get "font_family")]
    return ⟨setting "theme" theme, []⟩
  | client => do
    let timeout ← (args.get "timeout" (.int 30)).toInt
    let entries : Dict := [(.text "client", args.get "client" "dio"),
      (.text "base_url", args.get "base_url" ""), (.text "timeout", .int timeout)]
    return ⟨settings entries, []⟩
  | provider => do
    let name ← (Datum.dict args).field "name"
    let provider := Datum.record [("name", name),
      ("state_type", args.get "state_type" "Map<String, dynamic>"),
      ("auto_dispose", flag args "auto_dispose" true)]
    return ⟨do setting "type" "riverpod"; appendTo "providers" provider, [("provider", name)]⟩
  | bloc => do
    let name ← (Datum.dict args).field "name"
    let events ← listArg args "events"
    let states ← listArg args "states"
    let bloc := Datum.record [("name", name), ("events", events), ("states", states)]
    return ⟨do setting "type" "bloc"; appendTo "blocs" bloc, [("bloc", name)]⟩

def prepare (t : Tool) (args : Dict) : Read (Work × Datum) := do
  let w ← t.work args
  return (w, ← (Datum.dict args).field "project_id")

-- Runs a tool on the projects under way.
def run (t : Tool) (args : Dict) (l : Ledger) : Except Stop Datum × Ledger :=
  match t.prepare args with
  | .error f => (.error (.fault f), l)
  | .ok (w, id) =>
    let (r, l) := l.update id (.text t.module) w.edit
    (r.map fun _ => .record (("success", .bool true) :: w.reply), l)

-- The answer where no tool has the name.
def absent (name : Datum) : Datum :=
  .record [("success", .bool false), ("error", .text ("Tool not found: " ++ name.shown))]

-- The arguments of a call as a mapping, none counting as an empty one.
def argsOf (d : Datum) : Read Dict :=
  (d.orElse (.dict [])).toDict

-- Calls a tool by its name.
def call (c : ToolCall) (l : Ledger) : Except Stop Datum × Ledger :=
  match c.tool.asKey with
  | .error f => (.error (.fault f), l)
  | .ok name =>
    match ofName? name with
    | none => (.ok (absent name), l)
    | some t =>
      match argsOf c.args with
      | .error f => (.error (.fault f), l)
      | .ok args => t.run args l

end Tool

end Refit
