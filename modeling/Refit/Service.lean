import Refit.Import

/-!
The tools that the program offers to other programs.

A tool answers with a mapping whose `status` tells whether it succeeded.
-/

namespace Refit

-- The tools, each with its arguments.
inductive ToolRequest where
  | clone (url branch depth : Datum)
  | analyse (path depth : Datum)
  | models (path : Datum)
  | screens (path : Datum)
  | plan (analysis : Datum) (options : Options)
  | rebuild (schema output : Datum) (source : Datum)
  | importRepository (url output branch : Datum) (keepCode : Bool) (options : Options)
  | importExport (file output : Datum) (keepCode : Bool) (options : Options)

namespace ToolRequest

def ok (fields : List (String × Datum)) : Datum :=
  .record (("status", .text "ok") :: fields)

def failed (message : Datum) (fields : List (String × Datum) := []) : Datum :=
  .record (("status", .text "error") :: ("error", message) :: fields)

-- A value that has to be a path.
def pathOf (d : Datum) : Action String :=
  match d with
  | .text s => return s
  | d => throw (.fault (.mismatch ("expected str, bytes or os.PathLike object, not " ++ d.kind)))

def addressOf (d : Datum) : Action String :=
  Action.ofRead (d.asText "rstrip")

def notFolder (path : String) : Datum :=
  failed (.text ("Not a directory: " ++ path))

-- Whether an analysis that stops is answered with the reason: where the project is unfit, and
-- where a value or a text in it is.
def isAnswered : Stop → Bool
  | .failure _ | .undecodable _ | .nullInPath | .badVariable _ => true
  | .fault f => f.class == .value || f.class == .text
  | _ => false

def analyseProject (path : String) (depth : Datum) : Action Datum := do
  let analysed : Action Datum := do
    let s ← Analysis.inFolder (.ofText path) depth
    return ok [("analysis", ← Action.ofRead s.toDatum.unshared)]
  match ← analysed.outcome with
  | .ok d => return d
  | .error e => if isAnswered e then return failed (.text e.message) else throw e

-- Answers with a list that is found in a folder.
def listed (path : String) (key : String) (find : Location → Action (List Datum)) :
    Action Datum := do
  let l := Location.ofText path
  if ← Action.isFolder l then
    let ds ← find l
    return ok [("count", .int ds.length), (key, .list ds)]
  else return notFolder path

-- The faults that make an analysis unfit to plan from.
def isUnfit (f : Fault) : Bool :=
  match f.class with
  | .key | .kind | .value | .text => true
  | _ => false

def planRebuild (analysis : Datum) (o : Options) : Datum.Read Datum :=
  match Snapshot.ofDatum analysis with
  | .ok s => do return ok [("schema", ← (← Schema.ofSnapshot s o).toDatum.unshared)]
  | .error f =>
    if isUnfit f then .ok (failed (.text ("Invalid analysis: " ++ f.message))) else .error f

def rebuilt (r : RebuildResult) : Datum :=
  if r.success then ok [("result", r.toDatum)] else failed r.error [("result", r.toDatum)]

def rebuildWith (s : Schema) (output : Datum) (kept : Groups) : Action Datum := do
  let settings := (← Config.current).settings
  return rebuilt (← Rebuild.standard s settings (← pathOf output) kept)

def rebuildProject (schema output source : Datum) : Action Datum := do
  let s ← Action.ofRead (Schema.ofDatum schema)
  if !source.truthy then rebuildWith s output []
  else
    let path ← pathOf source
    if ← Action.isFolder (.ofText path) then
      let files ← SourceTree.read (.ofText path)
      rebuildWith s output (← Action.ofRead (s.keptFiles files))
    else return notFolder path

def imported (r : ImportResult) : Datum.Read Datum := do
  if r.success then return ok [("result", ← r.toDatum.unshared)] else return failed r.error

def answer : ToolRequest → Action Datum
  | clone url branch depth => do
    let timeout := (← Config.current).get "clone.timeout" (.int Clone.defaultTimeout)
    let c ← Clone.make (← addressOf url) branch depth timeout
    match c.error with
    | some e => return failed (.text e)
    | none => return ok [("clone", c.toDatum), ("size", .text (Clone.sizeText c.size))]
  | analyse path depth => do
    analyseProject (← pathOf path) depth
  | models path => do
    listed (← pathOf path) "models" fun l => return (← Model.inFolder l).map Model.toDatum
  | screens path => do
    listed (← pathOf path) "screens" fun l => return (← Screen.inFolder l).map Screen.toDatum
  | plan analysis o => Action.ofRead (planRebuild analysis o)
  | rebuild schema output source => rebuildProject schema output source
  | importRepository url output branch keepCode o => do
    let i : Import :=
      { out := ← pathOf output, options := o, branch := branch, keepCode := keepCode }
    Action.ofRead (imported (← i.repository (← addressOf url)))
  | importExport file output keepCode o => do
    let i : Import := { out := ← pathOf output, options := o, keepCode := keepCode }
    Action.ofRead (imported (← i.exported (← pathOf file)))

/-! Reading a request -/

-- The arguments of a tool by name.
structure Form where
  name : String
  required : List String
  optional : List (String × Datum) := []

def optionFields : List (String × Datum) :=
  [("keep_models", .bool true), ("keep_screen_structure", .bool true), ("apply_design", .bool true),
    ("add_offline_support", .bool true), ("target_architecture", "keep"),
    ("target_state_management", "keep")]

def forms : List Form :=
  [⟨"replant_clone_repository", ["url"], [("branch", "main"), ("depth", .int 1)]⟩,
    ⟨"replant_analyze_project", ["project_path"], [("depth", "deep")]⟩,
    ⟨"replant_extract_models", ["project_path"], []⟩,
    ⟨"replant_extract_screens", ["project_path"], []⟩,
    ⟨"replant_create_rebuild_schema", ["analysis"], optionFields⟩,
    ⟨"replant_rebuild_project", ["schema", "output_path"], [("source_path", .null)]⟩,
    ⟨"replant_import_and_rebuild", ["url", "output_path"],
      ("branch", "main") :: ("keep_code", .bool true) :: optionFields⟩,
    ⟨"replant_export_import_and_rebuild", ["file_path", "output_path"],
      ("keep_code", .bool true) :: optionFields⟩]

-- Whether arguments fill a form: those it needs are there, and no others than it knows.
def Form.accepts (f : Form) (args : Dict) : Bool :=
  f.required.all args.has
    && args.all fun e =>
      match e.1 with
      | .text k => f.required.contains k || f.optional.any (·.1 == k)
      | _ => false

def optionsOf (given : String → Datum) : Options :=
  { keepModels := given "keep_models"
    keepScreens := given "keep_screen_structure"
    applyDesign := given "apply_design"
    offline := given "add_offline_support"
    architecture := given "target_architecture"
    state := given "target_state_management" }

-- The request with a name and arguments.
def ofArgs? (name : String) (args : Dict) : Option ToolRequest := do
  let f ← forms.find? (·.name == name)
  if !f.accepts args then none
  else
    let given (key : String) : Datum := args.get key ((f.optional.lookup key).getD .null)
    match name with
    | "replant_clone_repository" => some (clone (given "url") (given "branch") (given "depth"))
    | "replant_analyze_project" => some (analyse (given "project_path") (given "depth"))
    | "replant_extract_models" => some (models (given "project_path"))
    | "replant_extract_screens" => some (screens (given "project_path"))
    | "replant_create_rebuild_schema" => some (plan (given "analysis") (optionsOf given))
    | "replant_rebuild_project" =>
      some (rebuild (given "schema") (given "output_path") (given "source_path"))
    | "replant_import_and_rebuild" =>
      some (importRepository (given "url") (given "output_path") (given "branch")
        (given "keep_code").truthy (optionsOf given))
    | "replant_export_import_and_rebuild" =>
      some (importExport (given "file_path") (given "output_path") (given "keep_code").truthy
        (optionsOf given))
    | _ => none

end ToolRequest

end Refit
