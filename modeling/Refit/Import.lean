import Refit.Config.Resolve
import Refit.Plan.Preserved
import Refit.Plan.Synthesis
import Refit.Project.InFolder
import Refit.Rebuild.Run
import Refit.Source.Clone

/-!
Importing a project: it is fetched, analysed, planned anew and rebuilt.

What goes wrong on the way to the rebuild is part of the result. A clone is removed whatever
happens.
-/

namespace Refit

-- The switches of a rebuild that the configuration gives.
def Config.Resolved.settings (r : Config.Resolved) : Settings :=
  let isOn (key : String) : Bool := (r.get ("rebuild." ++ key) (.bool false)).truthy
  ⟨isOn "run_flutter_create", isOn "format_code", isOn "generate_tests"⟩

structure ImportResult where
  success : Bool
  source : String
  name : Datum := ""
  analysis : Option Snapshot := none
  schema : Option Schema := none
  rebuild : Option RebuildResult := none
  error : Datum := .null

namespace ImportResult

def toDatum (r : ImportResult) : Datum :=
  .record [("success", .bool r.success), ("source", .text r.source), ("project_name", r.name),
    ("analysis", .ofOption Snapshot.toDatum r.analysis),
    ("schema", .ofOption Schema.toDatum r.schema),
    ("rebuild", .ofOption RebuildResult.toDatum r.rebuild), ("error", r.error)]

def failed (source message : String) (name : String := "") : ImportResult :=
  { success := false, source := source, name := .text name, error := .text message }

def done (source : String) (s : Snapshot) (schema : Schema) (r : RebuildResult) : ImportResult :=
  ⟨r.success, source, s.name, some s, some schema, some r, r.error⟩

end ImportResult

-- What an import is asked for. What is not given is taken from the configuration.
structure Import where
  out : String
  options : Options := {}
  branch : Datum := .null
  cloneDepth : Datum := .null
  depth : Datum := .null
  keepCode : Bool := true
  settings : Option Settings := none

namespace Import

variable {σ α : Type}

-- The result of a job that may fail for a reason of this library's own.
def orFailed (j : Job σ ImportResult) (failed : String → ImportResult) : Job σ ImportResult := do
  match ← j.outcome with
  | .ok r => return r
  | .error (.failure f) => return failed f.message
  | .error s => throw s

-- Does a job, and an action after it whatever its result is.
def andThen (j : Job σ α) (after : Action Unit) : Job σ α := do
  let r ← j.outcome
  Job.ofAction after
  Job.ofExcept r

def settingsOf (i : Import) : Action Settings :=
  match i.settings with
  | some s => return s
  | none => return (← Config.current).settings

def depthOf (i : Import) : Action Datum := do
  if i.depth.truthy then return i.depth
  else return (← Config.current).get "analysis.depth" "deep"

-- The plan for an analysed project, the files that it keeps, and the settings of its rebuild.
def plan (i : Import) (s : Snapshot) (files : Action (List SourceFile)) :
    Action (Schema × Groups × Settings) := do
  let schema ← Action.ofRead (Schema.ofSnapshot s i.options)
  let kept ← if i.keepCode then do Action.ofRead (schema.keptFiles (← files)) else pure []
  return (schema, kept, ← i.settingsOf)

/-! Importing with given workers -/

section

variable (engine : Option (Engine σ)) (caller : Option (Caller σ))

-- Plans and rebuilds an analysed project.
def rebuildBy (i : Import) (source : String) (s : Snapshot) (files : Action (List SourceFile)) :
    Job σ ImportResult := do
  let (schema, kept, settings) ← Job.ofAction (i.plan s files)
  return .done source s schema (← Rebuild.perform engine caller schema settings i.out kept)

-- Imports the project in a clone.
def cloneBy (i : Import) (url : String) (c : Clone) : Job σ ImportResult :=
  let root := Location.ofText c.path
  let imported : Job σ ImportResult := do
    let s ← Job.ofAction do Analysis.inFolder root (← i.depthOf)
    i.rebuildBy engine caller url s (SourceTree.read root)
  andThen (orFailed imported fun m => .failed url m c.name) (Clone.remove c.path)

-- Clones the repository of a project.
def fetch (i : Import) (url : String) : Action Clone := do
  let config ← Config.current
  let branch := i.branch.orElse (config.get "clone.branch" "main")
  let depth := i.cloneDepth.orElse (config.get "clone.depth" (.int 1))
  let timeout := config.get "clone.timeout" (.int Clone.defaultTimeout)
  Clone.make url branch depth timeout

-- Imports a project from its repository.
def repositoryBy (i : Import) (url : String) : Job σ ImportResult := do
  let c ← Job.ofAction (i.fetch url)
  match c.error with
  | some e => return .failed url ("Clone failed: " ++ e)
  | none => i.cloneBy engine caller url c

-- The analysis of an export.
def analyseExport (i : Import) (path : String) : Action (Export × Snapshot) := do
  let e ← Export.inFile (.ofText path)
  let s ← Action.ofExcept (Analysis.ofFiles e.files e.projectName (← i.depthOf))
  return (e, s)

-- Imports a project from an export.
def exportedBy (i : Import) (path : String) : Job σ ImportResult := do
  match ← (Job.ofAction (i.analyseExport path)).outcome with
  | .ok (e, s) => i.rebuildBy engine caller path s (return e.dartFiles)
  | .error (.failure f) => return .failed path f.message
  | .error s => throw s

end

/-! Importing with the engine that keeps its projects in a ledger -/

def repository (i : Import) (url : String) : Action ImportResult :=
  (i.repositoryBy (some .ledger) (some .ledger) url).startingAt {}

def exported (i : Import) (path : String) : Action ImportResult :=
  (i.exportedBy (some .ledger) (some .ledger) path).startingAt {}

end Import

end Refit
