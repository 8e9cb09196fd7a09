import Refit.Plan.Call
import Refit.Plan.Preserved
import Refit.Plan.Table
import Refit.Rebuild.Placeholder
import Refit.Rebuild.Result
import Refit.Session.Basic

/-!
Carrying out a plan.

The project is entered, its modules are configured one by one, its files are generated and written,
the kept sources are copied over them, and programs finish it. A module that fails costs a warning,
and so does a file that cannot be written. Nothing is done where a worker is missing or the output
folder cannot be made.
-/

namespace Refit

structure Settings where
  createsFlutter : Bool := false
  formats : Bool := false
  tests : Bool := false
  deriving DecidableEq, Repr, Inhabited

-- What is done with the projects under way; their state is `σ`.
abbrev Work (σ : Type) := ExceptT Stop (StateM σ)

-- An action among work.
abbrev Job (σ : Type) := ExceptT Stop (StateT σ (StateM Session))

-- Where projects are entered, configured and generated.
structure Engine (σ : Type) where
  create : Dict → Work σ Datum
  apply : Datum → Datum → Dict → Work σ Unit
  generate : Datum → Option Datum → Work σ Files
  -- A value of the plan as it is by now, for configurations hold lists of it and change them.
  current : σ → Datum → Datum

-- What calls the tools.
abbrev Caller (σ : Type) := ToolCall → Work σ Datum

namespace Work

variable {σ α : Type}

-- The result of work, whatever stops it.
def outcome (w : Work σ α) : Work σ (Except Stop α) :=
  ExceptT.mk do return .ok (← ExceptT.run w)

def ofRead (r : Datum.Read α) : Work σ α :=
  ExceptT.mk (return r.mapError .fault)

end Work

namespace Job

variable {σ α : Type}

def ofAction (a : Action α) : Job σ α :=
  ExceptT.mk (StateT.lift (ExceptT.run a))

def ofWork (w : Work σ α) : Job σ α :=
  ExceptT.mk fun state => return (ExceptT.run w).run state

def ofExcept (r : Except Stop α) : Job σ α :=
  ExceptT.mk (return r)

-- The result of a job, whatever stops it.
def outcome (j : Job σ α) : Job σ (Except Stop α) :=
  ExceptT.mk do return .ok (← ExceptT.run j)

-- A job done from a state of the work, which is forgotten afterwards.
def startingAt (state : σ) (j : Job σ α) : Action α :=
  ExceptT.mk do
    let (r, _) ← (ExceptT.run j).run state
    return r

end Job

namespace Engine

-- The engine that keeps its projects in a ledger.
def ledger : Engine Ledger where
  create d := ExceptT.mk fun l =>
    let (r, l) := l.create (.dict d)
    (r.map .text, l)
  apply id m config := ExceptT.mk fun l => l.apply id m (.dict config)
  generate id m := ExceptT.mk fun l => (Output.generate l id m, l)
  current := Ledger.current

end Engine

-- The caller of the tools that configure the projects of a ledger.
def Caller.ledger : Caller Ledger :=
  fun c => ExceptT.mk fun l => Tool.call c l

namespace Rebuild

open Datum (Read)

variable {σ : Type}

/-! Configuration -/

-- What a tool answered where it did not succeed.
def refusal? (c : ToolCall) (answer : Datum) : Read (Option String) := do
  let refused (d : Datum) : Read (Option String) := do
    return some ((← c.tool.toText) ++ ": " ++ (← (d.orElse "unknown error").toText))
  match answer.entries? with
  | some es =>
    if (Dict.get es "success").truthy then return none else refused (Dict.get es "error")
  | none => refused answer

-- Makes the calls in turn, up to the first that does not succeed.
def makeCalls (caller : Caller σ) : List ToolCall → Work σ (Option String)
  | [] => return none
  | c :: cs => do
    match ← Work.ofRead (refusal? c (← caller c)) with
    | some e => return some e
    | none => makeCalls caller cs

-- Configures one module, and tells what was refused.
def configureOne (engine : Engine σ) (caller : Caller σ) (s : Schema) (entries : Dict)
    (project module : Datum) : Work σ (Option String) := do
  let calls ← Work.ofRead ((s.map (engine.current (← get))).calls project module)
  match ← makeCalls caller calls with
  | some e => return some e
  | none =>
    let entry := engine.current (← get) ((Dict.at? entries module).getD (.dict []))
    let config ← Work.ofRead do
      ((Dict.get (← entry.asDict) "config").orElse (.dict [])).toDict
    engine.apply project module config
    return none

-- The warning about a module with which a step failed.
def moduleWarning (module : Datum) (step reason : String) : Read String := do
  return "Module '" ++ (← module.toText) ++ "' " ++ step ++ " failed: " ++ reason

def notConfigured (module : Datum) (r : Except Stop (Option String)) : Read (Option String) :=
  match r with
  | .ok none => return none
  | .ok (some e) => moduleWarning module "configuration" e
  | .error e => moduleWarning module "configuration" e.message

-- Configures modules in turn. The ones that are configured, and the warnings about the others.
def configure (engine : Engine σ) (caller : Caller σ) (s : Schema) (entries : Dict)
    (project : Datum) : List Datum → Work σ (List Datum × List String)
  | [] => return ([], [])
  | m :: ms => do
    let r ← (configureOne engine caller s entries project m).outcome
    let warning ← Work.ofRead (notConfigured m r)
    let (done, warnings) ← configure engine caller s entries project ms
    match warning with
    | none => return (m :: done, warnings)
    | some w => return (done, w :: warnings)

-- The entries of the modules by their names.
def entriesOf (s : Schema) : Read Dict := do
  let named ← (← s.modules).mapM fun m => do
    let id ← (← m.field "id").asKey
    return (id, m)
  return Dict.putAll [] named

/-! Generation -/

-- The files of configured modules over those given, how many modules had files, and warnings.
def generateModules (engine : Engine σ) (project : Datum) :
    List Datum → Files → Work σ (Files × Nat × List String)
  | [], files => return (files, 0, [])
  | m :: ms, files => do
    match ← (engine.generate project (some m)).outcome with
    | .ok own =>
      let (files, n, warnings) ← generateModules engine project ms (files.putAll own)
      return (files, n + 1, warnings)
    | .error e =>
      let warning ← Work.ofRead (moduleWarning m "generation" e.message)
      let (files, n, warnings) ← generateModules engine project ms files
      return (files, n, warning :: warnings)

-- The files of a project and its configured modules, the later ones winning.
def generate (engine : Engine σ) (project : Datum) (configured : List Datum) :
    Work σ (Files × Nat × List String) := do
  match ← (engine.generate project none).outcome with
  | .ok core => generateModules engine project configured (Files.putAll [] core)
  | .error e =>
    let (files, n, warnings) ← generateModules engine project configured []
    return (files, n, ("Core file generation failed: " ++ e.message) :: warnings)

-- The stand-ins for the classes of one kind, in the folder of their kind.
def standIns (folder : String) (source : Datum → Read String) (migrations : List Datum) :
    Read Files :=
  migrations.mapM fun m => do
    let content ← source m
    let name ← Column.snakeOf (← m.field "name")
    return ("lib/" ++ folder ++ "/" ++ name ++ ".dart", content)

-- The files that are not the engine's: stand-ins where no sources of a kind were handed over, and
-- the first test.
def extras (s : Schema) (settings : Settings) (kept : Groups) : Read Files := do
  let models ←
    if (kept.get "models").isEmpty then standIns "models" Placeholder.model s.models else pure []
  let screens ←
    if (kept.get "screens").isEmpty then standIns "screens" Placeholder.screen s.screens
    else pure []
  let test ←
    if settings.tests then do
      pure [("test/widget_test.dart", ← Placeholder.smokeTest s.name)]
    else pure []
  return models ++ screens ++ test

/-! Writing -/

-- Whether storing a file succeeds. What the disk refuses becomes a warning.
def tryStore (cwd : List String) (target : Location) (content : String)
    (warning : String → String) : Disk.Change (Option String) := do
  try
    Disk.store cwd target content
    return none
  catch e =>
    match e with
    | .file _ => return some (warning e.message)
    | e => throw e

def isInside (cwd : List String) (out target : Location) : Bool :=
  (out.resolved cwd).isPrefixOf (target.resolved cwd)

-- Writes generated files below the output folder: how many there are, and the warnings.
def writeFiles (cwd : List String) (out : Location) : Files → Disk.Change (Nat × List String)
  | [] => return (0, [])
  | (path, content) :: files => do
    let target := out ++ .ofText path
    if target.text.toList.contains '\x00' then throw .nullInPath
    let warning ←
      if isInside cwd out target then
        tryStore cwd target content fun e => "Could not write " ++ path ++ ": " ++ e
      else pure (some ("Skipped generated file outside output directory: " ++ path))
    let (n, warnings) ← writeFiles cwd out files
    match warning with
    | none => return (n + 1, warnings)
    | some w => return (n, w :: warnings)

-- Copies the kept files of one category.
def copyCategory (cwd : List String) (out : Location) (category : String) :
    List SourceFile → Disk.Change (Nat × List String)
  | [] => return (0, [])
  | f :: fs => do
    let target := out ++ .ofText (Category.target category f.path)
    let warning ← tryStore cwd target f.content fun e => "Could not copy " ++ f.path ++ ": " ++ e
    let (n, warnings) ← copyCategory cwd out category fs
    match warning with
    | none => return (n + 1, warnings)
    | some w => return (n, w :: warnings)

-- Copies the kept files over the generated ones, the last one at a path winning.
def copyKept (cwd : List String) (out : Location) : Groups → Disk.Change (Nat × List String)
  | [] => return (0, [])
  | (category, fs) :: kept => do
    let (n, warnings) ← copyCategory cwd out category fs
    let (n', warnings') ← copyKept cwd out kept
    return (n + n', warnings ++ warnings')

/-! Finishing -/

def finishLimit : Int := 600

-- The programs that finish a project, each with a name for it.
def finishing (settings : Settings) : List (List String × String) :=
  (if settings.createsFlutter then
      [(["flutter", "create", ".", "--platforms=web,android,ios"], "flutter create")]
    else [])
    ++ if settings.formats then [(["dart", "format", "."], "dart format")] else []

def finishWarning (label detail : String) : String :=
  label ++ " failed" ++ detail ++ ". You may need to run it manually."

def finishOne (out : Location) (words : List String) (label : String) : Action (Option String) := do
  let command : Command := ⟨words.map .text, some out, .int finishLimit⟩
  match ← Action.run command with
  | .ended status _ _ _ =>
    return if status == 0 then none else some (finishWarning label "")
  | .late => return some (finishWarning label (" (" ++ command.lateMessage ++ ")"))
  | .absent => return some (finishWarning label (" (" ++ command.absentMessage ++ ")"))

def finish (out : Location) (settings : Settings) : Action (List String) := do
  return (← (finishing settings).mapM fun (words, label) => finishOne out words label).reduceOption

def nextSteps (out : Location) (settings : Settings) (configured : List Datum) : List String :=
  ["cd " ++ out.text,
      if settings.createsFlutter then "flutter pub get"
      else "flutter create . && flutter pub get"]
    ++ (if configured.any (Datum.same "drift") then
        ["dart run build_runner build --delete-conflicting-outputs"]
      else [])
    ++ ["flutter run -d chrome"]

/-! The whole -/

def trouble (message : String) (out : Location) : Stop :=
  .failure (.rebuild message (.text out.text) "")

-- Stops unless all workers are there that the modules of a plan need.
def checkWorkers (engine : Option (Engine σ)) (caller : Option (Caller σ)) (modules : List Datum)
    (out : Location) : Except Stop (Engine σ × Caller σ) := do
  match engine with
  | none => throw (trouble "No project engine configured" out)
  | some e =>
    let needing := modules.filter Schema.needsTools
    match caller with
    | some c => return (e, c)
    | none =>
      if needing.isEmpty then return (e, fun _ => return .null)
      else
        throw (trouble ("Modules " ++ ", ".joining (needing.map Datum.shown)
          ++ " need a tool caller but none was provided") out)

def makeOutput (out : Location) : Action Unit := do
  try Action.change fun cwd => Disk.makeFolders cwd out
  catch e =>
    match e with
    | .file _ =>
      throw (trouble ("Cannot create output directory " ++ out.text ++ ": " ++ e.message) out)
    | e => throw e

-- A project that cannot be entered.
def creationTrouble (out : Location) (e : Stop) : Stop :=
  match e with
  | .failure f => .failure f
  | e => trouble ("Project creation failed: " ++ e.message) out

-- What the workers make of a plan: the project, the configured modules, the files, the number of
-- modules with files, and the warnings.
structure Product where
  project : Datum
  configured : List Datum
  files : Files
  installed : Nat
  warnings : List String

def produce (engine : Engine σ) (caller : Caller σ) (s : Schema) (settings : Settings)
    (kept : Groups) (modules : List Datum) (out : Location) : Work σ Product := do
  let project ← ExceptT.mk do
    return (← (engine.create s.definition).run).mapError (creationTrouble out)
  let entries ← Work.ofRead (entriesOf s)
  let (configured, warnings) ← configure engine caller s entries project modules
  let (files, installed, warnings') ← generate engine project configured
  let extra ← Work.ofRead (extras (s.map (engine.current (← get))) settings kept)
  return ⟨project, configured, files.putAll extra, installed, warnings ++ warnings'⟩

-- Makes the files of a plan and writes them into the output folder, which is there.
def fill (engine : Engine σ) (caller : Caller σ) (s : Schema) (settings : Settings)
    (out : Location) (kept : Groups) (modules : List Datum) : Job σ RebuildResult := do
  let p ← Job.ofWork (produce engine caller s.numbered settings kept modules out)
  let (written, warnings) ← Job.ofAction (Action.change fun cwd => writeFiles cwd out p.files)
  let (copied, warnings') ← Job.ofAction (Action.change fun cwd => copyKept cwd out kept)
  let warnings'' ← Job.ofAction (finish out settings)
  return {
    success := true
    output := .text out.text
    projectId := p.project
    generated := written
    copied := copied
    installed := p.installed
    warnings := s.warnings
      ++ (p.warnings ++ warnings ++ warnings' ++ warnings'').map .text
    nextSteps := (nextSteps out settings p.configured).map .text }

-- Carries out a plan.
def execute (engine : Option (Engine σ)) (caller : Option (Caller σ)) (s : Schema)
    (settings : Settings) (out : Location) (kept : Groups) : Job σ RebuildResult := do
  let modules ← Job.ofExcept (s.moduleIds.mapError .fault)
  let (engine, caller) ← Job.ofExcept (checkWorkers engine caller modules out)
  Job.ofAction (makeOutput out)
  fill engine caller s settings out kept modules

-- Carries out a plan; a failure is reported in the result.
def perform (engine : Option (Engine σ)) (caller : Option (Caller σ)) (s : Schema)
    (settings : Settings) (out : String) (kept : Groups) : Job σ RebuildResult := do
  match ← (execute engine caller s settings (.ofText out) kept).outcome with
  | .ok r => return r
  | .error (.failure f) =>
    return { success := false, output := .text out, warnings := s.warnings,
             error := .text f.message }
  | .error e => throw e

-- Carries out a plan with the engine that keeps its projects in a ledger.
def standard (s : Schema) (settings : Settings) (out : String) (kept : Groups) :
    Action RebuildResult :=
  (perform (some .ledger) (some .ledger) s settings out kept).startingAt {}

end Rebuild

end Refit
