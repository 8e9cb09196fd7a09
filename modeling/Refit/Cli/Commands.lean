import Refit.Cli.Arguments
import Refit.Disk.Opened
import Refit.Import
import Refit.Terminal.Basic
import Refit.Yaml.Library

/-!
The commands.

A command works on the session and prints to the terminal. What stops it is reported, and its exit
status is zero only if nothing did.
-/

namespace Refit

namespace Cli

-- Why a command ends early: something stopped it, or it chose an exit status.
inductive Ending where
  | stopped (s : Stop)
  | exit (status : Nat)

abbrev Talk := ExceptT Ending (StateT Terminal (StateM Session))

namespace Talk

def ofAction (a : Action α) : Talk α :=
  ExceptT.mk do return (← StateT.lift (ExceptT.run a)).mapError .stopped

def ofPrint (p : Print α) : Talk α :=
  ExceptT.mk fun t => return ((ExceptT.run p).run t).map (·.mapError .stopped) id

def ofRead (r : Datum.Read α) : Talk α :=
  ofAction (Action.ofRead r)

-- Runs a talk, and another one after it whatever its result is.
def andAlways (t : Talk α) (after : Talk Unit) : Talk α := do
  let r ← (ExceptT.mk do return .ok (← ExceptT.run t) : Talk (Except Ending α))
  after
  ExceptT.mk (return r)

-- Reports what stops a talk.
def reporting (t : Talk Unit) : Talk Unit :=
  tryCatch t fun e =>
    match e with
    | .exit n => throw (.exit n)
    | .stopped s => do
      let details := Terminal.asksForDetails ((← getThe Session).valueOf? "REPLANT_DEBUG")
      ofPrint (Terminal.report details s)
      throw (.exit 1)

end Talk

open Talk

/-! Reading arguments -/

def text (a : Dict) (key : String) : String :=
  (a.get key (.text "")).shown

def isOn (a : Dict) (key : String) (fallback : Bool := false) : Bool :=
  (a.get key (.bool fallback)).truthy

def json : Flag := ⟨"json", ["--json"], .switch true⟩

def save : Flag := ⟨"save", ["--save", "-s"], .word⟩

def showJson (a : Dict) : Talk Unit :=
  modifyThe Terminal fun t => { t with json := isOn a "json" }

def config : Talk Config.Resolved :=
  ofAction Config.current

-- What is going on is not shown, but its styles have to be readable.
def announce (activity : String) : Talk Unit :=
  match Markup.shown ("[bold cyan]" ++ activity ++ "...[/bold cyan]") with
  | .ok _ => return ()
  | .error f => throw (.stopped (.styling f))

/-! Files of results -/

section

variable (yaml : Yaml.Library)

-- Writes a result to a file.
def saveTo (d : Datum) (path : String) : Talk Unit := do
  let l := Location.ofText path
  let written := yaml.write d
  ofAction (Action.change fun cwd => Disk.store cwd l ((written.toOption).getD ""))
  let _ ← ofRead written
  if !(← getThe Terminal).json then
    ofPrint (Terminal.styled ("[green]Saved to:[/green] " ++ l.text))

def saveIfAsked (a : Dict) (d : Datum) : Talk Unit := do
  if text a "save" != "" then saveTo yaml (← ofRead d.unshared) (text a "save")

-- The mapping that a file holds.
def loadFrom (path : String) : Action Datum := do
  let p ← Action.ask fun d cwd => d.readNamed cwd path
  match yaml.read p with
  | .ok d => if d.entries?.isSome then return d else throw (.noMapping path)
  | .error (.refused r) => throw (.yaml path r)
  | .error (.fault f) => throw (.fault f)

end

/-! Analysis -/

def analyseGrammar : Grammar :=
  ⟨[⟨"depth", ["--depth", "-d"], .word⟩, json, save], [("path", some ".")], true⟩

-- The snapshot of the project that a path leads to: an export, or a folder.
def analysisAt (l : Location) (depth : Datum) : Action Snapshot := do
  if ← Action.isFile l then
    let e ← Export.inFile l
    Action.ofExcept (Analysis.ofFiles e.files e.projectName depth)
  else Analysis.inFolder l depth

def analyse (yaml : Yaml.Library) (a : Dict) : Talk Unit := do
  showJson a
  let depth ← if (a.get "depth").truthy then pure (a.get "depth")
    else pure ((← config).get "analysis.depth" "deep")
  let s ← ofAction (analysisAt (.ofText (text a "path")) depth)
  ofPrint (Terminal.analysisSummary s)
  saveIfAsked yaml a s.toDatum

def cloneGrammar : Grammar :=
  ⟨[⟨"branch", ["--branch", "-b"], .word⟩, ⟨"depth", ["--depth"], .number⟩,
      ⟨"keep", ["--keep"], .switch true⟩, ⟨"analyze", ["--analyze", "-a"], .switch true⟩],
    [("url", none)], true⟩

def showClone (c : Clone) (analysed : Bool) (depth : Datum) : Talk Unit := do
  ofPrint (Terminal.table "Clone"
    [("Repository", .text c.name), ("Branch", c.branch), ("Commit", .text (c.commit.firstChars 12)),
      ("Size", .text (Clone.sizeText c.size)), ("Path", .text c.path)])
  if analysed then
    let s ← ofAction (Analysis.inFolder (.ofText c.path) depth)
    ofPrint (Terminal.analysisSummary s)

def clone (a : Dict) : Talk Unit := do
  announce ("Cloning " ++ text a "url")
  let r ← config
  let branch := (a.get "branch").orElse (r.get "clone.branch" "main")
  let depth := (a.get "depth").orElse (r.get "clone.depth" (.int 1))
  let timeout := r.get "clone.timeout" (.int Clone.defaultTimeout)
  let c ← ofAction (Clone.make (text a "url") branch depth timeout)
  match c.error with
  | some e =>
    ofPrint (Terminal.errorPanel "Clone failed" (.text e))
    throw (.exit 1)
  | none =>
    andAlways (showClone c (isOn a "analyze") (r.get "analysis.depth" "deep"))
      (if isOn a "keep" then pure () else ofAction (Clone.remove c.path))

/-! Planning -/

def optionFlags : List Flag :=
  [⟨"migrate_models", ["--migrate-models"], .switch true⟩,
    ⟨"regenerate_screens", ["--regenerate-screens"], .switch true⟩,
    ⟨"no_design", ["--no-design"], .switch true⟩, ⟨"no_offline", ["--no-offline"], .switch true⟩,
    ⟨"architecture", ["--architecture"], .word⟩, ⟨"state", ["--state"], .word⟩,
    ⟨"encrypt", ["--encrypt"], .switch true⟩, ⟨"modules", ["--module", "-m"], .words⟩,
    ⟨"exclude", ["--exclude", "-x"], .words⟩]

-- The choices of a command line, over those of the configuration.
def choices (defaults a : Dict) : Options :=
  let choice (off key : String) : Datum :=
    .bool (!isOn a off && (defaults.get key (.bool true)).truthy)
  { keepModels := choice "migrate_models" "keep_models"
    keepScreens := choice "regenerate_screens" "keep_screen_structure"
    applyDesign := choice "no_design" "apply_design"
    offline := choice "no_offline" "add_offline_support"
    architecture := a.get "architecture" "keep"
    state := a.get "state" "keep"
    encryption := .bool (isOn a "encrypt")
    extraModules := a.get "modules" (.list [])
    excludedModules := a.get "exclude" (.list []) }

def optionsOf (a : Dict) : Talk Options := do
  return choices (← ofAction Config.rebuildDefaults) a

def planGrammar : Grammar :=
  ⟨optionFlags ++ [json, save], [("analysis_file", none)], true⟩

def planRows (s : Schema) : Datum.Read (List (Datum × Datum)) := do
  let modules ← Datum.joinTexts ", " (← s.moduleIds)
  return [("Name", s.name), ("Architecture", ← (Datum.dict s.definition).field "architecture"),
    ("State management", ← (Datum.dict s.definition).field "state_management"),
    ("Modules", .text (if modules == "" then "none" else modules)),
    ("Models", .text (toString s.models.length)), ("Screens", .text (toString s.screens.length)),
    ("Widgets", .text (toString s.widgets.length)),
    ("Preserved files", .text (toString s.preserved.length))]

def showPlan (a : Dict) (s : Schema) : Talk Unit := do
  if isOn a "json" then ofPrint (Terminal.json_ s.toDatum)
  else
    ofPrint (Terminal.table "Rebuild Schema" (← ofRead (planRows s)))
    ofPrint (Terminal.warningList s.warnings)

def plan (yaml : Yaml.Library) (a : Dict) : Talk Unit := do
  showJson a
  let analysis ← ofAction (loadFrom yaml (text a "analysis_file"))
  let snapshot ← ofRead (Snapshot.ofDatum analysis)
  let s ← ofRead (Schema.ofSnapshot snapshot (← optionsOf a))
  showPlan a s
  saveIfAsked yaml a s.toDatum

/-! Rebuilding -/

def keepCode : List Flag :=
  [⟨"keep_code", ["--keep-code"], .switch true⟩, ⟨"keep_code", ["--no-keep-code"], .switch false⟩]

def rebuildGrammar : Grammar :=
  ⟨[⟨"export", ["--export", "-e"], .word⟩, ⟨"source", ["--source"], .word⟩, json] ++ keepCode,
    [("schema_file", none), ("output", none)], true⟩

-- The sources that a rebuild keeps files of, if any are named.
def sourcesOf (a : Dict) : Action (Option (List SourceFile)) := do
  if !isOn a "keep_code" true then return none
  else if text a "export" != "" then
    return some (← Export.inFile (.ofText (text a "export"))).dartFiles
  else if text a "source" != "" then
    return some (← SourceTree.read (.ofText (text a "source")))
  else return none

-- Carries out the plan in a file.
def rebuilt (yaml : Yaml.Library) (a : Dict) : Talk RebuildResult := do
  showJson a
  let schema ← ofAction (loadFrom yaml (text a "schema_file"))
  let s ← ofRead (Schema.ofDatum schema)
  let kept ← match ← ofAction (sourcesOf a) with
    | some fs => ofRead (s.keptFiles fs)
    | none => pure []
  let settings := (← config).settings
  ofAction (Rebuild.standard s settings (text a "output") kept)

def rebuild (yaml : Yaml.Library) (a : Dict) : Talk Unit := do
  let r ← rebuilt yaml a
  ofPrint (Terminal.rebuildSummary r)
  if !r.success then throw (.exit 1)

def importGrammar (source : String) (flags : List Flag) : Grammar :=
  ⟨flags ++ [⟨"depth", ["--depth", "-d"], .word⟩] ++ optionFlags ++ keepCode ++ [json],
    [(source, none), ("output", none)], true⟩

def showImport (r : ImportResult) : Talk Unit := do
  if (← getThe Terminal).json then ofPrint (Terminal.json_ r.toDatum)
  else
    match r.rebuild with
    | none =>
      ofPrint (Terminal.errorPanel "Import failed" (r.error.orElse ""))
      throw (.exit 1)
    | some rebuilt =>
      ofPrint (r.analysis.forM Terminal.analysisSummary)
      ofPrint (Terminal.rebuildSummary rebuilt)
      if !r.success then throw (.exit 1)

def importOf (a : Dict) : Talk Import := do
  return {
    out := text a "output"
    options := ← optionsOf a
    branch := a.get "branch"
    depth := a.get "depth"
    keepCode := isOn a "keep_code" true }

def importRepository (a : Dict) : Talk Unit := do
  showJson a
  let i ← importOf a
  announce ("Importing " ++ text a "url")
  showImport (← ofAction (i.repository (text a "url")))

def importExport (a : Dict) : Talk Unit := do
  showJson a
  let i ← importOf a
  announce ("Importing " ++ text a "file")
  showImport (← ofAction (i.exported (text a "file")))

/-! Configuration -/

-- The value that a word stands for: a truth value, a whole number, or itself.
def valueOf (w : String) : Datum :=
  if ["true", "yes"].contains w.lowered then .bool true
  else if ["false", "no"].contains w.lowered then .bool false
  else
    match Datum.readInteger w with
    | .ok i => .int i
    | .error _ => .text w

def setValue (a : Dict) : Talk Unit := do
  let v := valueOf (text a "value")
  ofAction (Config.setUserValue (text a "key") v)
  ofPrint (Terminal.styled ("[green]Set[/green] " ++ text a "key" ++ " = " ++ v.shown))

def initProject (_ : Dict) : Talk Unit := do
  match ← ofAction (Config.makeProjectFile.outcome) with
  | .ok l => ofPrint (Terminal.styled ("[green]Created[/green] " ++ l.text))
  | .error (.configExists p) =>
    ofPrint (Terminal.styled ("[yellow]" ++ (Stop.configExists p).message ++ "[/yellow]"))
    throw (.exit 1)
  | .error s => throw (.stopped s)

def showPlaces (_ : Dict) : Talk Unit := do
  let places ← ofAction Config.places
  ofPrint (places.forM fun (name, l) => Terminal.styled ("[cyan]" ++ name ++ ":[/cyan] " ++ l))

def showConfig (_ : Dict) : Talk Unit := do
  let r ← ofAction Config.renew
  let place (l : Option Location) : Datum := .text ((l.map Location.text).getD "not found")
  ofPrint (Terminal.table "Config Sources"
    [("Global", place r.userFile), ("Project", place r.projectFile)])
  let sections := r.data.filterMap fun e =>
    match e.2 with
    | .dict es => some (e.1.shown, es)
    | _ => none
  ofPrint (sections.forM fun (name, es) => Terminal.table name es)

end Cli

end Refit
