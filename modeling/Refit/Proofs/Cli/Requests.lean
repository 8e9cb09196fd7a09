import Refit.Cli.Commands
import Refit.Proofs.Plan.Worded

/-!
What a rebuild is asked for on command lines: in one that imports a project, or in three that
analyse it, plan anew and rebuild, with files between them.
-/

namespace Refit

namespace Cli

-- Where a project is: flattened in a file, or in a folder.
inductive Origin where
  | file
  | folder

namespace Origin

def key : Origin → String
  | file => "export"
  | folder => "source"

-- The sources that a rebuild may keep.
def files : Origin → Location → Action (List SourceFile)
  | file, l => do return (← Export.inFile l).dartFiles
  | folder, l => SourceTree.read l

end Origin

structure Request where
  source : String
  output : String
  analysisFile : String
  planFile : String
  branch : Option String := none
  depth : Option String := none
  migrateModels : Bool := false
  regenerateScreens : Bool := false
  noDesign : Bool := false
  noOffline : Bool := false
  architecture : Option String := none
  state : Option String := none
  encrypt : Bool := false
  modules : List String := []
  exclude : List String := []
  keepCode : Bool := true

namespace Request

-- A word that is given or not.
def word (key : String) (w : Option String) : List (String × Datum) :=
  (w.map fun w => (key, .text w)).toList

def arguments (es : List (String × Datum)) : Dict :=
  es.map fun e => (.text e.1, e.2)

-- The options that the command that plans and the one that imports have in common.
def options (q : Request) : List (String × Datum) :=
  [("migrate_models", .bool q.migrateModels), ("regenerate_screens", .bool q.regenerateScreens),
    ("no_design", .bool q.noDesign), ("no_offline", .bool q.noOffline),
    ("encrypt", .bool q.encrypt), ("modules", .list (q.modules.map .text)),
    ("exclude", .list (q.exclude.map .text))]
  ++ word "architecture" q.architecture ++ word "state" q.state

def analysing (q : Request) : Dict :=
  arguments ([("path", .text q.source), ("save", .text q.analysisFile)] ++ word "depth" q.depth)

def planning (q : Request) : Dict :=
  arguments ([("analysis_file", .text q.analysisFile), ("save", .text q.planFile)] ++ q.options)

def rebuilding (q : Request) (o : Origin) : Dict :=
  arguments [("schema_file", .text q.planFile), ("output", .text q.output),
    ("keep_code", .bool q.keepCode), (o.key, .text q.source)]

def importing (q : Request) : Dict :=
  arguments ([("output", .text q.output), ("keep_code", .bool q.keepCode)]
    ++ word "branch" q.branch ++ word "depth" q.depth ++ q.options)

-- The three commands, each of which has to end well for the next one.
def staged (yaml : Yaml.Library) (q : Request) (o : Origin) : Talk RebuildResult := do
  analyse yaml q.analysing
  plan yaml q.planning
  rebuilt yaml (q.rebuilding o)

-- The import that the one command carries out.
def imported (q : Request) (import_ : Import → Action ImportResult) : Talk ImportResult := do
  Talk.ofAction (import_ (← importOf q.importing))

variable {q : Request} {defaults : Dict}

@[simp] theorem get_arguments {es : List (String × Datum)} {key : String} {fallback : Datum} :
    Dict.get (arguments es) key fallback = (es.lookup key).getD fallback := by
  rw [Dict.get, arguments, Datum.get?_record]

@[simp] theorem lookup_word {key k : String} {w : Option String} :
    (word key w).lookup k = if k == key then w.map .text else none := by
  cases w <;> simp [word, lookup_cons_ite]

theorem choices_planning :
    choices defaults q.planning = choices defaults (arguments q.options) := by
  simp [choices, isOn, planning, lookup_cons_ite]

theorem choices_importing :
    choices defaults q.importing = choices defaults (arguments q.options) := by
  simp [choices, isOn, importing, lookup_cons_ite, List.lookup_append]

theorem architecture_choices : (choices defaults (arguments q.options)).architecture =
    .text (q.architecture.getD "keep") := by
  simp [choices, options, lookup_cons_ite, List.lookup_append]

theorem state_choices : (choices defaults (arguments q.options)).state =
    .text (q.state.getD "keep") := by
  simp [choices, options, lookup_cons_ite, List.lookup_append]

theorem extraModules_choices : (choices defaults (arguments q.options)).extraModules =
    .list (q.modules.map .text) := by
  simp [choices, options, lookup_cons_ite]

theorem excludedModules_choices : (choices defaults (arguments q.options)).excludedModules =
    .list (q.exclude.map .text) := by
  simp [choices, options, lookup_cons_ite]

theorem worded_choices : (choices defaults (arguments q.options)).Worded q.modules := by
  refine ⟨?_, ⟨_, architecture_choices⟩, ⟨_, state_choices⟩, extraModules_choices⟩
  rw [Options.toDatum, architecture_choices, state_choices, extraModules_choices,
    excludedModules_choices]
  exact ⟨trivial, trivial, trivial, trivial, trivial, trivial, trivial, trivial, trivial, trivial,
    trivial, trivial, trivial, trivial, trivial, Datum.allPlain_texts, trivial, Datum.allPlain_texts,
    trivial⟩

theorem fits_choices (hm : ∀ m ∈ q.modules, Path.Fits m) :
    (choices defaults (arguments q.options)).Fits where
  encryption := ⟨_, rfl⟩
  architecture := ⟨_, architecture_choices⟩
  state := ⟨_, state_choices⟩
  extraModules := ⟨_, extraModules_choices, hm⟩
  excludedModules := ⟨_, excludedModules_choices⟩

end Request

end Cli

end Refit
