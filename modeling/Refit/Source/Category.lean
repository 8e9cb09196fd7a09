import Refit.Source.File

/-!
The categories of source files, each named for the folder that its files are kept in.

A file belongs to the first category that claims it.
-/

namespace Refit

inductive Category where
  | models
  | screens
  | providers
  | widgets
  | theme
  | utils
  | services
  | config
  deriving DecidableEq, Repr

namespace Category

-- The categories, in the order in which they claim files.
def all : List Category :=
  [models, screens, providers, widgets, theme, utils, services, config]

def name : Category → String
  | models => "models"
  | screens => "screens"
  | providers => "providers"
  | widgets => "widgets"
  | theme => "theme"
  | utils => "utils"
  | services => "services"
  | config => "config"

def selector : Category → Selector
  | models => ⟨["models", "entities"], ["_model", "_entity"]⟩
  | screens => ⟨["screens", "pages", "views", "presentation"], ["_screen", "_page"]⟩
  | providers =>
    ⟨["providers", "blocs", "cubits", "riverpod", "state"], ["_provider", "_bloc", "_cubit"]⟩
  | widgets => ⟨["widgets", "components"], ["_widget"]⟩
  | theme => ⟨["theme", "themes"], ["theme"]⟩
  | utils => ⟨["utils", "helpers", "extensions"], ["_utils", "_helper", "_extension"]⟩
  | services => ⟨["services", "repositories", "api"], ["_service", "_repository"]⟩
  | config => ⟨["config", "constants", "routes"], ["_config", "_constants", "_router"]⟩

-- The category that a path belongs to.
def of? (path : String) : Option Category :=
  if SourceFile.isExcluded path then none else all.find? fun c => c.selector.admits path

-- A file that is kept, below the folder of its category.
def target (category path : String) : String :=
  let mark := '/' :: category.toList ++ ['/']
  let kept := match Text.afterLast? mark ('/' :: path.toList) with
    | some s => String.ofList s
    | none => Path.name path
  "lib/" ++ category ++ "/" ++ kept

end Category

-- Files by the name of their category, in the order of the categories.
abbrev Groups := List (String × List SourceFile)

namespace Groups

-- The files that each category in turn selects among those that no earlier one has.
def claim : List String → List Category → List SourceFile → Groups
  | _, [], _ => []
  | taken, c :: cs, fs =>
    let own := (c.selector.select fs).filter fun f => !taken.contains f.path
    let rest := claim (taken ++ own.map (·.path)) cs fs
    if own.isEmpty then rest else (c.name, own) :: rest

def ofFiles (fs : List SourceFile) : Groups :=
  claim [] Category.all (fs.filter (Path.isDart ·.path))

def get (g : Groups) (category : String) : List SourceFile :=
  (g.lookup category).getD []

end Groups

end Refit
