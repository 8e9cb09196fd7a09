import Refit.Config.Tree

/-!
The layers of the configuration: built-in values, the file of the user, the file of the project, and
the environment, each laid over those before it.
-/

namespace Refit.Config

open Datum (Read)

-- The built-in values.
def defaults : Dict :=
  let section_ (name : String) (es : List (String × Datum)) : Datum × Datum :=
    (.text name, .record es)
  [section_ "clone" [("branch", "main"), ("depth", .int 1), ("timeout", .int 300)],
    section_ "analysis" [("depth", "deep")],
    section_ "rebuild" [("keep_models", .bool true), ("keep_screen_structure", .bool true),
      ("apply_design", .bool true), ("add_offline_support", .bool true),
      ("run_flutter_create", .bool false), ("format_code", .bool false),
      ("generate_tests", .bool false)],
    section_ "ui" [("plain_output", .bool false)]]

-- What a new file of a project holds.
def projectDefaults : Dict :=
  let section_ (name : String) (es : List (String × Datum)) : Datum × Datum :=
    (.text name, .record es)
  [section_ "clone" [("branch", "main"), ("depth", .int 1)],
    section_ "analysis" [("depth", "deep")],
    section_ "rebuild" [("keep_models", .bool true), ("keep_screen_structure", .bool true),
      ("add_offline_support", .bool true)]]

/-! The environment -/

-- The variables that set a value, and its key.
def settingVariables : List (String × String) :=
  [("REPLANT_CLONE_BRANCH", "clone.branch"), ("REPLANT_CLONE_DEPTH", "clone.depth"),
    ("REPLANT_CLONE_TIMEOUT", "clone.timeout"), ("REPLANT_ANALYZE_DEPTH", "analysis.depth"),
    ("REPLANT_PLAIN", "ui.plain_output"), ("REPLANT_RUN_FLUTTER", "rebuild.run_flutter_create")]

-- A truth value in words.
def truthOf? (s : String) : Option Bool :=
  if ["true", "1", "yes"].contains s.lowered then some true
  else if ["false", "0", "no"].contains s.lowered then some false
  else none

def isNumeral (s : String) : Bool :=
  let cs := s.stripped.toList
  !cs.isEmpty && cs.all Letter.isDigit

-- The value that a variable stands for, by the kind of the built-in one. A text that does not fit
-- leaves the built-in value.
def coerce (s : String) (builtIn : Datum) : Read Datum :=
  match builtIn with
  | .bool b => .ok (.bool ((truthOf? s).getD b))
  | .int i => if isNumeral s then (Datum.readInteger s).map .int else .ok (.int i)
  | _ => .ok (.text s)

-- Lays variables over a table.
def overlay (environment : String → Option String) : List (String × String) → Dict → Read Dict
  | [], es => .ok es
  | (name, key) :: vs, es =>
    match environment name with
    | none => overlay environment vs es
    | some s => do
      overlay environment vs (assign es key (← coerce s (lookup (.dict defaults) key)))

-- All layers as one table.
def layered (user project : Dict) (environment : String → Option String) : Read Dict :=
  overlay environment settingVariables (merge (merge defaults user) project)

end Refit.Config
