import Refit.Project.Record

/-!
The choices that steer a plan.
-/

namespace Refit

-- Each choice is kept as it was given; what counts is whether it is truthy, or its text.
structure Options where
  keepModels : Datum := .bool true
  keepScreens : Datum := .bool true
  applyDesign : Datum := .bool true
  offline : Datum := .bool true
  architecture : Datum := "keep"
  state : Datum := "keep"
  encryption : Datum := .bool false
  extraModules : Datum := .list []
  excludedModules : Datum := .list []
  deriving Inhabited

namespace Options

def toDatum (o : Options) : Datum :=
  .record [("keep_models", o.keepModels), ("keep_screen_structure", o.keepScreens),
    ("apply_design", o.applyDesign), ("add_offline_support", o.offline),
    ("target_architecture", o.architecture), ("target_state_management", o.state),
    ("enable_encryption", o.encryption), ("extra_modules", o.extraModules),
    ("exclude_modules", o.excludedModules)]

-- A choice that is not given, or given as `null`, has its default.
def ofDatum (d : Datum) : Datum.Read Options := do
  let es ← d.asDict "items"
  let choice (key : String) (fallback : Datum) : Datum :=
    match es.get key with
    | .null => fallback
    | v => v
  let o : Options := {}
  return {
    keepModels := choice "keep_models" o.keepModels
    keepScreens := choice "keep_screen_structure" o.keepScreens
    applyDesign := choice "apply_design" o.applyDesign
    offline := choice "add_offline_support" o.offline
    architecture := choice "target_architecture" o.architecture
    state := choice "target_state_management" o.state
    encryption := choice "enable_encryption" o.encryption
    extraModules := choice "extra_modules" o.extraModules
    excludedModules := choice "exclude_modules" o.excludedModules }

end Options

end Refit
