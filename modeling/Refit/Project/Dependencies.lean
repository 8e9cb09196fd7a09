import Refit.Project.Record

/-!
The technologies of a project, by the names of the packages that it declares. Of several libraries
for one purpose the first in the order of the lists here counts.
-/

namespace Refit

structure Dependencies where
  state : Datum := "none"
  persistence : Datum := "none"
  networking : Datum := "none"
  navigation : Datum := "none"
  statePackages : List Datum := []
  persistencePackages : List Datum := []
  networkPackages : List Datum := []
  navigationPackages : List Datum := []
  usesFreezed : Bool := false
  usesJsonSerializable : Bool := false
  usesBuildRunner : Bool := false
  runtime : Dict := []
  dev : Dict := []
  deriving Inhabited

namespace Dependencies

def toDatum (d : Dependencies) : Datum :=
  .record [("state_management", d.state), ("persistence", d.persistence),
    ("networking", d.networking), ("navigation", d.navigation),
    ("state_packages", .list d.statePackages),
    ("persistence_packages", .list d.persistencePackages),
    ("network_packages", .list d.networkPackages),
    ("navigation_packages", .list d.navigationPackages), ("uses_freezed", .bool d.usesFreezed),
    ("uses_json_serializable", .bool d.usesJsonSerializable),
    ("uses_build_runner", .bool d.usesBuildRunner), ("runtime", .dict d.runtime),
    ("dev", .dict d.dev)]

def ofDatum (d : Datum) : Datum.Read Dependencies := do
  let state ← Record.optional d "state_management" "none"
  let persistence ← Record.optional d "persistence" "none"
  let networking ← Record.optional d "networking" "none"
  let navigation ← Record.optional d "navigation" "none"
  let statePackages ← Record.items d "state_packages"
  let persistencePackages ← Record.items d "persistence_packages"
  let networkPackages ← Record.items d "network_packages"
  let navigationPackages ← Record.items d "navigation_packages"
  let freezed ← Record.flag d "uses_freezed"
  let jsonSerializable ← Record.flag d "uses_json_serializable"
  let buildRunner ← Record.flag d "uses_build_runner"
  let runtime ← (← Record.orElse d "runtime" (.dict [])).toDict
  let dev ← (← Record.orElse d "dev" (.dict [])).toDict
  return ⟨state, persistence, networking, navigation, statePackages, persistencePackages,
    networkPackages, navigationPackages, freezed, jsonSerializable, buildRunner, runtime, dev⟩

-- The libraries for one purpose, each with its packages.
abbrev Purpose := List (String × List String)

def stateLibraries : Purpose :=
  [("riverpod", ["flutter_riverpod", "riverpod", "hooks_riverpod"]),
    ("bloc", ["flutter_bloc", "bloc", "hydrated_bloc"]), ("provider", ["provider"]),
    ("getx", ["get", "getx"]), ("mobx", ["flutter_mobx", "mobx"])]

def persistenceLibraries : Purpose :=
  [("drift", ["drift", "drift_flutter", "moor", "moor_flutter"]), ("sqflite", ["sqflite"]),
    ("hive", ["hive", "hive_flutter"]), ("isar", ["isar", "isar_flutter_libs"])]

def networkLibraries : Purpose :=
  [("dio", ["dio"]), ("http", ["http"]), ("chopper", ["chopper"]), ("retrofit", ["retrofit"])]

def navigationLibraries : Purpose :=
  [("go_router", ["go_router"]), ("auto_route", ["auto_route"])]

variable (declared : String → Bool)

-- The first library of which a package is declared.
def library (p : Purpose) : String :=
  ((p.find? fun l => l.2.any declared).map (·.1)).getD "none"

-- The declared packages for a purpose.
def packages (p : Purpose) : List String :=
  (p.flatMap (·.2)).filter declared

-- The technologies of a project that declares these packages to run and to develop.
def ofPackages (runtime dev : Dict) : Dependencies :=
  let declared (name : String) : Bool := runtime.has name || dev.has name
  { state := .text (library declared stateLibraries)
    persistence := .text (library declared persistenceLibraries)
    networking := .text (library declared networkLibraries)
    navigation := .text (library declared navigationLibraries)
    statePackages := (packages declared stateLibraries).map .text
    persistencePackages := (packages declared persistenceLibraries).map .text
    networkPackages := (packages declared networkLibraries).map .text
    navigationPackages := (packages declared navigationLibraries).map .text
    usesFreezed := declared "freezed" || declared "freezed_annotation"
    usesJsonSerializable := declared "json_serializable" || declared "json_annotation"
    usesBuildRunner := declared "build_runner"
    runtime := runtime
    dev := dev }

end Dependencies

end Refit
