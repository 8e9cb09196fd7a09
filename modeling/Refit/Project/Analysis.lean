import Refit.Project.Snapshot
import Refit.Failure

/-!
The analysis of the files of a project.
-/

namespace Refit

-- How much an analysis looks at: models, screens as well, or all there is.
inductive Depth where
  | shallow
  | medium
  | deep
  deriving DecidableEq, Repr

namespace Depth

def names : List String :=
  ["shallow", "medium", "deep"]

def ofDatum (d : Datum) : Except Stop Depth :=
  match d with
  | .text "shallow" => .ok shallow
  | .text "medium" => .ok medium
  | .text "deep" => .ok deep
  | d => do
    let _ ← d.toText.mapError .fault
    .error (.failure (.unknownDepth d names))

end Depth

namespace Analysis

-- The snapshot of files, given what their manifest and the layout of their folders say.
def snapshot (m : Manifest) (a : Assessment) (fs : List SourceFile) (depth : Depth) : Snapshot :=
  { name := .text m.name
    description := .text m.description
    flutterVersion := .text m.flutterVersion
    dartVersion := .text m.dartMin
    architecture := a
    dependencies := m.dependencies
    models := Model.ofFiles fs
    screens := if depth = .shallow then [] else Screen.ofFiles fs
    widgets := if depth = .deep then Widget.ofFiles fs else []
    theme := if depth = .deep then some (Theme.ofFiles fs) else none
    stats := Stats.ofFiles fs }

-- The manifest among files: the first one at a path that ends in its name.
def manifestOf (fs : List SourceFile) : Datum.Read (Option Manifest) :=
  match fs.find? (·.path.finishesWith Manifest.fileName) with
  | none => return none
  | some f => do return some (← Manifest.ofText f.content)

-- The snapshot of a list of files. A manifest that gives no name takes the given one.
def ofFiles (fs : List SourceFile) (name : String) (depth : Datum) : Except Stop Snapshot := do
  let depth ← Depth.ofDatum depth
  let m := ((← (manifestOf fs).mapError .fault)).getD {}
  let m := if m.name == "unknown" then { m with name := name } else m
  return snapshot m (Architecture.ofPaths (fs.map (·.path))) fs depth

def defaultName : String :=
  "unknown_project"

end Analysis

end Refit
