import Refit.Project.Analysis
import Refit.Source.Tree

/-!
A project in a folder of the disk.
-/

namespace Refit

open Refit.Action (ask)

-- The manifest of the project in a folder.
def Manifest.inFolder (root : Location) : Action Manifest := do
  let l := root.child fileName
  if !(← Action.isFile l) then throw (.failure (.noManifest (.text l.text)))
  Action.ofRead (Manifest.ofText (← Action.readText l))

/-! Folder trees -/

-- The nodes in a folder, down to a depth. Hidden ones are left out. The paths begin with `path`,
-- and `name` is the name of the folder.
def Folder.nodesAt (d : Disk) : Nat → List String → String → String → List Folder
  | 0, _, _, _ => []
  | left + 1, at_, name, path =>
    ((d.children at_).filter (! ·.1.beginsWith ".")).map fun (own, n) =>
      let path := path ++ "/" ++ own
      match n with
      | .folder => .folder own path (nodesAt d left (at_ ++ [own]) own path)
      | .file _ => .file own path name

-- A place on the disk, none where the path leads nowhere.
def Disk.placeIfAny (d : Disk) (cwd : List String) (l : Location) :
    Except Stop (Option (List String)) :=
  match d.place cwd l with
  | .ok p => .ok (some p)
  | .error (.file _) => .ok none
  | .error s => .error s

-- The tree of a folder, its paths beginning with `path`.
def Folder.inFolder (l : Location) (path : String) (depth : Nat := Folder.depth) : Action Folder :=
  ask fun d cwd => do
    let nodes := match ← d.placeIfAny cwd l with
      | some p => nodesAt d depth p l.name path
      | none => []
    return .folder (if l.name == "" then path else l.name) path nodes

-- The names of the folders in a folder, hidden ones left out.
def Disk.folderNames (d : Disk) (p : List String) : List String :=
  (d.children p).filterMap fun n =>
    match n.2 with
    | .folder => if n.1.beginsWith "." then none else some n.1
    | .file _ => none

-- The architecture of the sources in a folder.
def Assessment.inFolder (l : Location) : Action Assessment := do
  let tree ← Folder.inFolder l (if l.name == "" then "lib" else l.name)
  ask fun d cwd => do
    let list : Architecture.Lister := match ← d.placeIfAny cwd l with
      | some p => fun at_ => d.folderNames (p ++ at_)
      | none => fun _ => []
    return Architecture.classify list tree

/-! Extraction -/

def Model.inFolder (root : Location) (withAbstract : Bool := false) : Action (List Model) := do
  return Model.ofFiles (← SourceTree.select root selector) withAbstract

def Screen.inFolder (root : Location) : Action (List Screen) := do
  return Screen.ofFiles (← SourceTree.select root selector)

def Widget.inFolder (root : Location) : Action (List Widget) := do
  return Widget.ofFiles (← SourceTree.select root selector)

def Theme.inFolder (root : Location) : Action Theme := do
  let fs ← SourceTree.select root selector
  if ← Action.isFile (root ++ .ofText entryPoint) then
    return Theme.ofFiles ((← SourceTree.load root [entryPoint]) ++ fs)
  else return Theme.ofFiles fs

/-! Analysis -/

namespace Analysis

-- How many files are counted.
def maxFiles : Int := 20000

def isCounted (n : List String × Disk.Node) : Bool :=
  match n.2 with
  | .file _ => !n.1.any fun s => s.beginsWith "." || SourceFile.skippedFolders.contains s
  | .folder => false

-- The files of a project up to a bound, hidden and built ones left out. At least one is counted.
def countFiles (bound : Int) (d : Disk) (p : List String) : Int :=
  min ((d.below p).filter isCounted).length (max 1 bound)

-- The snapshot of the project in a folder.
def inFolder (root : Location) (depth : Datum) (bound : Int := maxFiles) : Action Snapshot := do
  let depth ← Action.ofExcept (Depth.ofDatum depth)
  if root.text.toList.contains '\x00' then throw .nullInPath
  let place := root.resolved (← get).cwd
  let root := Location.absolute place
  if !(← Action.isFolder root) then
    throw (.failure (.badProject ("Not a directory: " ++ root.text) (.text root.text)))
  let sources := root.child "lib"
  if !(← Action.isFolder sources) then
    throw (.failure (.badProject ("No lib/ directory in " ++ root.text) (.text root.text)))
  let manifest ← Manifest.inFolder root
  let architecture ← Assessment.inFolder sources
  let s := snapshot manifest architecture (← SourceTree.read root) depth
  let count := countFiles bound (← get).disk place
  return { s with stats := { s.stats with files := count } }

end Analysis

end Refit
