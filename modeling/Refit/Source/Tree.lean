import Refit.Session.Basic
import Refit.Source.Export
import Refit.Source.File

/-!
The source files in a folder of the disk.

Paths are given from the folder, in the order of their segments. A file that cannot be read as text
is left out.
-/

namespace Refit

namespace SourceTree

open Refit.Action (ask)

-- The path of a file below a folder that is looked at as a Dart source.
def dartPath? (n : List String × Disk.Node) : Option String :=
  let path := "/".joining n.1
  match n.2 with
  | .file _ => if Path.isDart path && !SourceFile.isExcluded path then some path else none
  | .folder => none

-- The Dart sources below a place.
def dartPathsAt (d : Disk) (p : List String) : List String :=
  (d.below p).filterMap dartPath?

-- The Dart sources in a folder. Where there is no folder there are none.
def dartPaths (root : Location) : Action (List String) :=
  ask fun d cwd => do
    if ← d.isFolder cwd root then return dartPathsAt d (← d.place cwd root) else return []

-- A file as text, if it is one.
def loadOne (root : Location) (path : String) (d : Disk) (cwd : List String) :
    Except Stop (Option SourceFile) :=
  match d.readText cwd (root ++ .ofText path) with
  | .ok s => .ok (some ⟨path, s⟩)
  | .error (.file _) | .error (.undecodable _) => .ok none
  | .error s => .error s

-- The files at paths, those left out that cannot be read.
def load (root : Location) (paths : List String) : Action (List SourceFile) :=
  ask fun d cwd => do return (← paths.mapM fun p => loadOne root p d cwd).filterMap id

-- The Dart sources of a folder that a selector admits.
def select (root : Location) (s : Selector) : Action (List SourceFile) := do
  load root ((← dartPaths root).filter s.admits)

-- The name of the file that describes a project.
def manifestName : String :=
  "pubspec.yaml"

-- The sources of a project, its manifest first.
def read (root : Location) : Action (List SourceFile) := do
  let paths ← dartPaths root
  let manifest := if ← Action.isFile (root.child manifestName) then [manifestName] else []
  load root (manifest ++ paths)

end SourceTree

-- The bytes in a folder, those below folders named `.git` left out.
def Disk.sizeOf (d : Disk) (p : List String) : Nat :=
  let sizes := (d.below p).map fun n =>
    match n.2 with
    | .file b => if n.1.dropLast.contains ".git" then 0 else b.length
    | .folder => 0
  sizes.foldl (· + ·) 0

def Action.sizeOf (l : Location) : Action Nat :=
  ask fun d cwd =>
    match d.place cwd l with
    | .ok p => .ok (d.sizeOf p)
    | .error (.file _) => .ok 0
    | .error s => .error s

-- The export in a file. Bytes that are no text are replaced.
def Export.inFile (l : Location) : Action Export := do
  if !(← Action.isFile l) then throw (.failure (.noExport (.text l.text)))
  let bytes ← Action.ask fun d cwd => d.readBytes cwd l
  return .ofText (Utf8.decodeLossy bytes).withUnixLines

end Refit
