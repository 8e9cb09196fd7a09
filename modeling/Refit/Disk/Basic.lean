import Refit.Disk.Location
import Refit.Failure

/-!
A tree of folders and files.

A path is walked segment by segment: each one before the last has to be a folder. A refused change
leaves what came before it done.
-/

namespace Refit

namespace Disk

inductive Node where
  | folder
  | file (content : List UInt8)
  deriving DecidableEq, Repr, Inhabited

end Disk

-- What is on the disk below its root, by the segments that lead there.
structure Disk where
  nodes : List (List String × Disk.Node)
  deriving Repr, Inhabited

namespace Disk

def empty : Disk :=
  ⟨[]⟩

-- What is at a place. The root is a folder.
def find? (d : Disk) (p : List String) : Option Node :=
  if p.isEmpty then some .folder else d.nodes.lookup p

-- Sets what is at a place.
def setNode (p : List String) (n : Node) : List (List String × Node) → List (List String × Node)
  | [] => [(p, n)]
  | (q, m) :: r => if p == q then (q, n) :: r else (q, m) :: setNode p n r

def set (d : Disk) (p : List String) (n : Node) : Disk :=
  ⟨setNode p n d.nodes⟩

-- Removes a place and all below it.
def remove (d : Disk) (p : List String) : Disk :=
  ⟨d.nodes.filter fun n => !p.isPrefixOf n.1⟩

-- What is in a folder, by name.
def children (d : Disk) (p : List String) : List (String × Node) :=
  let inside := d.nodes.filterMap fun n =>
    if n.1.dropLast == p then n.1.getLast?.map (·, n.2) else none
  inside.mergeSort fun a b => a.1 ≤ b.1

-- What is below a place at any depth, by the segments from there.
def below (d : Disk) (p : List String) : List (List String × Node) :=
  let inside := d.nodes.filterMap fun n =>
    if p.isPrefixOf n.1 && n.1 != p then some (n.1.drop p.length, n.2) else none
  inside.mergeSort fun a b => Path.before a.1 b.1

/-! Walking -/

-- How many bytes a name may have, and a whole path.
def nameLimit : Nat := 255

def pathLimit : Nat := 4095

-- The place that segments lead to from a folder.
def walk (d : Disk) (at_ : List String) :
    List String → Except (String → FileTrouble) (List String)
  | [] => .ok at_
  | s :: rest =>
    match d.find? at_ with
    | none => .error .missing
    | some (.file _) => .error .notFolder
    | some .folder =>
      if s == ".." then walk d at_.dropLast rest
      else if nameLimit < s.utf8ByteSize then .error .nameTooLong
      else walk d (at_ ++ [s]) rest

-- The place that a path leads to. It need not be there, but the folder around it is.
def place (d : Disk) (cwd : List String) (l : Location) : Except Stop (List String) :=
  if l.text.toList.contains '\x00' then .error .nullInPath
  else if pathLimit < l.text.utf8ByteSize then .error (.file (.nameTooLong l.text))
  else
    let start := if l.root.isSome then [] else cwd
    (d.walk start l.steps).mapError fun t => .file (t l.text)

/-! Looking -/

-- What a path leads to, if anything.
def look? (d : Disk) (cwd : List String) (l : Location) : Except Stop (Option Node) :=
  match d.place cwd l with
  | .ok p => .ok (d.find? p)
  | .error (.file (.nameTooLong p)) => .error (.file (.nameTooLong p))
  | .error _ => .ok none

def isFile (d : Disk) (cwd : List String) (l : Location) : Except Stop Bool := do
  return match ← d.look? cwd l with
    | some (.file _) => true
    | _ => false

def isFolder (d : Disk) (cwd : List String) (l : Location) : Except Stop Bool := do
  return match ← d.look? cwd l with
    | some .folder => true
    | _ => false

def isThere (d : Disk) (cwd : List String) (l : Location) : Except Stop Bool := do
  return (← d.look? cwd l).isSome

def readBytes (d : Disk) (cwd : List String) (l : Location) : Except Stop (List UInt8) := do
  match d.find? (← d.place cwd l) with
  | some (.file b) => .ok b
  | some .folder => .error (.file (.isFolder l.text))
  | none => .error (.file (.missing l.text))

-- The text of a file, its lines ended as usual.
def readText (d : Disk) (cwd : List String) (l : Location) : Except Stop String := do
  let s ← (Utf8.decode (← d.readBytes cwd l)).mapError .undecodable
  return s.withUnixLines

/-! Changing -/

abbrev Change := ExceptT Stop (StateM Disk)

def lift (r : Disk → Except Stop α) : Change α := do
  ExceptT.mk (return r (← get))

-- Makes a folder in a folder that is there.
def makeFolder (cwd : List String) (l : Location) : Change Unit := do
  let p ← lift fun d => d.place cwd l
  match (← get).find? p with
  | some _ => throw (.file (.present l.text))
  | none => modify fun d => d.set p .folder

-- A folder that is there already is no trouble.
def unlessFolder (cwd : List String) (l : Location) (s : Stop) : Change Unit := do
  if ← lift fun d => d.isFolder cwd l then return else throw s

-- Makes a folder with all folders around it. The number bounds how many are missing.
def makeFoldersFrom (cwd : List String) : Nat → Location → Change Unit
  | n, l => do
    try makeFolder cwd l
    catch s =>
      match s with
      | .file (.missing _) =>
        match n with
        | 0 => throw s
        | n + 1 => do
          makeFoldersFrom cwd n l.parent
          try makeFolder cwd l
          catch s =>
            match s with
            | .file (.missing _) => throw s
            | .file _ => unlessFolder cwd l s
            | _ => throw s
      | .file _ => unlessFolder cwd l s
      | _ => throw s

def makeFolders (cwd : List String) (l : Location) : Change Unit :=
  makeFoldersFrom cwd l.steps.length l

def writeBytes (cwd : List String) (l : Location) (content : List UInt8) : Change Unit := do
  let p ← lift fun d => d.place cwd l
  match (← get).find? p with
  | some .folder => throw (.file (.isFolder l.text))
  | _ => modify fun d => d.set p (.file content)

def writeText (cwd : List String) (l : Location) (content : String) : Change Unit :=
  writeBytes cwd l content.toUTF8.toList

-- Writes a file, making the folders around it.
def store (cwd : List String) (l : Location) (content : String) : Change Unit := do
  makeFolders cwd l.parent
  writeText cwd l content

end Disk

end Refit
