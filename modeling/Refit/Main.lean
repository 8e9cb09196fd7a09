import Refit.Cli.Program

/-!
The command line of the program.

What the words name, and the files of the configuration, are read into a session; the command runs
in it; and what it changed is written out. No other programs are run, so a clone reports that there
is none.
-/

namespace Refit.Outer

def pathText (p : List String) : String :=
  "/" ++ "/".joining p

-- Reads a place with all that is in it.
partial def readPlace (p : List String) (d : Disk) : IO Disk := do
  let here := (← IO.currentDir) / pathText p
  if ← here.isDir then
    let mut d := d.set p .folder
    for e in ← here.readDir do
      d ← readPlace (p ++ [e.fileName]) d
    return d
  else if ← here.pathExists then
    return d.set p (.file (← IO.FS.readBinFile here).toList)
  else return d

-- Notes the folders around a place.
def readAround (p : List String) (d : Disk) : IO Disk := do
  let mut d := d
  for i in List.range (p.length - 1) do
    let q := p.take (i + 1)
    if ← ((← IO.currentDir) / pathText q).isDir then d := d.set q .folder
  return d

def readPlaces (ps : List (List String)) : IO Disk := do
  let mut d := Disk.empty
  for p in ps do
    d ← readPlace p (← readAround p d)
  return d

def variableNames : List String :=
  ["HOME", "REPLANT_DEBUG", Action.disablingVariable] ++ Config.settingVariables.map Prod.fst

def readVariables : IO (List (String × String)) := do
  let mut found := []
  for n in variableNames do
    if let some v ← IO.getEnv n then found := found ++ [(n, v)]
  return found

-- The places that words may name. Without one it is the working folder.
def placesOf (cwd : List String) (words : List String) : List (List String) :=
  let named := (words.filter fun w => w != "" && !w.beginsWith "-").map fun w =>
    (Location.ofText w).resolved cwd
  if named.length ≤ 1 then cwd :: named else named

def sessionOf (words : List String) : IO Session := do
  let cwd := Path.steps (toString (← IO.currentDir))
  let temp := ["tmp"]
  let s : Session :=
    { disk := .empty
      cwd := cwd
      home := []
      temp := temp
      environment := ← readVariables
      programs := { script := List.replicate 8 .absent } }
  let user := (s.homeFolder?.map fun l =>
    l.resolved cwd ++ [".config", "replant", "config.toml"]).toList
  let own := user ++ [cwd ++ [".replant.toml"], cwd ++ [".env"]]
  let disk ← readPlaces (own ++ placesOf cwd words)
  return { s with disk := (disk.set temp .folder).set cwd .folder }

-- Writes out what is new or changed, and removes what is gone.
def writeChanges (old new : Disk) : IO Unit := do
  let here ← IO.currentDir
  for (p, n) in new.nodes do
    if old.find? p != some n then
      match n with
      | .folder => IO.FS.createDirAll (here / pathText p)
      | .file b =>
        IO.FS.createDirAll (here / pathText p.dropLast)
        IO.FS.writeBinFile (here / pathText p) ⟨b.toArray⟩
  for (p, n) in old.nodes do
    match n, new.find? p with
    | .file _, none => IO.FS.removeFile (here / pathText p)
    | _, _ => pure ()

end Refit.Outer

open Refit in
-- Carries out a command line.
def main (words : List String) : IO UInt32 := do
  let s ← Outer.sessionOf words
  let (o, s') := (Cli.run words).run s
  Outer.writeChanges s.disk s'.disk
  IO.print o.output
  IO.eprint o.errors
  return UInt32.ofNat o.status
