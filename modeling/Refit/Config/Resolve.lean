import Refit.Config.EnvFile
import Refit.Config.Layer
import Refit.Toml.Reader
import Refit.Toml.Writer

/-!
The configuration of a session: where its files are, reading them and writing them.

A file that is not there or breaks its format counts as empty.
-/

namespace Refit

-- The folder of the user. A name with a tilde in front stands for no folder.
def Session.homeFolder? (s : Session) : Option Location :=
  match s.valueOf? "HOME" with
  | some p =>
    let p := p.withoutTrailing (· == '/')
    if p.beginsWith "~" then none else some (.ofText (if p.isEmpty then "/" else p))
  | none => some (.absolute s.home)

def Session.workFolder (s : Session) : Location :=
  .absolute s.cwd

namespace Config

/-! Files -/

def userFile : Action Location := do
  match (← get).homeFolder? with
  | some l => return ((l.child ".config").child "replant").child "config.toml"
  | none => throw .noHome

def projectFile : Action Location := do
  return (← get).workFolder.child ".replant.toml"

def environmentFile : Action Location := do
  return (← get).workFolder.child ".env"

-- The table of a text. A text that breaks the format counts as empty.
def tableOf (s : String) : Except Stop Dict :=
  match Toml.read s with
  | .ok t => .ok t
  | .error .malformed => .ok []
  | .error (.longInteger n) => .error (.fault (.longInteger n))
  | .error .tooDeep => .error (.fault .tooDeep)

-- The table of a file that is there.
def tableOfFile (l : Location) (d : Disk) (cwd : List String) : Except Stop Dict :=
  match d.readBytes cwd l with
  | .error (.file _) => .ok []
  | .error s => .error s
  | .ok b => do tableOf (← (Utf8.decode b).mapError .undecodable)

def readTable (l : Location) : Action Dict := do
  if ← Action.isFile l then Action.ask (tableOfFile l) else return []

-- Writes a table to a file as far as it can be written.
def writeTable (t : Dict) (l : Location) : Action Unit := do
  let (text, fault) := Toml.write t
  Action.change fun cwd => do
    Disk.makeFolders cwd l.parent
    Disk.writeText cwd l text
  match fault with
  | some f => throw (.fault f)
  | none => return

/-! Resolving -/

def orNone (l : Location) : Action (Option Location) := do
  return if ← Action.isFile l then some l else none

-- The configuration in force now. The variables of the environment file stay set.
def resolve : Action Resolved := do
  let user ← userFile
  let project ← projectFile
  let userTable ← readTable user
  let projectTable ← readTable project
  let file ← environmentFile
  if ← Action.isFile file then Action.loadVariables file
  let environment := (← get).valueOf?
  let data ← Action.ofRead (layered userTable projectTable environment)
  return ⟨data, ← orNone user, ← orNone project⟩

-- Resolves the configuration for the session.
def renew : Action Resolved := do
  let r ← resolve
  modify fun s => { s with config := some r }
  return r

-- The configuration of the session, which is resolved once.
def current : Action Resolved := do
  match (← get).config with
  | some r => return r
  | none => renew

def forget : Action Unit :=
  modify fun s => { s with config := none }

-- Sets a value in the file of the user, after which the configuration has to be resolved again.
def setUserValue (key : String) (v : Datum) : Action Unit := do
  let l ← userFile
  writeTable (assign (← readTable l) key v) l
  forget

-- Makes the file of the project.
def makeProjectFile : Action Location := do
  let l ← projectFile
  if ← Action.ask fun d cwd => d.isThere cwd l then throw (.configExists l.text)
  writeTable projectDefaults l
  return l

-- A place, and whether a file is there.
def placeText (l : Location) : Action String := do
  return l.text ++ " (" ++ (if ← Action.isFile l then "exists" else "not found") ++ ")"

def places : Action (List (String × String)) := do
  return [("global_config", ← placeText (← userFile)),
    ("project_config", ← placeText (← projectFile)),
    ("env_file", ← placeText (← environmentFile))]

-- What the configuration says on rebuilds.
def rebuildDefaults : Action Dict := do
  Action.ofRead ((← current).get "rebuild" (.dict [])).toDict

end Config

end Refit
