import Refit.Config.Resolved
import Refit.Session.Program

/-!
What a command works with: the disk, the folders it starts from, the environment, the programs and
the configuration.

An action that stops leaves what it did before.
-/

namespace Refit

structure Session where
  disk : Disk
  -- The working folder, by its segments from the root.
  cwd : List String
  home : List String
  temp : List String
  environment : List (String × String) := []
  programs : Programs := {}
  -- The configuration, once it is resolved.
  config : Option Config.Resolved := none
  deriving Inhabited

abbrev Action := ExceptT Stop (StateM Session)

namespace Session

def valueOf? (s : Session) (name : String) : Option String :=
  s.environment.lookup name

def setVariable (s : Session) (name value : String) : Session :=
  { s with environment := (s.environment.filter (·.1 != name)) ++ [(name, value)] }

def unsetVariable (s : Session) (name : String) : Session :=
  { s with environment := s.environment.filter (·.1 != name) }

end Session

namespace Action

-- A question about the disk, asked from the working folder.
def ask (q : Disk → List String → Except Stop α) : Action α :=
  ExceptT.mk do
    let s ← get
    return q s.disk s.cwd

-- A change of the disk.
def change (c : List String → Disk.Change α) : Action α :=
  ExceptT.mk do
    let s ← get
    let (r, d) := (c s.cwd).run.run s.disk
    set { s with disk := d }
    return r

def ofExcept (r : Except Stop α) : Action α :=
  ExceptT.mk (return r)

def ofRead (r : Datum.Read α) : Action α :=
  ofExcept (r.mapError .fault)

def isFile (l : Location) : Action Bool :=
  ask fun d cwd => d.isFile cwd l

def isFolder (l : Location) : Action Bool :=
  ask fun d cwd => d.isFolder cwd l

def readText (l : Location) : Action String :=
  ask fun d cwd => d.readText cwd l

-- Writes the files of an outcome, which lie below a place.
def placeFiles (target : Location) (cwd : List String) :
    List (Location × List UInt8) → Disk.Change Unit
  | [] => return
  | (l, content) :: r => do
    let own := target ++ l
    Disk.makeFolders cwd own.parent
    Disk.writeBytes cwd own content
    placeFiles target cwd r

-- Runs a program.
def run (c : Command) : Action Outcome := do
  let (o, p) := (← get).programs.next c
  modify fun s => { s with programs := p }
  match o with
  | .ended _ _ _ files => change fun cwd => placeFiles c.target cwd files
  | _ => pure ()
  return o

-- The result of an action, whatever stops it.
def outcome (a : Action α) : Action (Except Stop α) :=
  ExceptT.mk do return .ok (← ExceptT.run a)

end Action

end Refit
