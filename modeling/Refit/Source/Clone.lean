import Refit.Source.Tree

/-!
Shallow clones of repositories, each in a temporary folder of its own.

A failed clone is a result, not an error, and leaves no folder behind. A clone that succeeded has to
be removed by its user.
-/

namespace Refit

structure Clone where
  success : Bool
  path : String := ""
  name : String := ""
  branch : Datum := ""
  commit : String := ""
  size : Nat := 0
  error : Option String := none

namespace Clone

def toDatum (c : Clone) : Datum :=
  .record [("success", .bool c.success), ("local_path", .text c.path), ("repo_name", .text c.name),
    ("branch", c.branch), ("commit", .text c.commit), ("size", .int c.size),
    ("error", .ofOption .text c.error)]

/-! Names and sizes -/

-- The last part of an address, without its ending.
def nameOf (url : String) : String :=
  let url := (url.withoutTrailing (· == '/')).replacing ":" "/"
  let tail := (url.splitAt '/').getLast?.getD ""
  let tail := if tail.finishesWith ".git" then tail.skipLastChars 4 else tail
  if tail == "" then "repo" else tail

-- A number of bytes as a float in a unit of `2 ^ power` bytes.
def inUnit (power : Nat) : Datum → Datum.Read Float
  | .float x => .ok (x / Number.nearestFloat (Number.twos power) 1)
  | d => do
    let i ← d.toInt
    if Datum.floatLimit * Number.twos power ≤ i.natAbs then .error .tooLarge
    else
      let x := Number.nearestFloat i.natAbs (Number.twos power)
      return if i < 0 then -x else x

-- A number of bytes in the unit that suits it.
def sizeTextOf (size : Datum) : Datum.Read String := do
  let isBelow (bound : Nat) : Bool :=
    match size with
    | .float x => x < Number.nearestFloat bound 1
    | d => (d.toInt.toOption).any (· < Int.ofNat bound)
  match size with
  | .bool _ | .int _ | .float _ =>
    if isBelow 1024 then return (← size.toText) ++ " B"
    else if isBelow (1024 * 1024) then return Number.fixed 1 (← inUnit 10 size) ++ " KB"
    else return Number.fixed 1 (← inUnit 20 size) ++ " MB"
  | d => .error (.mismatch ("'<' not supported between instances of '" ++ d.kind ++ "' and 'int'"))

def sizeText (size : Nat) : String :=
  ((sizeTextOf (.int size)).toOption).getD ""

/-! Cloning -/

def tempStart : String :=
  "replant-git-"

-- The number-th name of a temporary folder.
def tempName (n : Nat) : String :=
  tempStart ++ Number.padLeft 8 '0' (toString n)

-- The first number whose name is not taken. The names bound the search.
def freeName (taken : List String) : String :=
  (((List.range (taken.length + 1)).map tempName).find? fun n => !taken.contains n).getD tempStart

-- Makes a temporary folder.
def makeTemp : Action (List String) := do
  let s ← get
  let name := freeName ((s.disk.children s.temp).map Prod.fst)
  let p := s.temp ++ [name]
  set { s with disk := s.disk.set p .folder }
  return p

-- Removes a folder with all that is in it. A path that steps back, or stays where it is, leaves
-- the folder itself.
def removeFolder (p : List String) (whole : Bool) (d : Disk) : Disk :=
  let emptied := d.remove p
  if whole then emptied else emptied.set p .folder

def resolveCommit (l : Location) : Action String := do
  let words := ["git", "rev-parse", "HEAD"].map Datum.text
  match ← Action.run ⟨words, some l, .int 30⟩ with
  | .late | .absent => return "unknown"
  | .ended status output _ _ =>
    let s := output.stripped
    return if status != 0 || s == "" then "unknown" else s

-- Why a clone failed, if it did.
def troubleOf (timeout : Datum) : Outcome → Datum.Read (Option String)
  | .late => do return some ("git clone timed out (" ++ (← timeout.toText) ++ "s limit)")
  | .absent => return some "git is not installed or not in PATH"
  | .ended status _ errors _ =>
    if status == 0 then return none
    else
      let s := errors.stripped
      return some (if s == "" then "git clone failed with code " ++ toString status else s)

def words (url branch depth : Datum) (target : Location) : Datum.Read (List Datum) := do
  return ["git", "clone", "--branch", branch, "--depth", .text (← depth.toText), "--single-branch",
    "--", url, .text target.text]

def defaultTimeout : Int := 300

-- Clones a repository.
def make (url : String) (branch : Datum := "main") (depth : Datum := .int 1)
    (timeout : Datum := .int defaultTimeout) : Action Clone := do
  let name := nameOf url
  let temp ← makeTemp
  let l := Location.absolute temp ++ .ofText name
  let words ← Action.ofRead (words (.text url) branch depth l)
  let outcome ← Action.run ⟨words, none, timeout⟩
  match ← Action.ofRead (troubleOf timeout outcome) with
  | some e =>
    modify fun s => { s with disk := s.disk.remove temp }
    return { success := false, name := name, branch := branch, error := some e }
  | none =>
    let commit ← resolveCommit l
    let size ← Action.sizeOf l
    return ⟨true, l.text, name, branch, commit, size, none⟩

/-! Removing -/

-- What is removed with a clone: its temporary folder, or the clone alone if it has none.
def rootOf (l : Location) : Location :=
  if l.parent.name.beginsWith tempStart then l.parent else l

-- Removes a clone. Nothing happens where there is none.
def remove (path : String) : Action Unit := do
  if path == "" then return
  let l := rootOf (.ofText path)
  let whole := l.name != "" && l.name != ".."
  if ← Action.isFolder l then
    let p ← Action.ask fun d cwd => d.place cwd l
    modify fun s => { s with disk := removeFolder p whole s.disk }

end Clone

end Refit
