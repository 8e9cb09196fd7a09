import Refit.Source.Path

/-!
Paths of the file system, from the root or from the working folder.
-/

namespace Refit

-- A path as its segments. Two dots step back to the folder around, when the path is walked.
structure Location where
  root : Option String
  steps : List String
  deriving DecidableEq, Repr, Inhabited

namespace Location

def ofText (s : String) : Location :=
  ⟨Path.root? s.toList, Path.steps s⟩

def text (l : Location) : String :=
  match l.root, l.steps with
  | none, [] => "."
  | none, s => "/".joining s
  | some r, s => r ++ "/".joining s

-- A path followed by another, which stands alone if it starts from the root.
def join (a b : Location) : Location :=
  match b.root with
  | some _ => b
  | none => { a with steps := a.steps ++ b.steps }

instance : Append Location := ⟨join⟩

def child (l : Location) (name : String) : Location :=
  { l with steps := l.steps ++ [name] }

-- The path without its last segment.
def parent (l : Location) : Location :=
  { l with steps := l.steps.dropLast }

def name (l : Location) : String :=
  l.steps.getLast?.getD ""

-- The segments from the root, every step back taken.
def settle (steps : List String) : List String :=
  steps.foldl (fun at_ s => if s == ".." then at_.dropLast else at_ ++ [s]) []

-- The segments from the root of a path that is taken from a folder.
def from_ (cwd : List String) (l : Location) : List String :=
  match l.root with
  | some _ => l.steps
  | none => cwd ++ l.steps

def resolved (cwd : List String) (l : Location) : List String :=
  settle (l.from_ cwd)

-- The path from the root with certain segments.
def absolute (steps : List String) : Location :=
  ⟨some "/", steps⟩

end Location

end Refit
