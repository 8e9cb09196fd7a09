import Refit.Text.Basic

/-!
Paths as their segments. Empty segments and single dots do not count, and an absolute path has the
root as its first segment.
-/

namespace Refit.Path

def root? : List Char → Option String
  | '/' :: '/' :: '/' :: _ => some "/"
  | '/' :: '/' :: _ => some "//"
  | '/' :: _ => some "/"
  | _ => none

-- The segments of a path below its root.
def steps (s : String) : List String :=
  ((Text.split '/' s.toList).map String.ofList).filter fun p => p != "" && p != "."

def parts (s : String) : List String :=
  (root? s.toList).toList ++ steps s

def folders (s : String) : List String :=
  (parts s).dropLast

-- The last segment below the root.
def name (s : String) : String :=
  (steps s).getLast?.getD ""

-- Whether one sequence of segments comes before another or is the same.
def before : List String → List String → Bool
  | [], _ => true
  | _ :: _, [] => false
  | a :: as, b :: bs => if a == b then before as bs else a < b

-- Whether the text is that of a Dart source.
def isDart (s : String) : Bool :=
  s.finishesWith ".dart"

end Refit.Path
