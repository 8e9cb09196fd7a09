import Refit.Datum.Fault
import Refit.Text.Basic

/-!
Nested tables and the dotted keys that lead into them.

A path is the list of names on the way. What is no table is a leaf, and `null` counts as nothing.
-/

namespace Refit.Config

-- The names of a dotted key.
def path (key : String) : List String :=
  key.splitAt '.'

-- A value that is there.
def present? (d : Option Datum) : Option Datum :=
  match d with
  | some .null => none
  | d => d

-- The value at a path.
def find? : List String → Datum → Option Datum
  | [], d => some d
  | k :: ks, .dict es =>
    match present? (Dict.get? es k) with
    | some d => find? ks d
    | none => none
  | _ :: _, _ => none

def lookup (d : Datum) (key : String) (fallback : Datum := .null) : Datum :=
  (find? (path key) d).getD fallback

-- The table at a name. A leaf there gives way to an empty table.
def tableAt (es : Dict) (k : String) : Dict :=
  match es.get? k with
  | some (.dict fs) => fs
  | _ => []

-- Sets the value at a path.
def assignAt : List String → Datum → Dict → Dict
  | [], _, es => es
  | [k], v, es => es.set k v
  | k :: ks, v, es => es.set k (.dict (assignAt ks v (tableAt es k)))

def assign (es : Dict) (key : String) (v : Datum) : Dict :=
  assignAt (path key) v es

mutual

-- A table laid over another. Where both have a table the two are merged, and else the upper one
-- counts.
def merge (lower : Dict) : List (Datum × Datum) → Dict
  | [] => lower
  | (k, v) :: upper => merge (lower.put k (mergeValue (lower.at? k) v)) upper

def mergeValue (lower : Option Datum) : Datum → Datum
  | .dict upper =>
    match lower with
    | some (.dict es) => .dict (merge es upper)
    | _ => .dict upper
  | v => v

end

end Refit.Config
