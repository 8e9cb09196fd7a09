import Refit.Project.Record
import Refit.Source.Path

/-!
Snapshots of folder trees.
-/

namespace Refit

-- A folder or a file. A file has a type and a category.
inductive Folder where
  | node (name path type : Datum) (children : List Folder) (fileType category : Datum)
  deriving Inhabited

namespace Folder

def name : Folder → Datum
  | node n _ _ _ _ _ => n

def path : Folder → Datum
  | node _ p _ _ _ _ => p

def type : Folder → Datum
  | node _ _ t _ _ _ => t

def children : Folder → List Folder
  | node _ _ _ cs _ _ => cs

mutual

def toDatum : Folder → Datum
  | node n p t cs f c =>
    .record [("name", n), ("path", p), ("type", t), ("children", .list (toDatums cs)),
      ("file_type", f), ("category", c)]

def toDatums : List Folder → List Datum
  | [] => []
  | c :: cs => toDatum c :: toDatums cs

end

-- The depth of nesting of a value bounds the depth of the tree in it, unless the value holds
-- itself.
def ofDatumFrom : Nat → Datum → Datum.Read Folder
  | 0, _ => .error .tooDeep
  | n + 1, d => do
    let name ← Record.optional d "name" ""
    let path ← Record.optional d "path" ""
    let type ← Record.optional d "type" "directory"
    let children ← (← (← Record.orElse d "children" (.list [])).items).mapM (ofDatumFrom n)
    let fileType ← Record.optional d "file_type" .null
    let category ← Record.optional d "category" .null
    return node name path type children fileType category

def ofDatum (d : Datum) : Datum.Read Folder :=
  ofDatumFrom (d.depth + 1) d

-- The types of files that are told apart, by their ending.
def fileTypeOf (name : String) : String :=
  if name.finishesWith ".dart" then "dart"
  else if name.finishesWith ".yaml" || name.finishesWith ".yml" then "yaml"
  else if name.finishesWith ".json" then "json"
  else "other"

-- The part a file plays, by the folder it is in.
def categoryOf (name parent : String) : String :=
  let f := parent.lowered
  if f.holds "model" || name.holds "_model" then "model"
  else if f.holds "screen" || f.holds "page" then "screen"
  else if f.holds "widget" then "widget"
  else if f.holds "provider" || f.holds "bloc" then "provider"
  else if f.holds "service" || f.holds "repository" then "service"
  else if f.holds "theme" then "theme"
  else if f.holds "route" then "route"
  else "unknown"

def file (name path parent : String) : Folder :=
  node (.text name) (.text path) "file" [] (.text (fileTypeOf name))
    (.text (categoryOf name parent))

def folder (name path : String) (children : List Folder) : Folder :=
  node (.text name) (.text path) "directory" children .null .null

-- How many levels below the root a snapshot shows.
def depth : Nat := 3

end Folder

end Refit
