import Refit.Config.Tree
import Refit.Disk.Location

/-!
A configuration in force.
-/

namespace Refit.Config

-- All values, and the files that they come from.
structure Resolved where
  data : Dict
  userFile : Option Location := none
  projectFile : Option Location := none
  deriving Inhabited

namespace Resolved

def get (r : Resolved) (key : String) (fallback : Datum := .null) : Datum :=
  lookup (.dict r.data) key fallback

def sources (r : Resolved) : List Datum :=
  [r.userFile, r.projectFile].map (.ofOption fun l => .text l.text)

def toDatum (r : Resolved) : Datum :=
  .record ([("data", .dict r.data)] ++ ["global_config_path", "project_config_path"].zip r.sources)

-- The configuration with its sources named.
def shown (r : Resolved) : Datum :=
  .record [("resolved", .dict r.data),
    ("sources", .record (["global_config", "project_config"].zip r.sources))]

end Resolved

end Refit.Config
