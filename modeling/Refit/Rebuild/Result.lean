import Refit.Datum.Fault

/-!
What a rebuild reports.
-/

namespace Refit

structure RebuildResult where
  success : Bool
  output : Datum
  projectId : Datum := .null
  generated : Int := 0
  copied : Int := 0
  installed : Int := 0
  warnings : List Datum := []
  nextSteps : List Datum := []
  error : Datum := .null
  deriving Inhabited

namespace RebuildResult

def toDatum (r : RebuildResult) : Datum :=
  .record [("success", .bool r.success), ("output_path", r.output), ("project_id", r.projectId),
    ("files_generated", .int r.generated), ("files_copied", .int r.copied),
    ("modules_installed", .int r.installed), ("warnings", .list r.warnings),
    ("next_steps", .list r.nextSteps), ("error", r.error)]

end RebuildResult

end Refit
