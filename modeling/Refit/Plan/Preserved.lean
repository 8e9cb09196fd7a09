import Refit.Plan.Schema
import Refit.Source.Category

/-!
Which source files a rebuild keeps as they are.
-/

namespace Refit.Schema

-- The categories of which only the files named in the plan are kept.
def planned : List Category :=
  [.models, .screens, .widgets]

-- The files that are kept, by category.
def keptFiles (s : Schema) (fs : List SourceFile) : Datum.Read Groups := do
  let kept ← s.preserved.mapM Datum.asKey
  let isKept (f : SourceFile) : Bool := kept.any (Datum.same (.text f.path))
  return (Groups.ofFiles fs).filterMap fun (c, own) =>
    let own := if planned.any (·.name == c) then own.filter isKept else own
    if own.isEmpty then none else some (c, own)

end Refit.Schema
