import Refit.Yaml.Reader
import Refit.Yaml.Writer

/-!
What stores values as documents: a writer of texts, and a reader of what was written.
-/

namespace Refit.Yaml

structure Library where
  write : Datum → Except Fault String
  read : Portions → Except Failure Datum

namespace Library

def standard : Library :=
  ⟨Yaml.write, readPortions⟩

end Library

end Refit.Yaml
