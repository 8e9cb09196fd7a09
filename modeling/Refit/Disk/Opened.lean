import Refit.Disk.Basic
import Refit.Text.Portions

/-!
Files that are named by a text as it stands.

Unlike a path, the text keeps single dots and doubled slashes in what is said about it, and a slash
at its end asks for a folder.
-/

namespace Refit

namespace FileTrouble

-- The same trouble with another path.
def at_ (path : String) : FileTrouble → FileTrouble
  | missing _ => missing path
  | present _ => present path
  | notFolder _ => notFolder path
  | isFolder _ => isFolder path
  | nameTooLong _ => nameTooLong path

end FileTrouble

namespace Disk

-- A text with a slash at its end names a folder.
def namesFolder (name : String) : Bool :=
  name.finishesWith "/" || name.finishesWith "/."

-- The text of the file with a name, in portions.
def readNamed (d : Disk) (cwd : List String) (name : String) : Except Stop Portions := do
  if name == "" then throw (.file (.missing name))
  match d.readBytes cwd (.ofText name) with
  | .ok b => if namesFolder name then .error (.file (.notFolder name)) else .ok (.ofBytes b)
  | .error (.file t) => .error (.file (t.at_ name))
  | .error s => .error s

end Disk

end Refit
